import Wiring.Facts
/-!
# TypeName — the grammar of type names

A type name is a path: segments with a separator behind each but the last.  Taking a text apart, at `::` first and then
at dots, gives the segments between its separators in one pass (`segments_cons` and the equations beside it), so that
every text is spelled from its pieces (`exists_spelling`) and a path is taken apart into its own segments
(`segments_spelled`).  From the right the first separator met is the one before the last segment
(`behindDot_behindColons_spelled`).
-/
namespace Wiring
namespace TypeName

open Text (isAlphanumeric isAsciiDigit pieces pieces_ne_nil)

/-- What stands between separators: letters, numbers, `_` and `$`, at least one, and no ASCII digit in front. -/
structure IsSegment (s : List Char) : Prop where
  nonempty : s ≠ []
  chars : ∀ c ∈ s, isAlphanumeric c = true ∨ c = '_' ∨ c = '$'
  first : ∀ c ∈ s.head?, isAsciiDigit c = false

inductive Separator where
  | dot
  | colons

def Separator.chars : Separator → List Char
  | .dot => ['.']
  | .colons => [':', ':']

/-- The text of pieces, a separator behind each but the last. -/
def spelled (front : List (List Char × Separator)) (last : List Char) : List Char :=
  front.flatMap (fun p => p.1 ++ p.2.chars) ++ last

/-- A type name taken apart. -/
@[ext]
structure Path where
  front : List (List Char × Separator)
  last : List Char
  front_isSegment : ∀ p ∈ front, IsSegment p.1
  last_isSegment : IsSegment last

def Path.name (p : Path) : String := String.ofList (spelled p.front p.last)

theorem spelled_cons (s : List Char) (sep : Separator) (front : List (List Char × Separator)) (last : List Char) :
    spelled ((s, sep) :: front) last = s ++ (sep.chars ++ spelled front last) := by
  simp [spelled]

/-! ### Segments -/

theorem isSegmentChar_iff {c : Char} : isSegmentChar c = true ↔ isAlphanumeric c = true ∨ c = '_' ∨ c = '$' := by
  simp [isSegmentChar, or_assoc]

theorem isSegment_iff {s : List Char} : isSegment s = true ↔ IsSegment s := by
  cases s with
  | nil => exact ⟨fun h => (nomatch h), fun h => absurd rfl h.nonempty⟩
  | cons c s =>
    rw [isSegment, Bool.and_eq_true, Bool.not_eq_true', List.all_eq_true]
    constructor
    · rintro ⟨hdigit, hchars⟩
      refine ⟨List.cons_ne_nil c s, fun d hd => isSegmentChar_iff.1 (hchars d hd), fun d hd => ?_⟩
      obtain rfl := Option.some.inj hd
      exact hdigit
    · intro h
      exact ⟨h.first c rfl, fun d hd => isSegmentChar_iff.2 (h.chars d hd)⟩

instance (s : List Char) : Decidable (IsSegment s) := decidable_of_iff _ isSegment_iff

/-- No character of the text can be a part of a separator. -/
def Free (s : List Char) : Prop := ∀ c ∈ s, c ≠ '.' ∧ c ≠ ':'

theorem IsSegment.free {s : List Char} (h : IsSegment s) : Free s := fun c hc => by
  have hdot : ¬isSegmentChar '.' = true := by decide +kernel
  have hcolon : ¬isSegmentChar ':' = true := by decide +kernel
  have hchar := isSegmentChar_iff.2 (h.chars c hc)
  exact ⟨fun heq => hdot (heq ▸ hchar), fun heq => hcolon (heq ▸ hchar)⟩

/-! ### Taking apart, from the left -/

theorem colonPieces_ne_nil : ∀ s : List Char, colonPieces s ≠ [] := by
  intro s
  fun_cases colonPieces s <;> simp

@[simp] theorem segments_nil : segments [] = [[]] := rfl

@[simp] theorem segments_colons (s : List Char) : segments (':' :: ':' :: s) = [] :: segments s := rfl

/-- What stands in front of the first separator grows by a character that begins none. -/
theorem segments_cons {c : Char} {s : List Char} (hdot : c ≠ '.') (hcolons : ∀ t, c = ':' → s ≠ ':' :: t) :
    ∃ p ps, segments s = p :: ps ∧ segments (c :: s) = (c :: p) :: ps := by
  obtain ⟨q, qs, hq⟩ := List.exists_cons_of_ne_nil (colonPieces_ne_nil s)
  obtain ⟨p, ps, hp⟩ := List.exists_cons_of_ne_nil (pieces_ne_nil '.' q)
  refine ⟨p, ps ++ qs.flatMap (pieces '.'), ?_, ?_⟩
  · rw [segments, hq, List.flatMap_cons, hp, List.cons_append]
  · rw [segments, colonPieces.eq_3 c s hcolons, hq]
    simp [pieces, hdot, hp]

@[simp] theorem segments_dot (s : List Char) : segments ('.' :: s) = [] :: segments s := by
  obtain ⟨q, qs, hq⟩ := List.exists_cons_of_ne_nil (colonPieces_ne_nil s)
  rw [segments, segments, colonPieces.eq_3 '.' s (by simp), hq]
  simp [pieces]

/-- A text without separators is one segment. -/
theorem segments_of_free : ∀ {s : List Char}, Free s → segments s = [s]
  | [], _ => rfl
  | c :: s, h => by
    obtain ⟨hc, hs⟩ := List.forall_mem_cons.1 h
    obtain ⟨p, ps, hp, hsegments⟩ := segments_cons hc.1 (s := s) fun t hcolon => absurd hcolon hc.2
    rw [segments_of_free hs] at hp
    obtain ⟨rfl, rfl⟩ := List.cons.inj hp
    exact hsegments

/-- What stands in front of a separator is a segment of its own. -/
theorem segments_append (sep : Separator) (t : List Char) : ∀ {s : List Char}, Free s →
    segments (s ++ (sep.chars ++ t)) = s :: segments t
  | [], _ => by cases sep <;> simp [Separator.chars]
  | c :: s, h => by
    obtain ⟨hc, hs⟩ := List.forall_mem_cons.1 h
    obtain ⟨p, ps, hp, hsegments⟩ := segments_cons hc.1 (s := s ++ (sep.chars ++ t)) fun t hcolon => absurd hcolon hc.2
    rw [segments_append sep t hs] at hp
    obtain ⟨rfl, rfl⟩ := List.cons.inj hp
    exact hsegments

/-- **A path is taken apart into its segments.** -/
theorem segments_spelled {last : List Char} (hlast : Free last) : ∀ {front : List (List Char × Separator)},
    (∀ p ∈ front, Free p.1) → segments (spelled front last) = front.map Prod.fst ++ [last]
  | [], _ => segments_of_free hlast
  | (s, sep) :: front, h => by
    obtain ⟨hs, hfront⟩ := List.forall_mem_cons.1 h
    rw [spelled_cons, segments_append sep _ hs, segments_spelled hlast hfront, List.map_cons, List.cons_append]

theorem Path.segments_name (p : Path) : segments p.name.toList = p.front.map Prod.fst ++ [p.last] := by
  rw [Path.name, String.toList_ofList]
  exact segments_spelled p.last_isSegment.free fun q hq => (p.front_isSegment q hq).free

/-- **Every text is spelled from its pieces**, with some separators between them. -/
theorem exists_spelling (s : List Char) :
    ∃ front last, segments s = front.map Prod.fst ++ [last] ∧ s = spelled front last := by
  induction s using colonPieces.induct with
  | case1 => exact ⟨[], [], rfl, rfl⟩
  | case2 s ih =>
    obtain ⟨front, last, hsegments, hs⟩ := ih
    exact ⟨([], .colons) :: front, last, by simp [hsegments], by rw [spelled_cons, ← hs]; rfl⟩
  | case3 c s _ hnil => exact absurd hnil (colonPieces_ne_nil s)
  | case4 c s hcolons _ _ _ ih =>
    obtain ⟨front, last, hsegments, hs⟩ := ih
    by_cases hdot : c = '.'
    · subst hdot
      exact ⟨([], .dot) :: front, last, by simp [hsegments], by rw [spelled_cons, ← hs]; rfl⟩
    · obtain ⟨p, ps, hp, hcons⟩ := segments_cons hdot fun t hcolon ht => hcolons t hcolon ht
      rw [hsegments] at hp
      -- the character goes in front of the first piece, which is the last one where there is no separator
      cases front with
      | nil =>
        obtain ⟨rfl, rfl⟩ := List.cons.inj hp
        exact ⟨[], c :: last, hcons, by rw [hs]; rfl⟩
      | cons q front =>
        obtain ⟨rfl, rfl⟩ := List.cons.inj hp
        exact ⟨(c :: q.1, q.2) :: front, last, hcons, by rw [hs]; rfl⟩

/-- **A name is well formed exactly when it is the name of a path.** -/
theorem isWellFormed_iff {name : String} : isWellFormed name = true ↔ ∃ p : Path, p.name = name := by
  rw [isWellFormed, List.all_eq_true]
  constructor
  · intro h
    obtain ⟨front, last, hsegments, hname⟩ := exists_spelling name.toList
    rw [hsegments] at h
    refine ⟨⟨front, last, fun p hp => isSegment_iff.1 (h p.1 ?_), isSegment_iff.1 (h last ?_)⟩, ?_⟩
    · exact List.mem_append_left _ (List.mem_map_of_mem hp)
    · exact List.mem_append_right _ List.mem_cons_self
    · rw [Path.name, ← hname, String.ofList_toList]
  · rintro ⟨p, rfl⟩ s hs
    rw [p.segments_name] at hs
    rcases List.mem_append.1 hs with hs | hs
    · obtain ⟨q, hq, rfl⟩ := List.mem_map.1 hs
      exact isSegment_iff.2 (p.front_isSegment q hq)
    · rw [List.mem_singleton.1 hs]
      exact isSegment_iff.2 p.last_isSegment

/-! ### One way only -/

/-- Separators begin differently. -/
theorem Separator.chars_append_inj {sep sep' : Separator} {s t : List Char} (h : sep.chars ++ s = sep'.chars ++ t) :
    sep = sep' ∧ s = t := by
  cases sep <;> cases sep' <;> simp [Separator.chars] at h ⊢ <;> exact h

theorem spelled_inj {last : List Char} : ∀ {front front' : List (List Char × Separator)},
    front.map Prod.fst = front'.map Prod.fst → spelled front last = spelled front' last → front = front'
  | [], [], _, _ => rfl
  | (s, sep) :: front, (s', sep') :: front', hsegments, h => by
    obtain ⟨hs, hmore⟩ := List.cons.inj hsegments
    obtain rfl : s = s' := hs
    rw [spelled_cons, spelled_cons] at h
    obtain ⟨rfl, hrest⟩ := Separator.chars_append_inj (List.append_cancel_left h)
    rw [spelled_inj hmore hrest]

/-- **A name is the name of one path**: its pieces are the segments, and what is left between them the separators. -/
theorem Path.name_inj {p q : Path} (h : p.name = q.name) : p = q := by
  have hsegments : p.front.map Prod.fst ++ [p.last] = q.front.map Prod.fst ++ [q.last] := by
    rw [← p.segments_name, ← q.segments_name, h]
  obtain ⟨hfront, hlast⟩ := List.append_inj' hsegments rfl
  have hlast := List.singleton_inj.1 hlast
  have hspelled := String.ofList_injective h
  rw [hlast] at hspelled
  exact Path.ext (spelled_inj hfront hspelled) hlast

/-! ### From the right -/

theorem beforeColons_append {t : List Char} : ∀ {s : List Char}, Free s → beforeColons (s ++ t) = s ++ beforeColons t
  | [], _ => rfl
  | c :: s, h => by
    obtain ⟨hc, hs⟩ := List.forall_mem_cons.1 h
    rw [List.cons_append, beforeColons, beforeColons_append hs, List.cons_append]
    exact fun t hcolon => absurd hcolon hc.2

/-- Where no separator is met, or first one, the text in front of it is what is looked for. -/
theorem behindDot_behindColons_of_stop {front last : List Char} (hlast : Free last)
    (hfront : (beforeColons front.reverse).takeWhile (· != '.') = []) :
    behindDot (behindColons (front ++ last)) = last := by
  have hreverse : Free last.reverse := fun c hc => hlast c (List.mem_reverse.1 hc)
  have hdots : ∀ c ∈ last.reverse, (c != '.') = true := fun c hc => bne_iff_ne.2 (hreverse c hc).1
  rw [behindDot, behindColons, List.reverse_reverse, List.reverse_append, beforeColons_append hreverse,
    List.takeWhile_append_of_pos hdots, hfront, List.append_nil, List.reverse_reverse]

/-- **The last segment stands behind the separator that is met first from the right.** -/
theorem behindDot_behindColons_spelled {last : List Char} (hlast : Free last) (front : List (List Char × Separator)) :
    behindDot (behindColons (spelled front last)) = last := by
  refine behindDot_behindColons_of_stop hlast ?_
  rcases List.eq_nil_or_concat front with rfl | ⟨front, ⟨s, sep⟩, rfl⟩
  · rfl
  · rw [List.concat_eq_append, List.flatMap_append, List.flatMap_singleton, List.reverse_append, List.reverse_append]
    cases sep with
    | dot => simp [Separator.chars, beforeColons]
    | colons => simp [Separator.chars, beforeColons]

theorem Path.short_name (p : Path) : short p.name = String.ofList p.last := by
  rw [short, Path.name, String.toList_ofList, behindDot_behindColons_spelled p.last_isSegment.free]

/-- **The grammar of type names.**  A name is well formed exactly when it is segments with `.` or `::` between them; then
it is so in one way, and its short form is the last segment.  Whichever classes are known, a class is there by a name of
the grammar when it is known, and by no other name. -/
theorem names_are_paths (name : String) :
    (isWellFormed name = true ↔ ∃ p : Path, p.name = name) ∧
    (∀ p q : Path, p.name = name → q.name = name → p = q) ∧
    (∀ p : Path, p.name = name → short name = String.ofList p.last) ∧
    ∀ c : Context, ((∃ p : Path, p.name = name) → c.hasClass name = c.classes name) ∧
      ((¬∃ p : Path, p.name = name) → c.hasClass name = false) := by
  refine ⟨isWellFormed_iff, fun p q hp hq => Path.name_inj (hp.trans hq.symm), fun p hp => ?_, fun c => ⟨?_, ?_⟩⟩
  · rw [← hp, p.short_name]
  · intro h
    rw [Context.hasClass, isWellFormed_iff.2 h, Bool.true_and]
  · intro h
    rw [← isWellFormed_iff, Bool.not_eq_true] at h
    rw [Context.hasClass, h, Bool.false_and]

/-- Both separators in one name; a third colon belongs to no separator and to no segment. -/
theorem names_are_paths_of_both_separators :
    let name := "org.demo::Outer$Inner"
    let broken := "org:::Inner"
    let p : Path := ⟨[("org".toList, .dot), ("demo".toList, .colons)], "Outer$Inner".toList, by decide +kernel,
      by decide +kernel⟩
    let c : Context := { classes := fun name => name.startsWith "org" }
    p.name = name ∧ isWellFormed name = true ∧ (∀ q : Path, q.name = name → q = p) ∧ short name = "Outer$Inner" ∧
      c.hasClass name = true ∧ c.classes broken = true ∧ c.hasClass broken = false := by
  intro name broken p c
  have hp : p.name = name := rfl
  have hbroken : ¬∃ q : Path, q.name = broken := fun h =>
    absurd ((names_are_paths broken).1.2 h) (by decide +kernel)
  obtain ⟨hformed, hunique, hshort, hclass⟩ := names_are_paths name
  exact ⟨hp, hformed.2 ⟨p, hp⟩, fun q hq => hunique q p hq hp, hshort p hp,
    ((hclass c).1 ⟨p, hp⟩).trans (by decide +kernel), by decide +kernel, ((names_are_paths broken).2.2.2 c).2 hbroken⟩

end TypeName
end Wiring
