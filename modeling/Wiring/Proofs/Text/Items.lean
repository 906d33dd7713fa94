import Mathlib.Data.List.DropRight
import Wiring.Application
/-!
# Items — one comma-separated text and a list of texts say the same

A text writes a list when its pieces are the list's items in order, with blanks around them, and blank pieces anywhere
(`Writes`).  Every text writes the items it is read as, and it writes no other list of items (`items_eq_iff`).
-/
namespace Wiring
namespace Text

open Property (Environment Variables)

/-- What is read again as it was when it stands between commas. -/
@[mk_iff]
structure IsItem (x : String) : Prop where
  nonempty : x ≠ ""
  commaless : ',' ∉ x.toList
  first : ∀ c ∈ x.toList.head?, isBlank c = false
  last : ∀ c ∈ x.toList.getLast?, isBlank c = false

instance (x : String) : Decidable (IsItem x) :=
  decidable_of_iff (x ≠ "" ∧ ',' ∉ x.toList ∧ x.toList.head?.all (!isBlank ·) ∧ x.toList.getLast?.all (!isBlank ·))
    (by simp [isItem_iff, Option.all_eq_true])

def Blank (p : List Char) : Prop := ∀ c ∈ p, isBlank c = true

instance (p : List Char) : Decidable (Blank p) := decidable_of_iff (p.all isBlank = true) List.all_eq_true

/-- The pieces that write items in order. -/
inductive Spelled : List String → List (List Char) → Prop
  | nil : Spelled [] []
  | blank {p : List Char} {xs : List String} {ps : List (List Char)} : Blank p → Spelled xs ps → Spelled xs (p :: ps)
  | item (before : List Char) (x : String) (after : List Char) {xs : List String} {ps : List (List Char)} :
      Blank before → Blank after → Spelled xs ps → Spelled (x :: xs) ((before ++ (x.toList ++ after)) :: ps)

/-- The text is pieces that write the items, with commas between them.  An empty one is one blank piece or none. -/
def Writes (s : String) (xs : List String) : Prop :=
  ∃ ps, Spelled xs ps ∧ s.toList = [','].intercalate ps

/-! ### The pieces of a text -/

theorem pieces_eq_splitOn (sep : Char) : ∀ s : List Char, pieces sep s = s.splitOn sep
  | [] => by simp [pieces]
  | c :: s => by
    rw [pieces, pieces_eq_splitOn sep s, List.splitOn_cons_eq_if_modifyHead]
    by_cases h : c = sep
    · simp [h]
    · simp only [h, beq_iff_eq, if_false]
      cases hps : s.splitOn sep with
      | nil => exact absurd hps (List.splitOn_ne_nil sep s)
      | cons p ps => rfl

theorem not_mem_of_mem_pieces {sep : Char} : ∀ {s p : List Char}, p ∈ pieces sep s → sep ∉ p
  | [], p, hp => by
    obtain rfl := List.mem_singleton.1 hp
    simp
  | c :: s, p, hp => by
    rw [pieces] at hp
    by_cases h : c = sep
    · rw [if_pos h] at hp
      rcases List.mem_cons.1 hp with rfl | hp
      · simp
      · exact not_mem_of_mem_pieces hp
    · rw [if_neg h] at hp
      cases hps : pieces sep s with
      | nil => exact absurd hps (pieces_ne_nil sep s)
      | cons q qs =>
        have ih : ∀ p ∈ q :: qs, sep ∉ p := fun p hp => not_mem_of_mem_pieces (hps ▸ hp)
        rw [hps] at hp
        rcases List.mem_cons.1 hp with rfl | hp
        · simpa [Ne.symm h] using ih q List.mem_cons_self
        · exact ih p (List.mem_cons_of_mem _ hp)

/-! ### Blanks at the ends of a piece -/

theorem trimmed_eq (p : List Char) : trimmed p = (p.dropWhile isBlank).rdropWhile isBlank := rfl

theorem trimmed_of_blank {p : List Char} (hp : Blank p) : trimmed p = [] := by
  rw [trimmed_eq, List.dropWhile_eq_nil_iff.2 hp]
  rfl

theorem exists_blanks_around (p : List Char) :
    ∃ before after, Blank before ∧ Blank after ∧ p = before ++ (trimmed p ++ after) := by
  refine ⟨p.takeWhile isBlank, (p.dropWhile isBlank).rtakeWhile isBlank, fun c hc => List.mem_takeWhile_imp hc,
    fun c hc => List.mem_rtakeWhile_imp hc, ?_⟩
  rw [trimmed_eq, List.rdropWhile_append_rtakeWhile, List.takeWhile_append_dropWhile]

theorem trimmed_of_blanks_around {before y after : List Char} (hbefore : Blank before) (hafter : Blank after)
    (hfirst : ∀ c ∈ y.head?, isBlank c = false) (hlast : ∀ c ∈ y.getLast?, isBlank c = false) :
    trimmed (before ++ (y ++ after)) = y := by
  cases y with
  | nil => exact trimmed_of_blank (List.forall_mem_append.2 ⟨hbefore, hafter⟩)
  | cons c y =>
    have hc := hfirst c rfl
    rw [trimmed_eq, List.dropWhile_append_of_pos hbefore, List.cons_append, List.dropWhile_cons_of_neg (by simp [hc]),
      ← List.cons_append]
    -- From the end, the blanks behind come first and go; then stands the last of what is to stay.
    unfold List.rdropWhile
    rw [List.reverse_append, List.dropWhile_append_of_pos (fun a ha => hafter a (List.mem_reverse.1 ha))]
    refine List.rdropWhile_eq_self_iff.2 fun hne => ?_
    rw [hlast _ (List.getLast?_eq_some_getLast hne)]
    exact Bool.false_ne_true

theorem head?_trimmed {p : List Char} {c : Char} (h : c ∈ (trimmed p).head?) : isBlank c = false := by
  obtain ⟨after, hafter⟩ := List.rdropWhile_prefix isBlank (p.dropWhile isBlank)
  have hhead : (p.dropWhile isBlank).head? = some c := by
    rw [← hafter, List.head?_append, ← trimmed_eq, h]
    rfl
  have hnot := List.head?_dropWhile_not isBlank p
  rw [hhead] at hnot
  simpa using hnot

theorem getLast?_trimmed {p : List Char} {c : Char} (h : c ∈ (trimmed p).getLast?) : isBlank c = false := by
  obtain ⟨hne, rfl⟩ := List.mem_getLast?_eq_getLast h
  exact Bool.eq_false_iff.2 (List.rdropWhile_last_not isBlank _ hne)

/-! ### Reading what was written -/

/-- The items that pieces stand for. -/
def itemsOf (ps : List (List Char)) : List String := ((ps.map trimmed).filter fun p => !p.isEmpty).map String.ofList

theorem items_eq_itemsOf (s : String) : items s = itemsOf (pieces ',' s.toList) := rfl

theorem itemsOf_cons (p : List Char) (ps : List (List Char)) :
    itemsOf (p :: ps) = if trimmed p = [] then itemsOf ps else String.ofList (trimmed p) :: itemsOf ps := by
  by_cases h : trimmed p = [] <;> simp [itemsOf, h]

theorem itemsOf_of_spelled {xs : List String} {ps : List (List Char)} (hxs : ∀ x ∈ xs, IsItem x)
    (h : Spelled xs ps) : itemsOf ps = xs := by
  induction h with
  | nil => rfl
  | blank hp _ ih => rw [itemsOf_cons, if_pos (trimmed_of_blank hp), ih hxs]
  | item before x after hbefore hafter _ ih =>
    obtain ⟨hx, hxs⟩ := List.forall_mem_cons.1 hxs
    rw [itemsOf_cons, trimmed_of_blanks_around hbefore hafter hx.first hx.last, ih hxs,
      if_neg (by simpa using hx.nonempty), String.ofList_toList]

theorem spelled_itemsOf : ∀ ps : List (List Char), Spelled (itemsOf ps) ps
  | [] => .nil
  | p :: ps => by
    obtain ⟨before, after, hbefore, hafter, hp⟩ := exists_blanks_around p
    rw [itemsOf_cons]
    by_cases h : trimmed p = []
    · rw [if_pos h]
      refine .blank ?_ (spelled_itemsOf ps)
      rw [hp, h]
      exact List.forall_mem_append.2 ⟨hbefore, hafter⟩
    · rw [if_neg h]
      have hitem := Spelled.item before (String.ofList (trimmed p)) after hbefore hafter (spelled_itemsOf ps)
      rwa [String.toList_ofList, ← hp] at hitem

theorem not_mem_of_blank {p : List Char} (hp : Blank p) : ',' ∉ p := fun h => absurd (hp _ h) (by decide)

theorem not_mem_of_spelled {xs : List String} {ps : List (List Char)} (hxs : ∀ x ∈ xs, IsItem x)
    (h : Spelled xs ps) : ∀ p ∈ ps, ',' ∉ p := by
  induction h with
  | nil => simp
  | blank hp _ ih => exact List.forall_mem_cons.2 ⟨not_mem_of_blank hp, ih hxs⟩
  | item _ _ _ hbefore hafter _ ih =>
    obtain ⟨hx, hxs⟩ := List.forall_mem_cons.1 hxs
    refine List.forall_mem_cons.2 ⟨?_, ih hxs⟩
    simp [not_mem_of_blank hbefore, not_mem_of_blank hafter, hx.commaless]

theorem items_of_writes {s : String} {xs : List String} (hxs : ∀ x ∈ xs, IsItem x) (h : Writes s xs) :
    items s = xs := by
  obtain ⟨ps, hps, hs⟩ := h
  rw [items_eq_itemsOf, hs]
  by_cases hnil : ps = []
  · subst hnil
    cases hps
    rfl
  · rw [pieces_eq_splitOn, List.splitOn_intercalate ',' (not_mem_of_spelled hxs hps) hnil]
    exact itemsOf_of_spelled hxs hps

theorem writes_items (s : String) : Writes s (items s) := by
  refine ⟨pieces ',' s.toList, spelled_itemsOf _, ?_⟩
  rw [pieces_eq_splitOn, List.intercalate_splitOn]

theorem isItem_of_mem_items {s x : String} (hx : x ∈ items s) : IsItem x := by
  obtain ⟨y, hy, rfl⟩ := List.mem_map.1 hx
  obtain ⟨hmem, hy⟩ := List.mem_filter.1 hy
  obtain ⟨p, hp, rfl⟩ := List.mem_map.1 hmem
  obtain ⟨before, after, -, -, heq⟩ := exists_blanks_around p
  refine ⟨by simpa using hy, fun hcomma => ?_, fun c hc => ?_, fun c hc => ?_⟩
  · rw [String.toList_ofList] at hcomma
    refine not_mem_of_mem_pieces hp ?_
    rw [heq]
    simp [hcomma]
  · exact head?_trimmed (by rwa [String.toList_ofList] at hc)
  · exact getLast?_trimmed (by rwa [String.toList_ofList] at hc)

/-- A text is read as the one list of items that it writes. -/
theorem items_eq_iff {s : String} {xs : List String} (hxs : ∀ x ∈ xs, IsItem x) : items s = xs ↔ Writes s xs :=
  ⟨fun h => h ▸ writes_items s, items_of_writes hxs⟩

theorem spelled_map_toList : ∀ xs : List String, Spelled xs (xs.map String.toList)
  | [] => .nil
  | x :: xs => by
    have h := Spelled.item [] x [] (by decide) (by decide) (spelled_map_toList xs)
    rwa [List.nil_append, List.append_nil] at h

theorem writes_intercalate (xs : List String) : Writes (",".intercalate xs) xs :=
  ⟨_, spelled_map_toList xs, String.toList_intercalate⟩

/-! ### What a key holds -/

theorem texts?_of_list {e : Environment} {key : String} {xs : List String}
    (h : e.get? key = some (.list (xs.map .text))) : e.texts? key = some xs := by
  unfold Environment.texts?
  rw [h]
  dsimp only
  rw [List.filterMap_map]
  exact congrArg some List.filterMap_some

theorem texts?_of_text {e : Environment} {key s : String} (h : e.get? key = some (.text s)) :
    e.texts? key = some (items s) := by
  unfold Environment.texts?
  rw [h]

theorem excludes_iff {e : Environment} {xs : List String} (h : e.texts? Settings.excludeKey = some xs) (id : String) :
    (Settings.ofEnvironment e).excludes id = true ↔ id ∈ xs := by
  unfold Settings.ofEnvironment Settings.excludes
  rw [h]
  exact List.contains_iff_mem

theorem activeProfiles_eq_items {a : Application} {vars : Variables} {s : String} (ha : a.profiles = [])
    (hs : vars.get? (a.variableStart ++ "PROFILES_ACTIVE") = some s) : a.activeProfiles vars = items s := by
  simp [Application.activeProfiles, ha, hs]

/-- **A list of texts and one comma-separated text say the same.**  Items are read from a key that holds them as a list,
and from a text exactly when the text writes them; whatever a text is read as are items, which joined with commas are
read again.  So either notation excludes the same candidates, and the profiles of the process variable are those that
a property with its text holds. -/
theorem texts_of_either_notation (e : Environment) (key : String) :
    (∀ xs : List String, (∀ x ∈ xs, IsItem x) →
      (e.get? key = some (.list (xs.map .text)) → e.texts? key = some xs) ∧
      ∀ s, e.get? key = some (.text s) → (e.texts? key = some xs ↔ Writes s xs)) ∧
    (∀ s, e.get? key = some (.text s) → ∃ xs, e.texts? key = some xs ∧ (∀ x ∈ xs, IsItem x) ∧
      ∀ (e' : Environment) (key' : String), e'.get? key' = some (.text (",".intercalate xs)) →
        e'.texts? key' = some xs) ∧
    (∀ (e' : Environment) (xs : List String) (s : String), (∀ x ∈ xs, IsItem x) → Writes s xs →
      e.get? Settings.excludeKey = some (.list (xs.map .text)) → e'.get? Settings.excludeKey = some (.text s) →
      ∀ id, ((Settings.ofEnvironment e).excludes id = true ↔ id ∈ xs) ∧
        ((Settings.ofEnvironment e').excludes id = true ↔ id ∈ xs)) ∧
    ∀ (a : Application) (vars : Variables) (s : String), a.profiles = [] →
      vars.get? (a.variableStart ++ "PROFILES_ACTIVE") = some s → e.get? key = some (.text s) →
      e.texts? key = some (a.activeProfiles vars) := by
  refine ⟨fun xs hxs => ⟨texts?_of_list, fun s hs => ?_⟩, fun s hs => ?_, fun e' xs s hxs hwrites hlist htext id => ?_,
    fun a vars s ha hvar hs => ?_⟩
  · rw [texts?_of_text hs, Option.some.injEq]
    exact items_eq_iff hxs
  · refine ⟨items s, texts?_of_text hs, fun x => isItem_of_mem_items, fun e' key' hs' => ?_⟩
    rw [texts?_of_text hs', items_of_writes (fun x => isItem_of_mem_items) (writes_intercalate _)]
  · have hitems := items_of_writes hxs hwrites
    exact ⟨excludes_iff (texts?_of_list hlist) id, excludes_iff (hitems ▸ texts?_of_text htext) id⟩
  · rw [texts?_of_text hs, activeProfiles_eq_items ha hvar]

/-- Blanks around and inside an item, a piece of blanks and two empty ones. -/
theorem texts_of_either_notation_with_blank_pieces :
    let key := Settings.excludeKey
    let s := " a b,, ,\tc ,"
    let xs := ["a b", "c"]
    let e : Environment := { top := ⟨[.ofPairs "list" [(key, .list (xs.map .text))]], []⟩ }
    let e' : Environment := { top := ⟨[.ofPairs "text" [(key, .text s)]], []⟩ }
    let vars : Variables := [("APP_PROFILES_ACTIVE", s)]
    ((∀ x ∈ xs, IsItem x) ∧ Writes s xs ∧ e.get? key = some (.list (xs.map .text)) ∧ e'.get? key = some (.text s) ∧
      vars.get? "APP_PROFILES_ACTIVE" = some s) ∧
    e.texts? key = some xs ∧ e'.texts? key = some xs ∧ e'.texts? key = some (({} : Application).activeProfiles vars) ∧
    (Settings.ofEnvironment e).excludes "a b" = true ∧ (Settings.ofEnvironment e').excludes "a b" = true ∧
    ¬ (Settings.ofEnvironment e').excludes "b" = true := by
  intro key s xs e e' vars
  have hxs : ∀ x ∈ xs, IsItem x := by decide +kernel
  have hwrites : Writes s xs :=
    ⟨[" a b".toList, [], [' '], "\tc ".toList, []],
      .item [' '] "a b" [] (by decide) (by decide) (.blank (by decide) (.blank (by decide)
        (.item ['\t'] "c" [' '] (by decide) (by decide) (.blank (by decide) .nil)))),
      by decide +kernel⟩
  have hlist : e.get? key = some (.list (xs.map .text)) := rfl
  have htext : e'.get? key = some (.text s) := rfl
  have hvar : vars.get? "APP_PROFILES_ACTIVE" = some s := rfl
  obtain ⟨hread, -, hexclude, -⟩ := texts_of_either_notation e key
  obtain ⟨hread', -, -, hprofiles⟩ := texts_of_either_notation e' key
  have hids := hexclude e' xs s hxs hwrites hlist htext
  exact ⟨⟨hxs, hwrites, hlist, htext, hvar⟩, (hread xs hxs).1 hlist, ((hread' xs hxs).2 s htext).2 hwrites,
    hprofiles {} vars s rfl hvar htext, (hids "a b").1.2 (by decide), (hids "a b").2.2 (by decide),
    fun h => absurd ((hids "b").2.1 h) (by decide)⟩

end Text
end Wiring
