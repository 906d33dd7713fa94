import Wiring.Proofs.Property.Layers
import Wiring.Proofs.Results
/-!
# Leaves — a document's leaves and the properties they define

A leaf is a value that is no table and is reached through tables alone (`Reaches`).  Its place is told by the positions
of the entries on the way, which order the leaves as they are gone through; its key joins the keys on the way.  Of
leaves with one key the last defines the property.
-/
namespace Wiring
namespace Property

open Toml (Entries)

/-- A value inside tables, with the positions and the keys of the entries that lead to it. -/
structure Leaf where
  positions : List Nat
  keys : List String
  value : Toml.Value

/-- The keys joined with dots.  Empty keys in front, behind which there is nothing to put a dot, leave none. -/
def Leaf.path (l : Leaf) : String := ".".intercalate (l.keys.dropWhile (· == ""))

inductive Reaches : Toml.Value → Leaf → Prop
  | here {x : Toml.Value} : (∀ entries, x ≠ .table entries) → Reaches x ⟨[], [], x⟩
  | inside {entries : Entries} {i : Nat} {key : String} {x : Toml.Value} {l : Leaf} : entries[i]? = some (key, x) →
      Reaches x l → Reaches (.table entries) ⟨i :: l.positions, key :: l.keys, l.value⟩

/-- The value as a property: as it is, or a moment of time as its text, and inside arrays tables as objects. -/
inductive Corresponds (moment : Toml.Datetime → String) : Toml.Value → Value → Prop
  | text (s : String) : Corresponds moment (.text s) (.text s)
  | integer (i : Int) : Corresponds moment (.integer i) (.integer i)
  | decimal (x : Float) : Corresponds moment (.decimal x) (.decimal x)
  | flag (b : Bool) : Corresponds moment (.flag b) (.flag b)
  | moment (d : Toml.Datetime) : Corresponds moment (.moment d) (.text (moment d))
  | array {items : List Toml.Value} {values : List Value} : List.Forall₂ (Corresponds moment) items values →
      Corresponds moment (.array items) (.list values)
  | table {entries : Entries} {fields : List (String × Value)} : entries.map Prod.fst = fields.map Prod.fst →
      List.Forall₂ (Corresponds moment) (entries.map Prod.snd) (fields.map Prod.snd) →
      Corresponds moment (.table entries) (.object fields)

/-! ### What the leaves are turned into -/

section

variable {moment : Toml.Datetime → String}

mutual

theorem corresponds_ofToml : ∀ x : Toml.Value, Corresponds moment x (Value.ofToml moment x)
  | .text s => .text s
  | .integer i => .integer i
  | .decimal x => .decimal x
  | .flag b => .flag b
  | .moment d => .moment d
  | .array items => .array (corresponds_itemsOfToml items)
  | .table entries => .table (corresponds_fieldsOfToml entries).1 (corresponds_fieldsOfToml entries).2

theorem corresponds_itemsOfToml : ∀ items : List Toml.Value, List.Forall₂ (Corresponds moment) items (itemsOfToml moment items)
  | [] => .nil
  | x :: xs => .cons (corresponds_ofToml x) (corresponds_itemsOfToml xs)

theorem corresponds_fieldsOfToml : ∀ entries : List (String × Toml.Value),
    entries.map Prod.fst = (fieldsOfToml moment entries).map Prod.fst ∧
      List.Forall₂ (Corresponds moment) (entries.map Prod.snd) ((fieldsOfToml moment entries).map Prod.snd)
  | [] => ⟨rfl, .nil⟩
  | (key, x) :: es =>
    have ih := corresponds_fieldsOfToml es
    ⟨congrArg (key :: ·) ih.1, .cons (corresponds_ofToml x) ih.2⟩

end

mutual

theorem eq_ofToml : ∀ {x : Toml.Value} {v : Value}, Corresponds moment x v → v = Value.ofToml moment x
  | .text _, _, .text _ => rfl
  | .integer _, _, .integer _ => rfl
  | .decimal _, _, .decimal _ => rfl
  | .flag _, _, .flag _ => rfl
  | .moment _, _, .moment _ => rfl
  | .array _, _, .array h => congrArg Value.list (eq_itemsOfToml h)
  | .table _, _, .table hkeys h => congrArg Value.object (eq_fieldsOfToml hkeys h)

theorem eq_itemsOfToml : ∀ {items : List Toml.Value} {values : List Value},
    List.Forall₂ (Corresponds moment) items values → values = itemsOfToml moment items
  | [], _, .nil => rfl
  | _ :: _, _, .cons hx hxs => by rw [itemsOfToml, eq_ofToml hx, eq_itemsOfToml hxs]

theorem eq_fieldsOfToml : ∀ {entries : List (String × Toml.Value)} {fields : List (String × Value)},
    entries.map Prod.fst = fields.map Prod.fst →
      List.Forall₂ (Corresponds moment) (entries.map Prod.snd) (fields.map Prod.snd) →
      fields = fieldsOfToml moment entries
  | [], [], _, _ => rfl
  | (key, x) :: es, (key', v) :: fs, hkeys, h => by
    obtain ⟨hkey, hes⟩ := List.cons.inj hkeys
    obtain ⟨hx, hxs⟩ := List.forall₂_cons.1 h
    rw [fieldsOfToml, ← eq_fieldsOfToml hes hxs, ← eq_ofToml hx]
    exact congrArg (fun k => (k, v) :: fs) hkey.symm

end

theorem corresponds_iff {x : Toml.Value} {v : Value} : Corresponds moment x v ↔ v = Value.ofToml moment x :=
  ⟨eq_ofToml, fun h => h ▸ corresponds_ofToml x⟩

theorem plain?_eq_none_iff {v : Value} : v.plain? = none ↔ ∃ fields, v = .object fields := by
  cases v with
  | flag b => cases b <;> simp [Value.plain?]
  | _ => simp [Value.plain?]

/-! ### Where the leaves are -/

mutual

/-- The leaves in the order in which they are gone through. -/
def leavesOf : Toml.Value → List Leaf
  | .table entries => leavesFrom 0 entries
  | x => [⟨[], [], x⟩]

/-- The leaves of entries whose positions begin at a number. -/
def leavesFrom (i : Nat) : List (String × Toml.Value) → List Leaf
  | [] => []
  | (key, x) :: es =>
    ((leavesOf x).map fun l => ⟨i :: l.positions, key :: l.keys, l.value⟩) ++ leavesFrom (i + 1) es

end

mutual

theorem leavesAt_eq (path : String) : ∀ x : Toml.Value,
    leavesAt moment path x = (leavesOf x).map fun l => (l.keys.foldl dotted path, Value.ofToml moment l.value)
  | .table entries => leavesIn_eq path 0 entries
  | .text _ | .integer _ | .decimal _ | .flag _ | .moment _ | .array _ => rfl

theorem leavesIn_eq (path : String) (i : Nat) : ∀ entries : List (String × Toml.Value),
    leavesIn moment path entries =
      (leavesFrom i entries).map fun l => (l.keys.foldl dotted path, Value.ofToml moment l.value)
  | [] => rfl
  | (key, x) :: es => by
    rw [leavesIn, leavesFrom, leavesAt_eq (dotted path key) x, leavesIn_eq path (i + 1) es, List.map_append,
      List.map_map]
    rfl

end

theorem reaches_table_iff {entries : Entries} {l : Leaf} : Reaches (.table entries) l ↔
    ∃ n key x l', entries[n]? = some (key, x) ∧ Reaches x l' ∧ l = ⟨n :: l'.positions, key :: l'.keys, l'.value⟩ := by
  constructor
  · rintro (h | ⟨hx, hl⟩)
    · exact absurd rfl (h entries)
    · exact ⟨_, _, _, _, hx, hl, rfl⟩
  · rintro ⟨n, key, x, l', hx, hl, rfl⟩
    exact .inside hx hl

theorem reaches_iff_of_no_table {x : Toml.Value} (hx : ∀ entries, x ≠ .table entries) {l : Leaf} :
    Reaches x l ↔ l = ⟨[], [], x⟩ := by
  constructor
  · rintro (- | ⟨-, -⟩)
    · rfl
    · exact absurd rfl (hx _)
  · rintro rfl
    exact .here hx

mutual

theorem mem_leavesOf : ∀ {x : Toml.Value} {l : Leaf}, l ∈ leavesOf x ↔ Reaches x l
  | .table entries, l => by
    rw [leavesOf, mem_leavesFrom, reaches_table_iff]
    simp only [Nat.zero_add]
  | .text _, l | .integer _, l | .decimal _, l | .flag _, l | .moment _, l | .array _, l => by
    rw [reaches_iff_of_no_table (by simp)]
    exact List.mem_singleton

theorem mem_leavesFrom : ∀ {i : Nat} {entries : List (String × Toml.Value)} {l : Leaf}, l ∈ leavesFrom i entries ↔
    ∃ n key x l', entries[n]? = some (key, x) ∧ Reaches x l' ∧ l = ⟨(i + n) :: l'.positions, key :: l'.keys, l'.value⟩
  | i, [], l => by simp [leavesFrom]
  | i, (key, x) :: es, l => by
    rw [leavesFrom, List.mem_append, List.mem_map, mem_leavesFrom]
    constructor
    · rintro (⟨l', hl', rfl⟩ | ⟨n, key', x', l', hx', hl', rfl⟩)
      · exact ⟨0, key, x, l', rfl, mem_leavesOf.1 hl', rfl⟩
      · exact ⟨n + 1, key', x', l', hx', hl', by rw [Nat.add_right_comm, Nat.add_assoc]⟩
    · rintro ⟨_ | n, key', x', l', hx', hl', rfl⟩
      · obtain ⟨rfl, rfl⟩ := Prod.mk.inj (Option.some.inj hx')
        exact .inl ⟨l', mem_leavesOf.2 hl', rfl⟩
      · exact .inr ⟨n, key', x', l', hx', hl', by rw [Nat.add_right_comm, Nat.add_assoc]⟩

end

mutual

theorem leavesOf_ordered : ∀ x : Toml.Value, (leavesOf x).Pairwise fun l l' => l.positions < l'.positions
  | .table entries => leavesFrom_ordered 0 entries
  | .text _ | .integer _ | .decimal _ | .flag _ | .moment _ | .array _ => List.pairwise_singleton _ _

/-- Leaves inside one entry are in order as they are there, and all of them come before those inside later entries. -/
theorem leavesFrom_ordered (i : Nat) : ∀ entries : List (String × Toml.Value),
    (leavesFrom i entries).Pairwise fun l l' => l.positions < l'.positions
  | [] => List.Pairwise.nil
  | (key, x) :: es => by
    rw [leavesFrom, List.pairwise_append, List.pairwise_map]
    refine ⟨(leavesOf_ordered x).imp fun h => List.cons_lt_cons_iff.2 (.inr ⟨rfl, h⟩),
      leavesFrom_ordered (i + 1) es, ?_⟩
    intro l hl l' hl'
    obtain ⟨m, -, rfl⟩ := List.mem_map.1 hl
    obtain ⟨n, -, -, m', -, -, rfl⟩ := mem_leavesFrom.1 hl'
    exact List.cons_lt_cons_iff.2 (.inl (by omega))

end

/-! ### What a key holds -/

theorem foldl_dotted : ∀ (keys : List String) (path : String), keys.foldl dotted path =
    if path = "" then ".".intercalate (keys.dropWhile (· == "")) else ".".intercalate (path :: keys)
  | [], path => by
    by_cases h : path = "" <;> simp [h]
  | key :: keys, path => by
    rw [List.foldl_cons, foldl_dotted keys, dotted]
    by_cases h : path = ""
    · by_cases hkey : key = "" <;> simp [h, hkey]
    · simp [h]

theorem leaves_eq (document : Toml.Value) :
    leaves moment document = (leavesOf document).map fun l => (l.path, Value.ofToml moment l.value) := by
  unfold leaves
  rw [leavesAt_eq]
  simp only [foldl_dotted, if_pos, Leaf.path]

/-- Of pairs made from leaves that are in order, the last of a key is that of the last leaf with the key. -/
theorem lastOf?_leaves {ls : List Leaf} (hls : ls.Pairwise fun l l' => l.positions < l'.positions) {key : String}
    {v : Value} : lastOf? (ls.map fun l => (l.path, Value.ofToml moment l.value)) key = some v ↔
      ∃ l ∈ ls, l.path = key ∧ Corresponds moment l.value v ∧
        ∀ l' ∈ ls, l'.path = key → l' = l ∨ l'.positions < l.positions := by
  rw [lastOf?_eq_some_iff]
  constructor
  · rintro ⟨pre, post, heq, hpost⟩
    obtain ⟨pre', rest, rfl, rfl, hrest⟩ := List.map_eq_append_iff.1 heq
    obtain ⟨l, post', rfl, hl, rfl⟩ := List.map_eq_cons_iff.1 hrest
    obtain ⟨hkey, hv⟩ := Prod.mk.inj hl
    refine ⟨l, by simp, hkey, corresponds_iff.2 hv.symm, fun l' hl' hkey' => ?_⟩
    rcases List.mem_append.1 hl' with h | h
    · exact .inr ((List.pairwise_append.1 hls).2.2 l' h l List.mem_cons_self)
    · rcases List.mem_cons.1 h with rfl | h
      · exact .inl rfl
      · exact absurd hkey' (hpost _ (List.mem_map_of_mem h))
  · rintro ⟨l, hl, rfl, hv, hlast⟩
    obtain rfl := corresponds_iff.1 hv
    obtain ⟨pre, post, rfl⟩ := List.append_of_mem hl
    refine ⟨_, _, List.map_append, fun p hp hkey => ?_⟩
    obtain ⟨l', hl', rfl⟩ := List.mem_map.1 hp
    have hafter := (List.pairwise_cons.1 (List.pairwise_append.1 hls).2.1).1 l' hl'
    rcases hlast l' (by simp [hl']) hkey with rfl | hbefore
    · exact List.lt_irrefl _ hafter
    · exact List.lt_asymm hafter hbefore

theorem get?_document {document : Toml.Value} {s : Source} (hs : s.contents = .settings (leaves moment document))
    (vars : Variables) {key : String} {v : Value} : s.get? vars key = some v ↔
      ∃ l, Reaches document l ∧ l.path = key ∧ Corresponds moment l.value v ∧
        ∀ l', Reaches document l' → l'.path = key → l' = l ∨ l'.positions < l.positions := by
  unfold Source.get?
  rw [hs]
  dsimp only
  rw [leaves_eq, lastOf?_leaves (leavesOf_ordered _)]
  simp only [mem_leavesOf]

theorem get?_document_eq_none {document : Toml.Value} {s : Source}
    (hs : s.contents = .settings (leaves moment document)) (vars : Variables) {key : String} :
    s.get? vars key = none ↔ ∀ l, Reaches document l → l.path ≠ key := by
  unfold Source.get?
  rw [hs]
  dsimp only
  rw [leaves_eq, lastOf?_eq_none_iff]
  simp only [List.forall_mem_map, mem_leavesOf]

/-- No property of a document is an object, as no leaf is a table. -/
theorem plain_of_reaches {x : Toml.Value} {l : Leaf} {v : Value} (hl : Reaches x l) (hv : Corresponds moment l.value v) :
    (∀ fields, v ≠ .object fields) ∧ v.plain?.isSome = true := by
  have hobject : ∀ fields, v ≠ .object fields := by
    rintro fields rfl
    generalize ht : l.value = t at hv
    induction hl with
    | here hx =>
      cases hv
      exact hx _ ht
    | inside _ _ ih => exact ih ht
  refine ⟨hobject, Option.isSome_iff_ne_none.2 fun hnone => ?_⟩
  obtain ⟨fields, rfl⟩ := plain?_eq_none_iff.1 hnone
  exact hobject fields rfl

end

/-- **The properties of a document are its leaves.**  A key has a value exactly when it is the path of a leaf, and the
value is what the last of those leaves corresponds to; so leaves whose paths are distinct are all found.  No value is an
object, so that every one has a plain text.  A text has the properties of the document that it is read as, whatever reads
it, and a document that is no table is a leaf without key. -/
theorem document_defines_leaves (reader : Toml.Reader) (document : Toml.Value) :
    (∀ name content, reader.value content = .ok document →
      ∃ s, Source.ofToml reader name content = .ok s ∧ s.contents = .settings (leaves reader.moment document)) ∧
    ∀ (s : Source) (vars : Variables), s.contents = .settings (leaves reader.moment document) →
      (∀ key, (∃ v, s.get? vars key = some v) ↔ ∃ l, Reaches document l ∧ l.path = key) ∧
      (∀ key v, s.get? vars key = some v ↔
        ∃ l, Reaches document l ∧ l.path = key ∧ Corresponds reader.moment l.value v ∧
          ∀ l', Reaches document l' → l'.path = key → l' = l ∨ l'.positions < l.positions) ∧
      ((∀ l l', Reaches document l → Reaches document l' → l.path = l'.path → l = l') →
        ∀ l, Reaches document l → ∃ v, s.get? vars l.path = some v ∧ Corresponds reader.moment l.value v) ∧
      ∀ key v, s.get? vars key = some v → (∀ fields, v ≠ .object fields) ∧ ∃ text, v.plain? = some text := by
  refine ⟨fun name content h => ⟨⟨name, 0, .settings (leaves reader.moment document)⟩, ?_, rfl⟩, fun s vars hs => ?_⟩
  · unfold Source.ofToml
    rw [h]
  · have hsome : ∀ key, (∃ v, s.get? vars key = some v) ↔ ∃ l, Reaches document l ∧ l.path = key := by
      intro key
      rw [← Option.isSome_iff_exists, Option.isSome_iff_ne_none, ne_eq, get?_document_eq_none hs]
      push Not
      rfl
    refine ⟨hsome, fun key v => get?_document hs vars, fun hpaths l hl => ?_, fun key v hv => ?_⟩
    · obtain ⟨v, hv⟩ := (hsome l.path).2 ⟨l, hl, rfl⟩
      obtain ⟨l', hl', hpath, hcorresponds, -⟩ := (get?_document hs vars).1 hv
      obtain rfl := hpaths l' l hl' hl hpath
      exact ⟨v, hv, hcorresponds⟩
    · obtain ⟨l, hl, -, hcorresponds, -⟩ := (get?_document hs vars).1 hv
      obtain ⟨hobject, hplain⟩ := plain_of_reaches hl hcorresponds
      exact ⟨hobject, Option.isSome_iff_exists.1 hplain⟩

/-- A quoted key that has the path of a leaf in a table stands behind the table and wins; below an empty key, and next
to an empty table, each leaf is found. -/
theorem document_defines_leaves_of_quoted_key :
    let reader : Toml.Reader := {}
    let content := "\"a.b\" = 1\n[a]\nb = 2"
    let below : Toml.Value := .array [.table [("y", .integer 3)]]
    let document : Toml.Value :=
      .table [("", .table [("x", below)]), ("a", .table [("b", .integer 2)]), ("none", .table [])]
    let s : Source := ⟨"table", 0, .settings (leaves reader.moment document)⟩
    (∃ twice t v, reader.value content = .ok twice ∧ Source.ofToml reader "text" content = .ok t ∧
      ((leavesOf twice).map fun l => (l.positions, l.keys, (Value.ofToml reader.moment l.value).plain?)) =
        [([0, 0], ["a", "b"], some "2"), ([1], ["a.b"], some "1")] ∧
      t.get? [] "a.b" = some v ∧ v.plain? = some "1") ∧
      (∃ v, s.get? [] "x" = some v ∧ Corresponds reader.moment below v ∧ v.plain? ≠ none) ∧
      ¬∃ v, s.get? [] "none" = some v := by
  intro reader content below document s
  refine ⟨?_, ?_⟩
  · have hread : ((reader.value content).map fun twice =>
        (leavesOf twice).map fun l => (l.positions, l.keys, (Value.ofToml reader.moment l.value).plain?)) =
          .ok [([0, 0], ["a", "b"], some "2"), ([1], ["a.b"], some "1")] := by decide +kernel
    obtain ⟨twice, hread, hleaves⟩ := map_eq_ok_iff.1 hread
    obtain ⟨hparsed, hfound⟩ := document_defines_leaves reader twice
    obtain ⟨t, ht, hcontents⟩ := hparsed "text" content hread
    obtain ⟨-, hvalue, -⟩ := hfound t [] hcontents
    obtain ⟨inTable, rest, hlist, hfirst, hrest⟩ := List.map_eq_cons_iff.1 hleaves
    obtain ⟨quoted, more, rfl, hsecond, hmore⟩ := List.map_eq_cons_iff.1 hrest
    obtain rfl := List.map_eq_nil_iff.1 hmore
    simp only [Prod.mk.injEq] at hfirst hsecond
    have hget : t.get? [] "a.b" = some (Value.ofToml reader.moment quoted.value) := by
      refine (hvalue _ _).2 ⟨quoted, mem_leavesOf.1 (by simp [hlist]), ?_, corresponds_ofToml _, fun l hl _ => ?_⟩
      · rw [Leaf.path, hsecond.2.1]
        decide +kernel
      · have hmem := mem_leavesOf.2 hl
        rw [hlist] at hmem
        rcases List.mem_cons.1 hmem with rfl | hmem
        · rw [hfirst.1, hsecond.1]
          exact .inr (by decide)
        · exact .inl (List.mem_singleton.1 hmem)
    exact ⟨twice, t, _, hread, ht, hleaves, hget, hsecond.2.2⟩
  · obtain ⟨-, hfound⟩ := document_defines_leaves reader document
    obtain ⟨hsome, -, hapart, hplain⟩ := hfound s [] rfl
    have hleaves : leavesOf document = [⟨[0, 0], ["", "x"], below⟩, ⟨[1, 0], ["a", "b"], .integer 2⟩] := rfl
    have hpaths : ∀ l, Reaches document l →
        l = ⟨[0, 0], ["", "x"], below⟩ ∨ l = ⟨[1, 0], ["a", "b"], .integer 2⟩ := by
      intro l hl
      have := mem_leavesOf.2 hl
      rw [hleaves] at this
      simpa using this
    constructor
    · obtain ⟨v, hv, hcorresponds⟩ := hapart (fun l l' hl hl' h => by
        rcases hpaths l hl with rfl | rfl <;> rcases hpaths l' hl' with rfl | rfl
        · rfl
        · exact absurd h (by decide +kernel)
        · exact absurd h (by decide +kernel)
        · rfl) _ (mem_leavesOf.1 (by rw [hleaves]; exact List.mem_cons_self))
      exact ⟨v, hv, hcorresponds, Option.isSome_iff_ne_none.1 (Option.isSome_iff_exists.2 (hplain _ v hv).2)⟩
    · rw [hsome]
      rintro ⟨l, hl, hpath⟩
      rcases hpaths l hl with rfl | rfl <;> exact absurd hpath (by decide +kernel)

end Property
end Wiring
