import Wiring.Manifest
import Wiring.Proofs.Hints.Circle
import Wiring.Proofs.Registry.Listing
/-!
# Manifest — what becomes of the declarations of a document

Every declaration is carried over into one candidate (`Declaration.CarriedBy`), and the candidates come in the order of
their hints.  Three things can be at fault, and they are looked for one after the other in the whole document: a
declaration without a name, an id that repeats, hints in a circle.
-/
namespace Wiring
namespace Manifest

open Relation (TransGen)

/-- A condition as a document can declare it. -/
def Guard.ofCondition? : Condition → Option Guard
  | .classPresent name => some (.classPresent name)
  | .classAbsent name => some (.classAbsent name)
  | .beanPresent search => some (.beanPresent search)
  | .beanAbsent search => some (.beanAbsent search)
  | .property test => some (.property test)
  | .jndi names => some (.jndi names)
  | .webApplication => some .webApplication
  | .notWebApplication => some .notWebApplication
  | .custom _ => none

theorem Guard.ofCondition?_eq_some_iff {condition : Condition} {g : Guard} :
    Guard.ofCondition? condition = some g ↔ condition = g.condition := by
  cases condition <;> cases g <;> simp [ofCondition?, condition]

theorem Guard.map_ofCondition?_iff {conditions : List Condition} {gs : List Guard} :
    conditions.map Guard.ofCondition? = gs.map some ↔ conditions = gs.map Guard.condition := by
  induction conditions generalizing gs with
  | nil => cases gs <;> simp
  | cons condition conditions ih => cases gs <;> simp [ih, Guard.ofCondition?_eq_some_iff]

namespace Declaration

/-- The declared id, or else the bean name of what is produced. -/
def effectiveId? (d : Declaration) : Option String := d.id <|> d.produces.map TypeName.beanName

def Nameless (d : Declaration) : Prop := d.id = none ∧ d.produces = none

/-- The candidate says what the declaration says.  Its conditions can be read back as they were declared. -/
structure CarriedBy (d : Declaration) (c : Candidate) : Prop where
  id : d.effectiveId? = some c.id
  phase : c.phase = d.phase
  produces : c.produces = d.produces
  search : c.search = d.search
  types : c.types = d.types
  after : c.after = d.after
  before : c.before = d.before
  conditions : c.conditions.map Guard.ofCondition? = d.conditions.map some

variable {d : Declaration}

theorem start?_eq_some_iff {c : Component} :
    d.start? = some c ↔ ∃ id, d.effectiveId? = some id ∧ c = { id, produces := d.produces } := by
  unfold start? effectiveId?
  cases d.id <;> cases d.produces <;> simp [Component.forType, eq_comm]

theorem start?_eq_none_iff : d.start? = none ↔ d.Nameless := by
  unfold start? Nameless
  cases d.id <;> cases d.produces <;> simp

theorem foldl_adding {f : Candidate → String → Candidate} (g : List String → Candidate)
    (hf : ∀ xs x, f (g xs) x = g (xs ++ [x])) : ∀ xs ys : List String, ys.foldl f (g xs) = g (xs ++ ys)
  | xs, [] => by simp
  | xs, y :: ys => by
    rw [List.foldl_cons, hf, foldl_adding g hf, List.append_assoc, List.singleton_append]

/-- What is added one by one to a start comes out as it was declared. -/
theorem candidate_of_start {id : String} (h : d.start? = some { id, produces := d.produces }) :
    d.candidate = .ok { id, types := d.types, produces := d.produces, phase := d.phase, search := d.search,
                        after := d.after, before := d.before, conditions := d.conditions.map Guard.condition } := by
  have hsearch : ∀ c : Candidate, c.search = none → d.search.elim c c.searchIn = { c with search := d.search } := by
    intro c hc
    cases d.search with
    | none =>
      rw [Option.elim_none, ← hc]
    | some scope => rfl
  have htypes (c : Candidate) (ts : List String) : ts.foldl .addType c = { c with types := c.types ++ ts } :=
    foldl_adding (fun types => { c with types }) (fun _ _ => rfl) c.types ts
  have hafter (c : Candidate) (ids : List String) : ids.foldl .addAfter c = { c with after := c.after ++ ids } :=
    foldl_adding (fun after => { c with after }) (fun _ _ => rfl) c.after ids
  have hbefore (c : Candidate) (ids : List String) : ids.foldl .addBefore c = { c with before := c.before ++ ids } :=
    foldl_adding (fun before => { c with before }) (fun _ _ => rfl) c.before ids
  unfold candidate
  rw [h]
  simp only [hsearch, htypes, hafter, hbefore, List.nil_append]

/-- **A declaration with a name becomes the one candidate that carries it over.** -/
theorem candidate_eq_ok_iff {c : Candidate} : d.candidate = .ok c ↔ d.CarriedBy c := by
  constructor
  · intro h
    cases hstart : d.start? with
    | none =>
      unfold candidate at h
      rw [hstart] at h
      cases h
    | some start =>
      obtain ⟨id, hid, rfl⟩ := start?_eq_some_iff.1 hstart
      rw [candidate_of_start hstart, Except.ok.injEq] at h
      subst h
      exact ⟨hid, rfl, rfl, rfl, rfl, rfl, rfl, Guard.map_ofCondition?_iff.2 rfl⟩
  · intro h
    obtain ⟨⟨id, types, produces, phase, search, after, before⟩, conditions⟩ := c
    obtain ⟨hid, rfl, rfl, rfl, rfl, rfl, rfl, hconditions⟩ := h
    obtain rfl := Guard.map_ofCondition?_iff.1 hconditions
    exact candidate_of_start (start?_eq_some_iff.2 ⟨id, hid, rfl⟩)

theorem candidate_eq_error_iff {fault : Fault} :
    d.candidate = .error fault ↔ d.Nameless ∧ fault = .manifest namelessReason := by
  rw [← start?_eq_none_iff]
  unfold candidate
  cases d.start? <;> simp [eq_comm]

end Declaration

variable {m : Manifest}

theorem carriedBy_ids {ds : List Declaration} {cs : List Candidate} (h : List.Forall₂ Declaration.CarriedBy ds cs) :
    ds.map Declaration.effectiveId? = (Registry.ids ⟨cs⟩).map some := by
  induction h with
  | nil => rfl
  | cons hd _ ih =>
    simp only [Registry.ids, List.map_cons] at ih ⊢
    rw [hd.id, ih]

theorem exists_carriedBy {ds : List Declaration} (h : ∀ d ∈ ds, ¬d.Nameless) :
    ∃ cs, List.Forall₂ Declaration.CarriedBy ds cs := by
  cases hcs : ds.mapM Declaration.candidate with
  | error fault =>
    obtain ⟨d, hd, hfault⟩ := exists_of_mapM_eq_error hcs
    exact absurd (Declaration.candidate_eq_error_iff.1 hfault).1 (h d hd)
  | ok cs => exact ⟨cs, (mapM_eq_ok_iff.1 hcs).imp fun _ _ => Declaration.candidate_eq_ok_iff.1⟩

/-- Once all declarations have names, the registry is that of the candidates that carry them over. -/
theorem registry_of_carriedBy {cs : List Candidate} (h : List.Forall₂ Declaration.CarriedBy m.declarations cs) :
    m.registry = Registry.ofList cs >>= Registry.applyHints := by
  unfold registry
  rw [mapM_eq_ok_iff.2 (h.imp fun _ _ => Declaration.candidate_eq_ok_iff.2)]
  rfl

theorem registry_of_nameless (h : ∃ d ∈ m.declarations, d.Nameless) :
    m.registry = .error (.manifest Declaration.namelessReason) := by
  obtain ⟨d, hd, hnameless⟩ := h
  unfold registry
  cases hcs : m.declarations.mapM Declaration.candidate with
  | error fault =>
    obtain ⟨d', -, hfault⟩ := exists_of_mapM_eq_error hcs
    rw [(Declaration.candidate_eq_error_iff.1 hfault).2]
    rfl
  | ok cs =>
    obtain ⟨c, -, hc⟩ := exists_of_forall₂_left (mapM_eq_ok_iff.1 hcs) d hd
    rw [Declaration.candidate_eq_error_iff.2 ⟨hnameless, rfl⟩] at hc
    cases hc

section Named

variable {cs : List Candidate} (h : List.Forall₂ Declaration.CarriedBy m.declarations cs)

include h

theorem registry_eq_error_iff {fault : Fault} : m.registry = .error fault ↔
    (∃ id, FirstRepeat (Registry.ids ⟨cs⟩) id ∧ fault = .duplicate id) ∨
      (Registry.ids ⟨cs⟩).Nodup ∧ Registry.applyHints ⟨cs⟩ = .error fault := by
  rw [registry_of_carriedBy h, bind_eq_error_iff, Registry.ofList_eq_error_iff]
  refine or_congr_right ⟨?_, ?_⟩
  · rintro ⟨r, hr, hfault⟩
    obtain ⟨hids, rfl⟩ := Registry.ofList_eq_ok_iff.1 hr
    exact ⟨hids, hfault⟩
  · rintro ⟨hids, hfault⟩
    exact ⟨⟨cs⟩, Registry.ofList_eq_ok_iff.2 ⟨hids, rfl⟩, hfault⟩

theorem registry_ne_manifest (reason : String) : m.registry ≠ .error (.manifest reason) := by
  intro hfault
  rcases (registry_eq_error_iff h).1 hfault with ⟨id, -, hid⟩ | ⟨-, hcycle⟩
  · cases hid
  · obtain ⟨path, hpath⟩ := Registry.applyHints_eq_error hcycle
    cases hpath

theorem registry_eq_duplicate_iff {id : String} :
    m.registry = .error (.duplicate id) ↔ FirstRepeat (m.declarations.map Declaration.effectiveId?) (some id) := by
  rw [registry_eq_error_iff h, carriedBy_ids h, FirstRepeat.map_iff (Option.some_injective _)]
  constructor
  · rintro (⟨id', hid, heq⟩ | ⟨-, hcycle⟩)
    · exact Fault.duplicate.inj heq ▸ hid
    · obtain ⟨path, hpath⟩ := Registry.applyHints_eq_error hcycle
      cases hpath
  · intro hid
    exact .inl ⟨id, hid, rfl⟩

theorem nodup_of_no_repeat (hids : ∀ id, ¬FirstRepeat (m.declarations.map Declaration.effectiveId?) id) :
    (Registry.ids ⟨cs⟩).Nodup := by
  have := FirstRepeat.nodup_of_none hids
  rw [carriedBy_ids h] at this
  exact this.of_map

theorem registry_eq_cycle_iff (hids : (Registry.ids ⟨cs⟩).Nodup) :
    (∃ path, m.registry = .error (.orderingCycle path)) ↔
      ∃ i, TransGen (Hints.Precedes (Registry.components ⟨cs⟩)) i i := by
  have hregistry : m.registry = Registry.applyHints ⟨cs⟩ := by
    rw [registry_of_carriedBy h, Registry.ofList_eq_ok_iff.2 ⟨hids, rfl⟩]
    rfl
  rw [← not_iff_not, not_exists, not_exists, ← Hints.exists_order_iff, hregistry]
  constructor
  · intro hnone
    cases ho : Hints.order (Registry.components ⟨cs⟩) with
    | ok o => exact ⟨o, rfl⟩
    | error path =>
      exact absurd (by unfold Registry.applyHints; rw [ho]) (hnone _)
  · rintro ⟨o, ho⟩ path hpath
    rw [Registry.applyHints_eq_ok_iff.2 ⟨o, ho, rfl⟩] at hpath
    cases hpath

/-- The registry has the candidates in the least order that honours all hints. -/
theorem registry_of_acyclic (hids : (Registry.ids ⟨cs⟩).Nodup)
    (hcircle : ∀ i, ¬TransGen (Hints.Precedes (Registry.components ⟨cs⟩)) i i) :
    ∃ r o, m.registry = .ok r ∧ r.candidates.map some = o.map (cs[·]?) ∧
      Hints.Honours (Registry.components ⟨cs⟩) o ∧
      ∀ p, Hints.Honours (Registry.components ⟨cs⟩) p → o = p ∨ List.Lex (· < ·) o p := by
  obtain ⟨o, ho⟩ := Hints.exists_order_iff.2 hcircle
  have hhonours := Hints.honours_of_order ho
  refine ⟨⟨o.filterMap (cs[·]?)⟩, o, ?_, ?_, hhonours, fun p => Hints.eq_or_lex_of_order ho⟩
  · rw [registry_of_carriedBy h, Registry.ofList_eq_ok_iff.2 ⟨hids, rfl⟩]
    exact Registry.applyHints_eq_ok_iff.2 ⟨o, ho, rfl⟩
  · refine (map_eq_map_some_filterMap fun i hi => ?_).symm
    have := List.mem_range.1 (hhonours.perm.mem_iff.1 hi)
    simpa [Registry.components] using this

end Named

/-- **The registry of a document.**  A declaration without a name is a fault before all others.  When all have names,
each is carried over into a candidate; the first id that an earlier declaration goes by is a fault; when there is none,
hints in a circle are; and else the registry has the candidates, each once, in the least order that honours the
hints. -/
theorem registry_of_declarations (m : Manifest) :
    (∀ reason, m.registry = .error (.manifest reason) ↔
      (∃ d ∈ m.declarations, d.Nameless) ∧ reason = "candidate declares neither 'id' nor 'produces'") ∧
    ((∀ d ∈ m.declarations, ¬d.Nameless) → ∃ cs, List.Forall₂ Declaration.CarriedBy m.declarations cs ∧
      (∀ id, m.registry = .error (.duplicate id) ↔
        FirstRepeat (m.declarations.map Declaration.effectiveId?) (some id)) ∧
      ((∀ id, ¬FirstRepeat (m.declarations.map Declaration.effectiveId?) id) →
        ((∃ path, m.registry = .error (.orderingCycle path)) ↔
          ∃ i, TransGen (Hints.Precedes (Registry.components ⟨cs⟩)) i i) ∧
        ((∀ i, ¬TransGen (Hints.Precedes (Registry.components ⟨cs⟩)) i i) →
          ∃ r o, m.registry = .ok r ∧ r.candidates.map some = o.map (cs[·]?) ∧
            Hints.Honours (Registry.components ⟨cs⟩) o ∧
            ∀ p, Hints.Honours (Registry.components ⟨cs⟩) p → o = p ∨ List.Lex (· < ·) o p))) := by
  refine ⟨fun reason => ⟨fun hfault => ?_, ?_⟩, fun hnamed => ?_⟩
  · by_cases hnamed : ∀ d ∈ m.declarations, ¬d.Nameless
    · obtain ⟨cs, h⟩ := exists_carriedBy hnamed
      exact absurd hfault (registry_ne_manifest h reason)
    · push Not at hnamed
      rw [registry_of_nameless hnamed] at hfault
      exact ⟨hnamed, (Fault.manifest.inj (Except.error.inj hfault)).symm⟩
  · rintro ⟨hnameless, rfl⟩
    exact registry_of_nameless hnameless
  · obtain ⟨cs, h⟩ := exists_carriedBy hnamed
    refine ⟨cs, h, fun id => registry_eq_duplicate_iff h, fun hids => ?_⟩
    have hnodup := nodup_of_no_repeat h hids
    exact ⟨registry_eq_cycle_iff h hnodup, registry_of_acyclic h hnodup⟩

/-- The template goes by the name of what it produces, and before the web, which asks for that too; declared once more
under that name, or next to a declaration without a name, it is at fault. -/
theorem registry_of_declarations_of_template :
    let web : Declaration :=
      { id := some "web", after := ["jmsTemplate"],
        conditions := [.webApplication, .property ⟨"web.port", some "80", false⟩] }
    let template : Declaration :=
      { produces := some "org.demo::JmsTemplate", types := ["Template"], search := some .current, before := ["web"],
        conditions := [.beanAbsent {}] }
    let again : Declaration := { id := some "jmsTemplate", after := ["jmsTemplate"] }
    let m : Manifest := { declarations := [web, template, { id := some "log" }] }
    (∀ d ∈ m.declarations, ¬d.Nameless) ∧
    (∀ id, ¬FirstRepeat (m.declarations.map Declaration.effectiveId?) id) ∧
    (∃ cs r o, List.Forall₂ Declaration.CarriedBy m.declarations cs ∧ m.registry = .ok r ∧
      r.ids = ["jmsTemplate", "web", "log"] ∧ r.candidates.map some = o.map (cs[·]?) ∧
      Hints.Honours (Registry.components ⟨cs⟩) o) ∧
    registry { declarations := [web, template, again] } = .error (.duplicate "jmsTemplate") ∧
    registry { declarations := [web, template, again, {}] } =
      .error (.manifest "candidate declares neither 'id' nor 'produces'") := by
  intro web template again m
  obtain ⟨-, hnamed⟩ := registry_of_declarations m
  have hm : ∀ d ∈ m.declarations, ¬d.Nameless := by simp [m, web, template, Declaration.Nameless]
  have hids : ∀ id, ¬FirstRepeat (m.declarations.map Declaration.effectiveId?) id :=
    fun id h => h.not_nodup (by decide +kernel)
  have hregistry : m.registry.map Registry.ids = .ok ["jmsTemplate", "web", "log"] := by decide +kernel
  obtain ⟨r, hr, hrids⟩ := map_eq_ok_iff.1 hregistry
  obtain ⟨cs, hcs, -, hrest⟩ := hnamed hm
  obtain ⟨hcycle, hok⟩ := hrest hids
  have hcircle : ∀ i, ¬TransGen (Hints.Precedes (Registry.components ⟨cs⟩)) i i := by
    intro i hi
    obtain ⟨path, hpath⟩ := hcycle.2 ⟨i, hi⟩
    rw [hr] at hpath
    cases hpath
  obtain ⟨r', o, hr', ho, hhonours, -⟩ := hok hcircle
  obtain rfl : r = r' := Except.ok.inj (hr.symm.trans hr')
  exact ⟨hm, hids, ⟨cs, r, o, hcs, hr, hrids, ho, hhonours⟩, fault?_eq_some_iff.1 (by decide +kernel),
    fault?_eq_some_iff.1 (by decide +kernel)⟩

end Manifest
end Wiring
