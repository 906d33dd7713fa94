import Mathlib.Data.List.Find
import Wiring.Proofs.Alike
import Wiring.Proofs.Run.Account
import Wiring.Proofs.Run.Locality
/-!
# Agreement — the facts that a run depends on

Conditions name what they ask for: classes, property keys, names that may be bound.  Of beans they see what is the same
in contexts that are alike.  Facts that agree on that (`Facts.Agree`) agree after any steps, so a run comes to the same
with both (`resolve_congr_of_agree`).
-/
namespace Wiring

namespace Context

/-- There is a naming service, and it has something under the name. -/
def binds (c : Context) (name : String) : Bool := c.naming.any fun service => (service name).isSome

theorem boundName?_eq (c : Context) (names : List String) : c.boundName? names = names.find? c.binds := by
  unfold boundName? binds
  cases c.naming with
  | none => exact (List.find?_eq_none.2 fun _ _ => Bool.false_ne_true).symm
  | some service => rfl

end Context

def Registry.conditions (r : Registry) : List Condition := r.candidates.flatMap (·.conditions)

/-- The facts agree on all that the conditions name, on whether there is a naming service, on the kind, and context by
context along equally long chains on the beans and on which type can stand for which. -/
structure Facts.Agree (conditions : List Condition) (f g : Facts) : Prop where
  classes : ∀ name, .classPresent name ∈ conditions ∨ .classAbsent name ∈ conditions →
    TypeName.isWellFormed name = true → f.classes name = g.classes name
  properties : ∀ test, .property test ∈ conditions → f.environment.plain? test.key = g.environment.plain? test.key
  naming : f.naming.isSome = g.naming.isSome
  names : ∀ names, .jndi names ∈ conditions → ∀ name ∈ names, f.binds name = g.binds name
  kind : f.kind = g.kind
  contexts : List.Forall₂ Context.Alike f.contexts g.contexts

namespace Facts.Agree

variable {conditions : List Condition} {f g : Facts}

theorem hasClass_congr (h : f.Agree conditions g) {name : String}
    (hname : .classPresent name ∈ conditions ∨ .classAbsent name ∈ conditions) : f.hasClass name = g.hasClass name := by
  unfold Context.hasClass
  cases hformed : TypeName.isWellFormed name with
  | false => rfl
  | true => rw [h.classes name hname hformed]

theorem jndiVerdict_congr (h : f.Agree conditions g) {names : List String} (hnames : .jndi names ∈ conditions) :
    Condition.jndiVerdict f names = Condition.jndiVerdict g names := by
  have hbound : f.boundName? names = g.boundName? names := by
    rw [Context.boundName?_eq, Context.boundName?_eq]
    exact List.find?_congr (h.names names hnames)
  unfold Condition.jndiVerdict
  rw [h.naming, hbound]

/-- What is registered later by both takes no agreement away. -/
theorem after (h : f.Agree conditions g) (ps : List Step) : (f.after ps).Agree conditions (g.after ps) where
  classes := h.classes
  properties := h.properties
  naming := h.naming
  names := h.names
  kind := h.kind
  contexts := by
    obtain ⟨hown, habove⟩ := List.forall₂_cons.1 h.contexts
    exact .cons (hown.append (activatedBy ps)) habove

/-- **A condition judges alike by facts that agree on what it names.** -/
theorem judge_congr (h : f.Agree conditions g) {condition : Condition} (hmem : condition ∈ conditions)
    (hcustom : condition.isCustom = false) (c : Component) (phase : Phase) :
    condition.judge f c phase = condition.judge g c phase := by
  cases condition with
  | classPresent name => rw [Condition.judge, Condition.judge, h.hasClass_congr (.inl hmem)]
  | classAbsent name => rw [Condition.judge, Condition.judge, h.hasClass_congr (.inr hmem)]
  | beanPresent search => rw [Condition.judge, Condition.judge, BeanSearch.matching_congr h.contexts]
  | beanAbsent search => rw [Condition.judge, Condition.judge, BeanSearch.matching_congr h.contexts]
  | property test => rw [Condition.judge, Condition.judge, h.properties test hmem]
  | jndi names => rw [Condition.judge, Condition.judge, h.jndiVerdict_congr hmem]
  | webApplication => rw [Condition.judge, Condition.judge, h.kind]
  | notWebApplication => rw [Condition.judge, Condition.judge, h.kind]
  | custom own => cases hcustom

/-- A candidate with none but these conditions is examined alike. -/
theorem examine_congr (h : f.Agree conditions g) {c : Candidate}
    (hmem : ∀ condition ∈ c.conditions, condition ∈ conditions)
    (hcustom : ∀ condition ∈ c.conditions, condition.isCustom = false) (s : Settings) (phase : Phase) :
    c.examine s f phase = c.examine s g phase := by
  have hjudge : ∀ condition ∈ c.conditions,
      condition.judge f c.toComponent phase = condition.judge g c.toComponent phase := fun condition hc =>
    h.judge_congr (hmem condition hc) (hcustom condition hc) c.toComponent phase
  simp only [Candidate.examine, Candidate.findings_congr hjudge]

end Facts.Agree

theorem Registry.mem_conditions {r : Registry} {c : Candidate} (hc : c ∈ r.processing) {condition : Condition}
    (hcondition : condition ∈ c.conditions) : condition ∈ r.conditions :=
  List.mem_flatMap.2 ⟨c, r.processing_perm.mem_iff.1 hc, hcondition⟩

section TwoFacts

variable {s : Settings} {f g : Facts} {r : Registry} (h : f.Agree r.conditions g)
  (hcustom : ∀ condition ∈ r.conditions, condition.isCustom = false)

include h hcustom

/-- A candidate of the registry is examined alike after the same steps. -/
theorem examine_after_of_agree {c : Candidate} (hc : c ∈ r.processing) (ps : List Step) :
    c.examine s (f.after ps) c.phase = c.examine s (g.after ps) c.phase :=
  (h.after ps).examine_congr (fun _ hcondition => Registry.mem_conditions hc hcondition)
    (fun condition hcondition => hcustom condition (Registry.mem_conditions hc hcondition)) s c.phase

theorem justified_of_agree {ps : List Step} (hps : Justified s f ps) (hmem : ∀ p ∈ ps, p.1 ∈ r.processing) :
    Justified s g ps := by
  intro pre c e post hsplit
  have hc : c ∈ r.processing := hmem (c, e) (by rw [hsplit]; exact List.mem_append_right _ List.mem_cons_self)
  rw [← examine_after_of_agree h hcustom hc]
  exact hps pre c e post hsplit

theorem resolve_ok_of_agree {res : Resolution} (hres : (resolve s f r).result = .ok res) :
    ∃ res', (resolve s g r).result = .ok res' ∧ res'.trace = res.trace ∧ res'.activations = res.activations := by
  obtain ⟨ps, hmap, hps, rfl⟩ := resolve_eq_ok_iff.1 hres
  have hmem : ∀ p ∈ ps, p.1 ∈ r.processing := fun p hp => hmap ▸ List.mem_map_of_mem hp
  refine ⟨_, resolve_eq_ok_iff.2 ⟨ps, hmap, justified_of_agree h hcustom hps hmem, rfl⟩, ?_, ?_⟩
  · rw [Resolution.started_trace, Resolution.started_trace]
  · -- outcomes are recorded from the entries, from none on
    rw [Resolution.addAll_activations, Resolution.addAll_activations]
    rfl

theorem resolve_error_of_agree {fault : Fault} (hfault : (resolve s f r).result = .error fault) :
    (resolve s g r).result = .error fault := by
  obtain ⟨ps, c, post, hsplit, hps, hc⟩ := resolve_eq_error_iff.1 hfault
  have hmem : ∀ d ∈ ps.map Prod.fst ++ c :: post, d ∈ r.processing := fun d hd => hsplit ▸ hd
  have hps' : Justified s g ps := justified_of_agree h hcustom hps fun p hp =>
    hmem p.1 (List.mem_append_left _ (List.mem_map_of_mem hp))
  refine resolve_eq_error_iff.2 ⟨ps, c, post, hsplit, hps', ?_⟩
  rw [← examine_after_of_agree h hcustom (hmem c (List.mem_append_right _ List.mem_cons_self))]
  exact hc

end TwoFacts

/-- **A run depends only on the facts that its conditions name.**  Over a registry without custom conditions two facts
that agree on these give the same fault, or the same trace and outcomes with all their texts.  So the order of beans and
of declared supertypes, and how often each is given, never matters. -/
theorem resolve_congr_of_agree (s : Settings) {r : Registry}
    (hcustom : ∀ condition ∈ r.conditions, condition.isCustom = false) :
    (∀ f g : Facts, f.Agree r.conditions g →
      (resolve s f r).result.map (fun res => (res.trace, res.activations)) =
        (resolve s g r).result.map fun res => (res.trace, res.activations)) ∧
    ∀ b b' : Blueprint, (∀ bean, bean ∈ b.beans ↔ bean ∈ b'.beans) →
      (∀ type supertype, b.Declares type supertype ↔ b'.Declares type supertype) →
        b.build.toContext.Alike b'.build.toContext := by
  constructor
  · intro f g h
    cases hf : (resolve s f r).result with
    | error fault => rw [resolve_error_of_agree h hcustom hf]
    | ok res =>
      obtain ⟨res', hg, htrace, hactivations⟩ := resolve_ok_of_agree h hcustom hf
      rw [hg]
      exact congrArg Except.ok (Prod.ext htrace.symm hactivations.symm)
  · intro b b' hbeans hdeclares
    exact Blueprint.build_alike hbeans hdeclares

/-- The two facts differ in a class under a name that is not well formed, in a property that no condition names, in what
is bound under a name, in the order and repetition of beans and supertypes, and in all else about the parent. -/
theorem resolve_congr_of_agree_rearranged :
    let pool : Candidate := { id := "pool", types := ["Pool"], conditions := [.classPresent "demo.Pool",
      .classAbsent "1.Old", .property { key := "mode" }, .jndi ["jdbc"], .notWebApplication] }
    let fallback : Candidate := { id := "fallback", conditions := [.beanAbsent { types := ["Source"] }] }
    let r : Registry := ⟨[pool, fallback]⟩
    let b : Blueprint := { beans := [("x", ["A"]), ("y", ["Source"])], supertypes := [("Pool", ["Source", "Any"])] }
    let b' : Blueprint := { beans := [("y", ["Source"]), ("x", ["A"]), ("y", ["Source"])],
                            supertypes := [("Pool", ["Any"]), ("Pool", ["Source", "Any"])] }
    let f : Facts := { b.build with
      classes := fun name => name == "demo.Pool" || name == "1.Old", naming := some fun _ => some "first"
      ancestors := [{ kind := .web }] }
    let g : Facts := { b'.build with
      classes := fun name => name == "demo.Pool", naming := some fun _ => some "second"
      environment := ({} : Property.Environment).add (.ofPairs "other" [("unnamed", .text "x")])
      ancestors := [{ classes := fun _ => true, naming := some fun _ => none }] }
    (∀ condition ∈ r.conditions, condition.isCustom = false) ∧ b.build.toContext.Alike b'.build.toContext ∧
      f.Agree r.conditions g ∧
      (resolve {} g r).result.map (fun res => (res.trace, res.activations)) =
        (resolve {} f r).result.map (fun res => (res.trace, res.activations)) ∧
      ((resolve {} f r).result.map fun res => res.activations.entries) = .ok [("pool", .activated), ("fallback",
        .skipped "OnMissingBean found beans \x7b\"pool\", \"y\"\x7d matching types=[\"Source\"], names=[]")] := by
  intro pool fallback r b b' f g
  have hconditions : r.conditions = [.classPresent "demo.Pool", .classAbsent "1.Old", .property { key := "mode" },
    .jndi ["jdbc"], .notWebApplication, .beanAbsent { types := ["Source"] }] := rfl
  have hcustom : ∀ condition ∈ r.conditions, condition.isCustom = false := by
    rw [hconditions]
    simp [Condition.isCustom]
  obtain ⟨hsame, hbuilt⟩ := resolve_congr_of_agree {} hcustom
  have halike : b.build.toContext.Alike b'.build.toContext := by
    refine hbuilt b b' (fun bean => ?_) fun type supertype => ?_
    · simp only [b, b', List.mem_cons, List.not_mem_nil, or_false]
      tauto
    · simp only [Blueprint.Declares, b, b', List.mem_cons, List.not_mem_nil, or_false, Prod.mk.injEq]
      constructor
      · rintro ⟨_, ⟨rfl, rfl⟩, h⟩
        exact ⟨["Source", "Any"], .inr ⟨rfl, rfl⟩, h⟩
      · rintro ⟨_, ⟨rfl, rfl⟩ | ⟨rfl, rfl⟩, h⟩
        · exact ⟨["Source", "Any"], ⟨rfl, rfl⟩, List.mem_cons_of_mem _ h⟩
        · exact ⟨["Source", "Any"], ⟨rfl, rfl⟩, h⟩
  have hagree : f.Agree r.conditions g := by
    rw [hconditions]
    refine ⟨fun name hname hformed => ?_, fun test htest => ?_, rfl, fun names _ name _ => rfl, rfl,
      .cons ⟨halike.beans, halike.assignable⟩ (.cons ⟨rfl, fun _ _ => rfl⟩ .nil)⟩
    · have hcases : name = "demo.Pool" ∨ name = "1.Old" := by simpa using hname
      rcases hcases with rfl | rfl
      · rfl
      · exact absurd hformed (by decide +kernel)
    · obtain rfl : test = { key := "mode" } := by simpa using htest
      rfl
  refine ⟨hcustom, halike, hagree, (hsame f g hagree).symm, ?_⟩
  decide +kernel

end Wiring
