import Wiring.Proofs.BeanSearch
import Wiring.Proofs.Run.Account
/-!
# Latch — defaults that step back from what is there

A candidate that asks for the absence of a type looks at what was there from the start and at what every activated
candidate before it registered.  Nothing of that goes away, so once there is a bean of the type no such candidate is
activated any more, and of those that register the type themselves at most one is (`bean_absent_latches`).
-/
namespace Wiring

/-- One of the candidate's conditions asks, in this scope, that there be no bean of the type. -/
def Candidate.StepsBack (c : Candidate) (scope : SearchScope) (type : String) : Prop :=
  ∃ search, Condition.beanAbsent search ∈ c.conditions ∧ search.HasScope c.toComponent scope ∧
    search.LooksFor c.toComponent type

/-- The candidate registers a type from which links of the current context lead to the given one. -/
def Candidate.Provides (c : Candidate) (f : Facts) (type : String) : Prop :=
  ∃ t ∈ c.registeredTypes, Hierarchy.Reaches f.hierarchy.links t type

/-- The scope takes in the current context. -/
def SearchScope.Near (scope : SearchScope) : Prop := scope = .current ∨ scope = .all

/-- The candidate provides the type unless there is a bean of it, in the current context or also above. -/
structure Candidate.IsDefault (c : Candidate) (f : Facts) (type : String) : Prop where
  stepsBack : ∃ scope : SearchScope, scope.Near ∧ c.StepsBack scope type
  provides : c.Provides f type

/-- After these steps there is a bean of the type for a near scope: it was in the current context from the start, or a
candidate was activated that provides it, or, where the scope takes in all contexts, an ancestor has it. -/
inductive BeanThere (f : Facts) (ps : List Step) (type : String) : SearchScope → Prop
  | initially {scope : SearchScope} {r : Registration} (registered : r ∈ f.registrations)
      (provides : f.toContext.Provides r type) : BeanThere f ps type scope
  | activated {scope : SearchScope} {c : Candidate} {e : Entry} (step : (c, e) ∈ ps) (outcome : e.outcome = .activated)
      (provides : c.Provides f type) : BeanThere f ps type scope
  | above {context : Context} {r : Registration} (ancestor : context ∈ f.ancestors)
      (registered : r ∈ context.registrations) (provides : context.Provides r type) : BeanThere f ps type .all

variable {s : Settings} {f : Facts} {ps qs : List Step} {type : String} {scope : SearchScope}

/-- More steps take no bean away. -/
theorem BeanThere.mono (h : BeanThere f ps type scope) (hsub : ∀ p ∈ ps, p ∈ qs) : BeanThere f qs type scope := by
  cases h with
  | initially hr hp => exact .initially hr hp
  | activated hstep ho hp => exact .activated (hsub _ hstep) ho hp
  | above hancestor hr hp => exact .above hancestor hr hp

/-- A search for the type in such a scope finds the bean that is there. -/
theorem BeanThere.finds (h : BeanThere f ps type scope) (hnear : scope.Near) {search : BeanSearch} {c : Component}
    (hscope : search.HasScope c scope) (hlooks : search.LooksFor c type) : ∃ b, search.Finds (f.after ps) c b := by
  have hhere : scope.Includes 0 := by
    rcases hnear with rfl | rfl
    · rfl
    · trivial
  have hcontext : (f.after ps).contexts[0]? = some (f.after ps).toContext := rfl
  cases h with
  | @initially _ r hr hp =>
    have hr' : r ∈ (f.after ps).registrations := List.mem_append_left _ hr
    exact ⟨r.name, scope, 0, _, r, hscope, hhere, hcontext, hr', rfl, .inr ⟨type, hlooks, hp⟩⟩
  | @activated _ d e hstep ho hp =>
    have hr' : ⟨d.id, d.registeredTypes, .candidate⟩ ∈ (f.after ps).registrations :=
      List.mem_append_right _ (mem_activatedBy.2 ⟨d, e, hstep, ho, rfl⟩)
    exact ⟨d.id, scope, 0, _, _, hscope, hhere, hcontext, hr', rfl, .inr ⟨type, hlooks, hp⟩⟩
  | @above context r hancestor hr hp =>
    obtain ⟨k, hk⟩ := List.getElem?_of_mem hancestor
    have hcontext' : (f.after ps).contexts[k + 1]? = some context := hk
    exact ⟨r.name, .all, k + 1, context, r, hscope, trivial, hcontext', hr, rfl, .inr ⟨type, hlooks, hp⟩⟩

namespace Entry.AccountsFor

variable {c : Candidate} {e : Entry}

theorem not_finds_of_activated (h : e.AccountsFor s f c) (ho : e.outcome = .activated) {search : BeanSearch}
    (hsearch : .beanAbsent search ∈ c.conditions) : ¬∃ b, search.Finds f c.toComponent b := by
  obtain ⟨v, hv, hm⟩ := h.matched_of_activated ho _ hsearch
  obtain ⟨names, hnames, rfl⟩ := Condition.judge_beanAbsent_iff.1 hv
  rintro ⟨b, hb⟩
  exact Condition.beanAbsence_matched.1 hm ⟨b, (BeanSearch.mem_matching hnames).2 hb⟩

end Entry.AccountsFor

namespace Justified

variable {c d : Candidate} {e e' : Entry} {i j : Nat}

/-- **The latch**: where there is a bean of the type, none that steps back from it is activated. -/
theorem not_activated_of_beanThere (h : Justified s f ps) (hi : ps[i]? = some (c, e)) (hnear : scope.Near)
    (hback : c.StepsBack scope type) (hthere : BeanThere f (ps.take i) type scope) : e.outcome ≠ .activated := by
  obtain ⟨search, hsearch, hscope, hlooks⟩ := hback
  intro ho
  exact (h.accounts hi).not_finds_of_activated ho hsearch (hthere.finds hnear hscope hlooks)

theorem not_activated_of_default (h : Justified s f ps) (hi : ps[i]? = some (c, e)) (hj : ps[j]? = some (d, e'))
    (hij : i < j) (hc : c.Provides f type) (ho : e.outcome = .activated) (hd : d.IsDefault f type) :
    e'.outcome ≠ .activated := by
  obtain ⟨scope, hnear, hback⟩ := hd.stepsBack
  -- the later default finds the earlier one, whichever near scope it looks in
  have hstep : (c, e) ∈ ps.take j := List.mem_of_getElem? ((List.getElem?_take_of_lt hij).trans hi)
  exact h.not_activated_of_beanThere hj hnear hback (.activated hstep ho hc)

/-- Of two activated defaults for a type each would have had to come first. -/
theorem default_unique (h : Justified s f ps) (hi : ps[i]? = some (c, e)) (hj : ps[j]? = some (d, e'))
    (hc : c.IsDefault f type) (hd : d.IsDefault f type) (ho : e.outcome = .activated) (ho' : e'.outcome = .activated) :
    i = j := by
  rcases Nat.lt_trichotomy i j with hij | hij | hij
  · exact absurd ho' (h.not_activated_of_default hi hj hij hc.provides ho hd)
  · exact hij
  · exact absurd ho (h.not_activated_of_default hj hi hij hd.provides ho' hc)

end Justified

/-- **Asking for absence is a latch, and gives at most one default for each type.**  In a successful run no candidate
that steps back from a type is activated once there is a bean of it, from the start, by a candidate activated before or
in an ancestor that its scope takes in.  So of the defaults for a type at most one is activated, and none when there was
a bean of it from the start. -/
theorem bean_absent_latches {registry : Registry} {res : Resolution} (h : (resolve s f registry).result = .ok res)
    (type : String) :
    (∀ (i : Nat) (c : Candidate) (e : Entry) (scope : SearchScope), registry.processing[i]? = some c →
      res.trace[i]? = some e → scope.Near → c.StepsBack scope type →
        BeanThere f ((registry.processing.zip res.trace).take i) type scope → e.outcome ≠ .activated) ∧
    (∀ (i j : Nat) (c d : Candidate) (e e' : Entry), registry.processing[i]? = some c → res.trace[i]? = some e →
      registry.processing[j]? = some d → res.trace[j]? = some e' → c.IsDefault f type → d.IsDefault f type →
        e.outcome = .activated → e'.outcome = .activated → i = j) ∧
    ∀ (i : Nat) (c : Candidate) (e : Entry) (scope : SearchScope), registry.processing[i]? = some c →
      res.trace[i]? = some e → scope.Near → c.StepsBack scope type → BeanThere f [] type scope →
        e.outcome ≠ .activated := by
  have hps := resolve_steps h
  have hget : ∀ {i : Nat} {c : Candidate} {e : Entry}, registry.processing[i]? = some c → res.trace[i]? = some e →
      (registry.processing.zip res.trace)[i]? = some (c, e) := fun hc he => List.getElem?_zip_eq_some.2 ⟨hc, he⟩
  refine ⟨fun i c e scope hc he => ?_, fun i j c d e e' hc he hd he' => ?_, fun i c e scope hc he hnear hback h0 => ?_⟩
  · exact hps.not_activated_of_beanThere (hget hc he)
  · exact hps.default_unique (hget hc he) (hget hd he')
  · exact hps.not_activated_of_beanThere (hget hc he) hnear hback (h0.mono fun p hp => (nomatch hp))

/-- The second default finds the first by way of a cycle of links, though it only says what it produces; the cache finds
one in an ancestor, by that one's own links. -/
theorem bean_absent_latches_on_pool :
    let f : Facts :=
      { hierarchy := ⟨[("Pool", "Source"), ("Source", "Pool")]⟩,
        ancestors := [{ hierarchy := ⟨[("Map", "Cache")]⟩, registrations := [⟨"shared", ["Map"], .initial⟩] }] }
    let pool : Candidate :=
      { id := "pool", types := ["Pool"], conditions := [.beanAbsent { types := ["Source"], scope := some .current }] }
    let source : Candidate := { id := "source", produces := some "Source", conditions := [.beanAbsent {}] }
    let cache : Candidate := { id := "cache", produces := some "Cache", conditions := [.beanAbsent {}] }
    let registry : Registry := ⟨[pool, source, cache]⟩
    ∃ res e₀ e₁ e₂, (resolve {} f registry).result = .ok res ∧ res.trace = [e₀, e₁, e₂] ∧
      e₀.outcome = .activated ∧
      (source.StepsBack .all "Source" ∧
        BeanThere f ((registry.processing.zip res.trace).take 1) "Source" .all ∧ e₁.outcome ≠ .activated) ∧
      (pool.IsDefault f "Source" ∧ source.IsDefault f "Source" ∧ ¬(e₀.outcome = .activated ∧ e₁.outcome = .activated)) ∧
      cache.StepsBack .all "Cache" ∧ BeanThere f [] "Cache" .all ∧ e₂.outcome ≠ .activated := by
  intro f pool source cache registry
  have hrun : (resolve {} f registry).result.map (fun res => res.trace.map fun e => e.outcome.isActivated) =
      .ok [true, false, false] := by decide +kernel
  obtain ⟨res, hres, htrace⟩ := map_eq_ok_iff.1 hrun
  obtain ⟨e₀, l₀, h₀, he₀, hl₀⟩ := List.map_eq_cons_iff.1 htrace
  obtain ⟨e₁, l₁, rfl, -, hl₁⟩ := List.map_eq_cons_iff.1 hl₀
  obtain ⟨e₂, l₂, rfl, -, hl₂⟩ := List.map_eq_cons_iff.1 hl₁
  obtain rfl := List.map_eq_nil_iff.1 hl₂
  have hactivated : e₀.outcome = .activated := by
    cases ho : e₀.outcome with
    | activated => rfl
    | skipped reason =>
      rw [ho] at he₀
      cases he₀
  have hget : res.trace[0]? = some e₀ ∧ res.trace[1]? = some e₁ ∧ res.trace[2]? = some e₂ := by
    rw [h₀]
    exact ⟨rfl, rfl, rfl⟩
  have hpool : pool.IsDefault f "Source" :=
    ⟨⟨.current, .inl rfl, _, List.mem_cons_self, .inl rfl, .inl List.mem_cons_self⟩,
      "Pool", by decide, .single List.mem_cons_self⟩
  have hback : source.StepsBack .all "Source" :=
    ⟨{}, List.mem_cons_self, .inr ⟨rfl, .inr ⟨rfl, rfl⟩⟩, .inr ⟨rfl, rfl, rfl⟩⟩
  have hsource : source.IsDefault f "Source" := ⟨⟨.all, .inr rfl, hback⟩, "Source", by decide, .refl⟩
  have hcache : cache.StepsBack .all "Cache" :=
    ⟨{}, List.mem_cons_self, .inr ⟨rfl, .inr ⟨rfl, rfl⟩⟩, .inr ⟨rfl, rfl, rfl⟩⟩
  have hthere : BeanThere f ((registry.processing.zip res.trace).take 1) "Source" .all := by
    have hstep : (pool, e₀) ∈ (registry.processing.zip res.trace).take 1 := by
      rw [h₀]
      exact List.mem_cons_self
    exact .activated hstep hactivated hpool.provides
  have habove : BeanThere f [] "Cache" .all :=
    .above List.mem_cons_self List.mem_cons_self ⟨"Map", List.mem_cons_self, .single List.mem_cons_self⟩
  obtain ⟨hlatch, hunique, -⟩ := bean_absent_latches hres "Source"
  obtain ⟨-, -, hstart⟩ := bean_absent_latches hres "Cache"
  refine ⟨res, e₀, e₁, e₂, hres, h₀, hactivated, ⟨hback, hthere, ?_⟩, ⟨hpool, hsource, ?_⟩, hcache, habove, ?_⟩
  · exact hlatch 1 source e₁ .all rfl hget.2.1 (.inr rfl) hback hthere
  · rintro ⟨ho, ho'⟩
    exact absurd (hunique 0 1 pool source e₀ e₁ rfl hget.1 rfl hget.2.1 hpool hsource ho ho') (by decide)
  · exact hstart 2 cache e₂ .all rfl hget.2.2 (.inr rfl) hcache habove

end Wiring
