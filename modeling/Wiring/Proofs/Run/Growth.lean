import Wiring.Proofs.Run.Agreement
/-!
# Growth — with more facts no fewer candidates

A positive condition asks for no absence of beans and is none of the application's own.  What matches by some facts
matches by facts that show all that these show (`Condition.matched_mono`).  A candidate activated by the first facts is
activated by the second too, so after both have registered it the second still show all that the first show, and so on
along the run (`activated_of_grown`).
-/
namespace Wiring

namespace Condition

/-- The condition neither asks that beans be absent nor is it one of the application's own. -/
def isPositive : Condition → Bool
  | .beanAbsent _ | .custom _ => false
  | _ => true

end Condition

namespace Facts

/-- All that the second facts have beyond the first are beans and declared supertypes of the current context. -/
structure GrownTo (f g : Facts) : Prop where
  beans : ∀ r ∈ f.registrations, r ∈ g.registrations
  links : ∀ l ∈ f.hierarchy.links, l ∈ g.hierarchy.links
  rest : g = { f with registrations := g.registrations, hierarchy := g.hierarchy }

/-- The second facts show a positive condition all that the first show it. -/
structure CoveredBy (f g : Facts) : Prop where
  classes : f.classes = g.classes
  environment : f.environment = g.environment
  naming : f.naming = g.naming
  kind : f.kind = g.kind
  reaches : ∀ source target, Hierarchy.Reaches f.hierarchy.links source target →
    Hierarchy.Reaches g.hierarchy.links source target
  contexts : List.Forall₂ Context.CoveredBy f.contexts g.contexts

end Facts

theorem Context.CoveredBy.refl (c : Context) : c.CoveredBy c := fun r hr => ⟨r, hr, rfl, fun _ hp => hp⟩

/-- Along more links more types provide the same registrations. -/
theorem Context.Provides.mono {c d : Context} (hreaches : ∀ source target,
    Hierarchy.Reaches c.hierarchy.links source target → Hierarchy.Reaches d.hierarchy.links source target)
    {r : Registration} {type : String} (hp : c.Provides r type) : d.Provides r type := by
  obtain ⟨t, ht, hreach⟩ := hp
  exact ⟨t, ht, hreaches t type hreach⟩

namespace Facts

variable {f g : Facts}

theorem GrownTo.coveredBy (h : f.GrownTo g) : f.CoveredBy g := by
  have hreaches : ∀ source target, Hierarchy.Reaches f.hierarchy.links source target →
      Hierarchy.Reaches g.hierarchy.links source target :=
    Relation.ReflTransGen.mono fun a b hlink => h.links (a, b) hlink
  have hown : f.toContext.CoveredBy g.toContext := fun r hr =>
    ⟨r, h.beans r hr, rfl, fun _ => Context.Provides.mono hreaches⟩
  have habove : g.ancestors = f.ancestors := by rw [h.rest]
  refine ⟨?_, ?_, ?_, ?_, hreaches, .cons hown ?_⟩
  · rw [h.rest]
  · rw [h.rest]
  · rw [h.rest]
  · rw [h.rest]
  · rw [habove]
    exact List.forall₂_same.2 fun c _ => .refl c

/-- Facts stay covered when all that is registered in the first is registered in the second. -/
theorem CoveredBy.after (h : f.CoveredBy g) {ps qs : List Step} (hsub : ∀ r ∈ activatedBy ps, r ∈ activatedBy qs) :
    (f.after ps).CoveredBy (g.after qs) where
  classes := h.classes
  environment := h.environment
  naming := h.naming
  kind := h.kind
  reaches := h.reaches
  contexts := by
    obtain ⟨hown, habove⟩ := List.forall₂_cons.1 h.contexts
    refine .cons (fun r hr => ?_) habove
    rcases List.mem_append.1 hr with hr | hr
    · obtain ⟨r', hr', hname, hprovides⟩ := hown r hr
      exact ⟨r', List.mem_append_left _ hr', hname, hprovides⟩
    · exact ⟨r, List.mem_append_right _ (hsub r hr), rfl, fun _ => Context.Provides.mono h.reaches⟩

end Facts

theorem BeanSearch.matching_mono {f g : Facts} (h : List.Forall₂ Context.CoveredBy f.contexts g.contexts)
    {search : BeanSearch} {kind : ConditionKind} {c : Component} {names : List String}
    (hm : search.matching kind f c = .ok names) :
    ∃ names', search.matching kind g c = .ok names' ∧ ∀ b ∈ names, b ∈ names' := by
  obtain ⟨types, f', htypes, hf', rfl⟩ := matching_eq_ok hm
  -- where the first search begins the second has a place to begin too
  have hrel := Facts.searched?_rel h (search.effectiveScope c)
  rw [hf'] at hrel
  generalize hg' : g.searched? (search.effectiveScope c) = y at hrel
  cases hrel with
  | some hcovered =>
    refine ⟨_, ?_, fun b hb => found_subset hcovered hb⟩
    unfold matching
    rw [htypes, hg']

section Covered

variable {f g : Facts} (h : f.CoveredBy g)

include h

/-- **A positive condition that matches by some facts matches by facts that cover them.** -/
theorem Condition.matched_mono {condition : Condition} (hpositive : condition.isPositive = true) {c : Component}
    {phase : Phase} (hmatched : ∃ v, condition.judge f c phase = .ok v ∧ v.matched = true) :
    ∃ v, condition.judge g c phase = .ok v ∧ v.matched = true := by
  cases condition with
  | beanPresent search =>
    obtain ⟨v, hv, hm⟩ := hmatched
    obtain ⟨names, hnames, rfl⟩ := judge_beanPresent_iff.1 hv
    obtain ⟨names', hnames', hsub⟩ := BeanSearch.matching_mono h.contexts hnames
    obtain ⟨b, hb⟩ := beanPresence_matched.1 hm
    exact ⟨_, judge_beanPresent_iff.2 ⟨names', hnames', rfl⟩, beanPresence_matched.2 ⟨b, hsub b hb⟩⟩
  | classPresent name | classAbsent name =>
    simp only [judge, Context.hasClass, h.classes] at hmatched ⊢
    exact hmatched
  | property test =>
    simp only [judge, h.environment] at hmatched ⊢
    exact hmatched
  | jndi names =>
    simp only [judge, jndiVerdict, Context.boundName?, h.naming] at hmatched ⊢
    exact hmatched
  | webApplication | notWebApplication =>
    simp only [judge, h.kind] at hmatched ⊢
    exact hmatched
  | beanAbsent search => cases hpositive
  | custom own => cases hpositive

/-- A candidate that the first settings and facts activate is activated by the second, which exclude no more. -/
theorem Candidate.activated_mono {s s' : Settings} (hexclude : ∀ id ∈ s'.exclude, id ∈ s.exclude) {c : Candidate}
    (hpositive : ∀ condition ∈ c.conditions, condition.isPositive = true) {e e' : Entry} (he : e.AccountsFor s f c)
    (he' : e'.AccountsFor s' g c) (ho : e.outcome = .activated) : e'.outcome = .activated := by
  have hc : c.id ∉ s'.exclude := fun hc => by
    have hskipped := (he.leftOut (hexclude c.id hc)).2
    rw [ho] at hskipped
    cases hskipped
  refine (he'.activated hc).2 fun condition hcondition => ?_
  exact Condition.matched_mono h (hpositive condition hcondition) (he.matched_of_activated ho condition hcondition)

end Covered

/-- The second entry is of the same candidate, which is activated in it if it is in the first. -/
structure Entry.OutdoneBy (e e' : Entry) : Prop where
  candidate : e'.candidate = e.candidate
  activated : e.outcome = .activated → e'.outcome = .activated

/-- **The second run stays ahead**: from facts that cover those of the first it goes step by step at least as far. -/
theorem Justified.outdone {s s' : Settings} (hexclude : ∀ id ∈ s'.exclude, id ∈ s.exclude) :
    ∀ {ps qs : List Step} {f g : Facts}, f.CoveredBy g → Justified s f ps → Justified s' g qs →
      ps.map Prod.fst = qs.map Prod.fst →
      (∀ p ∈ ps, ∀ condition ∈ p.1.conditions, condition.isPositive = true) →
        List.Forall₂ Entry.OutdoneBy (ps.map Prod.snd) (qs.map Prod.snd)
  | [], qs, _, _, _, _, _, hmap, _ => by
    rw [List.map_eq_nil_iff.1 hmap.symm]
    exact .nil
  | (c, e) :: ps, qs, f, g, h, hps, hqs, hmap, hpositive => by
    obtain ⟨⟨c', e'⟩, qs, rfl, hfirst, hrest⟩ := List.map_eq_cons_iff.1 hmap.symm
    obtain rfl : c = c' := hfirst.symm
    obtain ⟨hc, hps⟩ := Justified.cons_iff.1 hps
    obtain ⟨hc', hqs⟩ := Justified.cons_iff.1 hqs
    have he := Candidate.examine_eq_ok_iff.1 hc
    have he' := Candidate.examine_eq_ok_iff.1 hc'
    have hactivated : e.outcome = .activated → e'.outcome = .activated :=
      Candidate.activated_mono h hexclude (hpositive _ List.mem_cons_self) he he'
    have hsub : ∀ r ∈ activatedBy [(c, e)], r ∈ activatedBy [(c, e')] := fun r hr => by
      obtain ⟨d, x, hd, ho, rfl⟩ := mem_activatedBy.1 hr
      obtain ⟨rfl, rfl⟩ := Prod.mk.inj (List.mem_singleton.1 hd)
      exact mem_activatedBy.2 ⟨_, e', List.mem_singleton.2 rfl, hactivated ho, rfl⟩
    exact .cons ⟨he'.candidate.trans he.candidate.symm, hactivated⟩
      (outdone hexclude (h.after hsub) hps hqs hrest.symm fun p hp => hpositive p (List.mem_cons_of_mem _ hp))

namespace Activations

/-- Both have an outcome for the same ids, and the second has every activation of the first. -/
def OutdoneBy (a a' : Activations) : Prop :=
  ∀ id, Option.Rel (fun o o' => o = .activated → o' = .activated) (a.get? id) (a'.get? id)

theorem OutdoneBy.record {a a' : Activations} (h : a.OutdoneBy a') (id : String) {outcome outcome' : Outcome}
    (ho : outcome = .activated → outcome' = .activated) :
    (a.record id outcome).OutdoneBy (a'.record id outcome') := by
  intro other
  rw [get?_record, get?_record]
  split
  · have hid := h id
    generalize a.get? id = x at hid ⊢
    generalize a'.get? id = x' at hid ⊢
    cases hid with
    | none => exact .some ho
    | some hkept => exact .some hkept
  · exact h other

theorem OutdoneBy.foldl_record : ∀ {es es' : List Entry} {a a' : Activations}, List.Forall₂ Entry.OutdoneBy es es' →
    a.OutdoneBy a' → (es.foldl (fun a e => a.record e.candidate e.outcome) a).OutdoneBy
      (es'.foldl (fun a e => a.record e.candidate e.outcome) a')
  | _, _, _, _, .nil, h => h
  | e :: es, e' :: es', a, a', .cons he hes, h => by
    have hnext := h.record e.candidate he.activated
    rw [List.foldl_cons, List.foldl_cons, he.candidate]
    exact foldl_record hes hnext

theorem OutdoneBy.activated {a a' : Activations} (h : a.OutdoneBy a') {id : String}
    (hid : a.get? id = some .activated) : a'.get? id = some .activated := by
  have hrel := h id
  rw [hid] at hrel
  generalize a'.get? id = y at hrel ⊢
  cases hrel with
  | some hkept => rw [hkept rfl]

end Activations

/-- Facts built with more beans and more declared supertypes, and all else as before, have grown. -/
theorem Blueprint.build_grownTo {b : Blueprint} {beans : List (String × List String)}
    {supertypes : List (String × List String)} (hbeans : ∀ bean ∈ b.beans, bean ∈ beans)
    (hdeclares : ∀ type supertype, b.Declares type supertype →
      Declares { b with beans, supertypes } type supertype) :
    b.build.GrownTo (build { b with beans, supertypes }) where
  beans r hr := by
    obtain ⟨bean, hbean, rfl⟩ := List.mem_map.1 hr
    exact List.mem_map.2 ⟨bean, hbeans bean hbean, rfl⟩
  links l hl := mem_links_build.2 (hdeclares l.1 l.2 (mem_links_build.1 hl))
  rest := rfl

/-- **Positive registries are monotone.**  When no condition asks for an absence of beans or is custom, more beans and
declared supertypes in the current context and fewer exclusions leave no candidate behind: of two runs that succeed, the
second activates every candidate that the first does. -/
theorem activated_of_grown {s s' : Settings} {f g : Facts} {registry : Registry} {res res' : Resolution}
    (hpositive : ∀ condition ∈ registry.conditions, condition.isPositive = true)
    (hexclude : ∀ id ∈ s'.exclude, id ∈ s.exclude) (hgrown : f.GrownTo g)
    (hres : (resolve s f registry).result = .ok res) (hres' : (resolve s' g registry).result = .ok res') :
    List.Forall₂ Entry.OutdoneBy res.trace res'.trace ∧
    ∀ id, res.activations.get? id = some .activated → res'.activations.get? id = some .activated := by
  obtain ⟨ps, hmap, hps, rfl⟩ := resolve_eq_ok_iff.1 hres
  obtain ⟨qs, hmap', hqs, rfl⟩ := resolve_eq_ok_iff.1 hres'
  have hmem : ∀ p ∈ ps, p.1 ∈ registry.processing := fun p hp => hmap ▸ List.mem_map_of_mem hp
  have hentries : List.Forall₂ Entry.OutdoneBy (ps.map Prod.snd) (qs.map Prod.snd) :=
    hps.outdone hexclude hgrown.coveredBy hqs (hmap.trans hmap'.symm) fun p hp condition hcondition =>
      hpositive condition (Registry.mem_conditions (hmem p hp) hcondition)
  have hrecorded : Activations.OutdoneBy ((Resolution.started f).addAll ps).activations
      ((Resolution.started g).addAll qs).activations := by
    rw [Resolution.addAll_activations, Resolution.addAll_activations]
    exact Activations.OutdoneBy.foldl_record hentries fun _ => .none
  rw [Resolution.started_trace, Resolution.started_trace]
  exact ⟨hentries, fun id => hrecorded.activated⟩

/-- The reader and, by it, the pool are activated both times.  The cache is found in the pool only by the declared
supertype that the second facts have more, and the extra one is excluded only the first time. -/
theorem activated_of_grown_by_supertype :
    let b : Blueprint := { beans := [("db", ["Db"])], supertypes := [("Db", ["Source"])], parent := some {} }
    let b' : Blueprint := { b with
      beans := [("spare", ["Source"]), ("db", ["Db"])], supertypes := [("Pool", ["Cache", "Pool"]), ("Db", ["Source"])] }
    let reader : Candidate := { id := "reader", conditions := [.beanPresent { types := ["Source"] }, .notWebApplication] }
    let pool : Candidate := { id := "pool", produces := some "Pool",
                              conditions := [.beanPresent { names := ["reader"], scope := some .current }] }
    let cache : Candidate := { id := "cache", conditions := [.beanPresent { types := ["Cache"] }] }
    let extra : Candidate := { id := "extra" }
    let registry : Registry := ⟨[reader, pool, cache, extra]⟩
    let s : Settings := { exclude := ["extra", "other"] }
    let s' : Settings := { exclude := ["other"] }
    (∀ condition ∈ registry.conditions, condition.isPositive = true) ∧ (∀ id ∈ s'.exclude, id ∈ s.exclude) ∧
      b.build.GrownTo b'.build ∧
      ∃ res res', (resolve s b.build registry).result = .ok res ∧ (resolve s' b'.build registry).result = .ok res' ∧
        res.activations.activated = ["reader", "pool"] ∧
        res'.activations.activated = ["reader", "pool", "cache", "extra"] ∧
        List.Forall₂ Entry.OutdoneBy res.trace res'.trace ∧
        res.activations.get? "pool" = some .activated ∧ res'.activations.get? "pool" = some .activated := by
  intro b b' reader pool cache extra registry s s'
  have hpositive : ∀ condition ∈ registry.conditions, condition.isPositive = true := by
    simp [registry, Registry.conditions, reader, pool, cache, extra, Condition.isPositive]
  have hexclude : ∀ id ∈ s'.exclude, id ∈ s.exclude := by simp [s, s']
  have hgrown : b.build.GrownTo b'.build := by
    refine Blueprint.build_grownTo (by simp [b]) fun type supertype => ?_
    rintro ⟨supertypes, hmem, hsupertype⟩
    exact ⟨supertypes, List.mem_cons_of_mem _ hmem, hsupertype⟩
  have hrun : (resolve s b.build registry).result.map (fun res => (res.activations.activated,
      res.activations.get? "pool")) = .ok (["reader", "pool"], some .activated) := by decide +kernel
  have hrun' : (resolve s' b'.build registry).result.map (fun res => res.activations.activated) =
      .ok ["reader", "pool", "cache", "extra"] := by decide +kernel
  obtain ⟨res, hres, hactivated⟩ := map_eq_ok_iff.1 hrun
  obtain ⟨res', hres', hactivated'⟩ := map_eq_ok_iff.1 hrun'
  obtain ⟨hactivated, hpool⟩ := Prod.mk.inj hactivated
  obtain ⟨htrace, hkept⟩ := activated_of_grown hpositive hexclude hgrown hres hres'
  exact ⟨hpositive, hexclude, hgrown, res, res', hres, hres', hactivated, hactivated', htrace, hpool,
    hkept "pool" hpool⟩

end Wiring
