import Mathlib.Data.List.Forall2
import Wiring.Proofs.Results
import Wiring.Proofs.Run.Steps
/-!
# Account — what a successful run's trace says

Every entry accounts for its candidate by the facts as they were when its turn came (`Entry.AccountsFor`), and those
are told by the entries before it.  `resolve_accounts` says it of the whole trace, of the facts at the end and of the
outcomes.
-/
namespace Wiring

/-- What is found out about conditions judged in order: one finding for each, up to and including the first that does
not match. -/
structure Judged (f : Facts) (c : Component) (phase : Phase) (conditions : List Condition) (fs : List Finding) :
    Prop where
  findings : List.Forall₂ (fun condition x => ∃ v, condition.judge f c phase = .ok v ∧
    x = Candidate.finding condition v) (conditions.take fs.length) fs
  earlier : ∀ x ∈ fs.dropLast, x.matched = true
  complete : fs.length = conditions.length ∨ ∃ x, fs.getLast? = some x ∧ x.matched = false

/-- The entry says what its candidate's conditions give by the facts.  Of an excluded candidate it says that alone; else
the candidate is activated when all conditions match, and the last finding is the reason when not. -/
structure Entry.AccountsFor (e : Entry) (s : Settings) (f : Facts) (c : Candidate) : Prop where
  candidate : e.candidate = c.id
  phase : e.phase = c.phase
  excluded : e.excluded = true ↔ c.id ∈ s.exclude
  leftOut : c.id ∈ s.exclude → e.findings = [] ∧ e.outcome = .skipped "excluded by 'autoconfigure.exclude'"
  judged : c.id ∉ s.exclude → Judged f c.toComponent c.phase c.conditions e.findings
  activated : c.id ∉ s.exclude → (e.outcome = .activated ↔
    ∀ condition ∈ c.conditions, ∃ v, condition.judge f c.toComponent c.phase = .ok v ∧ v.matched = true)
  reason : c.id ∉ s.exclude → ∀ reason, e.outcome = .skipped reason →
    ∃ x, e.findings.getLast? = some x ∧ reason = x.kind.text ++ " " ++ x.message

namespace Judged

variable {f : Facts} {c : Component} {phase : Phase}

theorem nil_iff {fs : List Finding} : Judged f c phase [] fs ↔ fs = [] := by
  constructor
  · intro h
    have hf := h.findings
    rw [List.take_nil] at hf
    exact List.forall₂_nil_left_iff.1 hf
  · rintro rfl
    exact ⟨.nil, fun x hx => (nomatch hx), .inl rfl⟩

theorem earlier_cons_iff {x : Finding} {more : List Finding} :
    (∀ y ∈ (x :: more).dropLast, y.matched = true) ↔
      (more ≠ [] → x.matched = true) ∧ ∀ y ∈ more.dropLast, y.matched = true := by
  cases more with
  | nil => simp
  | cons y more => simp

theorem last_cons_iff {x : Finding} {more : List Finding} (hx : x.matched = true) :
    (∃ y, (x :: more).getLast? = some y ∧ y.matched = false) ↔ ∃ y, more.getLast? = some y ∧ y.matched = false := by
  cases more with
  | nil => simp [hx]
  | cons y more => rw [List.getLast?_cons_cons]

/-- The first condition stops the judging, or the others are judged after it. -/
theorem cons_iff {condition : Condition} {conditions : List Condition} {fs : List Finding} :
    Judged f c phase (condition :: conditions) fs ↔ ∃ v, condition.judge f c phase = .ok v ∧
      ((v.matched = true ∧ ∃ more, fs = Candidate.finding condition v :: more ∧ Judged f c phase conditions more) ∨
        (v.matched = false ∧ fs = [Candidate.finding condition v])) := by
  constructor
  · intro h
    cases fs with
    | nil => rcases h.complete with hlen | ⟨x, hx, -⟩ <;> simp_all
    | cons x more =>
      obtain ⟨⟨v, hv, rfl⟩, hmore⟩ := List.forall₂_cons.1 h.findings
      obtain ⟨hfirst, hearlier⟩ := earlier_cons_iff.1 h.earlier
      refine ⟨v, hv, ?_⟩
      cases hm : v.matched with
      | true => exact .inl ⟨rfl, more, rfl, hmore, hearlier, h.complete.imp Nat.succ.inj (last_cons_iff hm).1⟩
      | false =>
        have hnil : more = [] := by
          by_contra hne
          exact Bool.false_ne_true (hm.symm.trans (hfirst hne))
        exact .inr ⟨rfl, by rw [hnil]⟩
  · rintro ⟨v, hv, ⟨hm, more, rfl, h⟩ | ⟨hm, rfl⟩⟩
    · exact ⟨.cons ⟨v, hv, rfl⟩ h.findings, earlier_cons_iff.2 ⟨fun _ => hm, h.earlier⟩,
        h.complete.imp (congrArg Nat.succ) (last_cons_iff hm).2⟩
    · exact ⟨.cons ⟨v, hv, rfl⟩ .nil, fun y hy => (nomatch hy), .inr ⟨_, rfl, hm⟩⟩

theorem matched_iff : ∀ {conditions : List Condition} {fs : List Finding}, Judged f c phase conditions fs →
    ((∀ x ∈ fs, x.matched = true) ↔
      ∀ condition ∈ conditions, ∃ v, condition.judge f c phase = .ok v ∧ v.matched = true)
  | [], fs, h => by
    rw [nil_iff.1 h]
    exact ⟨fun _ _ hc => (nomatch hc), fun _ _ hx => (nomatch hx)⟩
  | condition :: conditions, fs, h => by
    obtain ⟨v, hv, ⟨hm, more, rfl, hmore⟩ | ⟨hm, rfl⟩⟩ := cons_iff.1 h
    · rw [List.forall_mem_cons, List.forall_mem_cons, matched_iff hmore]
      exact and_congr_left fun _ => ⟨fun _ => ⟨v, hv, hm⟩, fun _ => hm⟩
    · constructor
      · intro hall
        have := hall _ List.mem_cons_self
        rw [Candidate.finding, hm] at this
        cases this
      · intro hall
        obtain ⟨w, hw, hwm⟩ := hall condition List.mem_cons_self
        rw [hv] at hw
        rw [← Except.ok.inj hw, hm] at hwm
        cases hwm

end Judged

namespace Candidate

variable {s : Settings} {f : Facts}

theorem findings_cons_eq_ok_iff {c : Component} {phase : Phase} {condition : Condition} {conditions : List Condition}
    {fs : List Finding} : findings f c phase (condition :: conditions) = .ok fs ↔
      ∃ v, condition.judge f c phase = .ok v ∧
        ((v.matched = true ∧ ∃ more, fs = finding condition v :: more ∧ findings f c phase conditions = .ok more) ∨
          (v.matched = false ∧ fs = [finding condition v])) := by
  rw [findings, bind_eq_ok_iff]
  refine exists_congr fun v => and_congr_right fun _ => ?_
  cases hm : v.matched with
  | true =>
    rw [if_pos rfl, bind_eq_ok_iff]
    simp only [pure, Except.pure, Except.ok.injEq, true_and, Bool.true_eq_false, false_and, or_false]
    exact exists_congr fun more => and_comm.trans (and_congr_left fun _ => eq_comm)
  | false =>
    rw [if_neg Bool.false_ne_true]
    simp only [pure, Except.pure, Except.ok.injEq, Bool.false_eq_true, false_and, false_or, true_and]
    exact eq_comm

theorem findings_eq_ok_iff {c : Component} {phase : Phase} : ∀ {conditions : List Condition} {fs : List Finding},
    findings f c phase conditions = .ok fs ↔ Judged f c phase conditions fs
  | [], fs => by
    rw [findings, Judged.nil_iff, Except.ok.injEq, eq_comm]
  | condition :: conditions, fs => by
    rw [findings_cons_eq_ok_iff, Judged.cons_iff]
    simp only [findings_eq_ok_iff]

theorem outcomeOf_eq_activated_iff {fs : List Finding} :
    outcomeOf fs = .activated ↔ ∀ x ∈ fs, x.matched = true := by
  unfold outcomeOf
  split
  · rename_i x hx
    have hm : x.matched = false := by simpa using List.find?_some hx
    constructor
    · intro h
      cases h
    · intro h
      have := h x (List.mem_of_find?_eq_some hx)
      rw [hm] at this
      cases this
  · rename_i hnone
    exact ⟨fun _ x hx => by simpa using List.find?_eq_none.1 hnone x hx, fun _ => rfl⟩

/-- The reason is the only finding that does not match, and that is the last one. -/
theorem outcomeOf_eq_skipped {c : Component} {phase : Phase} {conditions : List Condition} {fs : List Finding}
    (h : Judged f c phase conditions fs) {reason : String} (hr : outcomeOf fs = .skipped reason) :
    ∃ x, fs.getLast? = some x ∧ reason = x.kind.text ++ " " ++ x.message := by
  unfold outcomeOf at hr
  split at hr
  · rename_i x hx
    refine ⟨x, ?_, (Outcome.skipped.inj hr).symm⟩
    have hm : x.matched = false := by simpa using List.find?_some hx
    have hmem := List.mem_of_find?_eq_some hx
    have hne : fs ≠ [] := List.ne_nil_of_mem hmem
    rw [← List.dropLast_append_getLast hne, List.mem_append, List.mem_singleton] at hmem
    rw [List.getLast?_eq_some_getLast hne]
    rcases hmem with hmem | rfl
    · have := h.earlier x hmem
      rw [hm] at this
      cases this
    · rfl
  · cases hr

theorem outcomeOf_eq_of_accounts {c : Candidate} {e : Entry} (h : e.AccountsFor s f c) (hc : c.id ∉ s.exclude) :
    outcomeOf e.findings = e.outcome := by
  have hj := h.judged hc
  have hact := (outcomeOf_eq_activated_iff.trans hj.matched_iff).trans (h.activated hc).symm
  cases he : e.outcome with
  | activated => exact hact.2 he
  | skipped reason =>
    cases ho : outcomeOf e.findings with
    | activated =>
      rw [hact.1 ho] at he
      cases he
    | skipped reason' =>
      obtain ⟨x, hx, rfl⟩ := outcomeOf_eq_skipped hj ho
      obtain ⟨y, hy, rfl⟩ := h.reason hc reason he
      rw [hx] at hy
      rw [Option.some.inj hy]

/-- **An entry is what examining gives exactly when it accounts for its candidate.** -/
theorem examine_eq_ok_iff {c : Candidate} {e : Entry} :
    c.examine s f c.phase = .ok e ↔ e.AccountsFor s f c := by
  have hex : s.excludes c.id = true ↔ c.id ∈ s.exclude := List.contains_iff_mem
  unfold examine
  by_cases hc : c.id ∈ s.exclude
  · rw [if_pos (hex.2 hc), Except.ok.injEq]
    constructor
    · rintro rfl
      exact ⟨rfl, rfl, ⟨fun _ => hc, fun _ => rfl⟩, fun _ => ⟨rfl, rfl⟩, fun h => absurd hc h, fun h => absurd hc h,
        fun h => absurd hc h⟩
    · intro h
      obtain ⟨candidate, phase, fs, outcome, excluded⟩ := e
      obtain ⟨rfl, rfl⟩ := h.leftOut hc
      obtain rfl : candidate = c.id := h.candidate
      obtain rfl : phase = c.phase := h.phase
      obtain rfl : excluded = true := h.excluded.2 hc
      rfl
  · rw [if_neg (fun h => hc (hex.1 h))]
    constructor
    · intro h
      obtain ⟨fs, hfs, rfl⟩ := map_eq_ok_iff.1 h
      have hj := findings_eq_ok_iff.1 hfs
      exact ⟨rfl, rfl, ⟨fun h => (nomatch h), fun h => absurd h hc⟩, fun h => absurd h hc, fun _ => hj,
        fun _ => outcomeOf_eq_activated_iff.trans hj.matched_iff, fun _ _ hr => outcomeOf_eq_skipped hj hr⟩
    · intro h
      have hexcluded : e.excluded = false := Bool.not_eq_true _ ▸ fun he => hc (h.excluded.1 he)
      refine map_eq_ok_iff.2 ⟨e.findings, findings_eq_ok_iff.2 (h.judged hc), ?_⟩
      rw [outcomeOf_eq_of_accounts h hc, ← h.candidate, ← h.phase, ← hexcluded]

end Candidate

/-- All conditions of an activated candidate matched. -/
theorem Entry.AccountsFor.matched_of_activated {s : Settings} {f : Facts} {c : Candidate} {e : Entry}
    (h : e.AccountsFor s f c) (ho : e.outcome = .activated) :
    ∀ condition ∈ c.conditions, ∃ v, condition.judge f c.toComponent c.phase = .ok v ∧ v.matched = true := by
  by_cases hc : c.id ∈ s.exclude
  · have hskipped := (h.leftOut hc).2
    rw [ho] at hskipped
    cases hskipped
  · exact (h.activated hc).1 ho

namespace Activations

theorem foldl_record : ∀ (es : List Entry) (a : Activations),
    (a.entries.map Prod.fst ++ es.map (·.candidate)).Nodup →
      (es.foldl (fun a e => a.record e.candidate e.outcome) a).entries =
        a.entries ++ es.map fun e => (e.candidate, e.outcome)
  | [], a, _ => (List.append_nil a.entries).symm
  | e :: es, a, h => by
    have hnew : (a.get? e.candidate).isSome = false := by
      rw [Option.isSome_eq_false_iff, Option.isNone_iff_eq_none, get?, List.lookup_eq_none_iff]
      intro p hp
      have := (List.nodup_append.1 h).2.2 p.1 (List.mem_map_of_mem hp) e.candidate List.mem_cons_self
      exact bne_iff_ne.2 (Ne.symm this)
    have hrecord : (a.record e.candidate e.outcome).entries = a.entries ++ [(e.candidate, e.outcome)] := by
      unfold record
      rw [hnew, if_neg Bool.false_ne_true]
    have h' : ((a.record e.candidate e.outcome).entries.map Prod.fst ++ es.map (·.candidate)).Nodup := by
      rwa [hrecord, List.map_append, List.append_assoc]
    rw [List.foldl_cons, foldl_record es _ h', hrecord, List.append_assoc]
    rfl

end Activations

theorem Registry.processing_perm (r : Registry) : r.processing.Perm r.candidates := by
  have hsecond : r.inPhase .registerBean = r.candidates.filter fun c => !(c.phase == .parseConfiguration) := by
    unfold inPhase
    congr 1
    funext c
    cases c.phase <;> rfl
  rw [processing, hsecond]
  exact List.filter_append_perm _ _

namespace Justified

variable {s : Settings} {f : Facts} {ps : List Step}

theorem accounts (h : Justified s f ps) {i : Nat} {c : Candidate} {e : Entry} (hi : ps[i]? = some (c, e)) :
    e.AccountsFor s (f.after (ps.take i)) c := by
  obtain ⟨hlt, hget⟩ := List.getElem?_eq_some_iff.1 hi
  have hsplit : ps = ps.take i ++ (c, e) :: ps.drop (i + 1) := by
    rw [← hget, ← List.drop_eq_getElem_cons hlt, List.take_append_drop]
  exact Candidate.examine_eq_ok_iff.1 (h _ c e _ hsplit)

theorem names (h : Justified s f ps) {c : Candidate} {e : Entry} (hp : (c, e) ∈ ps) :
    e.candidate = c.id ∧ e.phase = c.phase := by
  obtain ⟨i, hi⟩ := List.getElem?_of_mem hp
  exact ⟨(h.accounts hi).candidate, (h.accounts hi).phase⟩

theorem map_names (h : Justified s f ps) :
    (ps.map fun p => (p.2.candidate, p.2.phase)) = ps.map fun p => (p.1.id, p.1.phase) :=
  List.map_congr_left fun _ hp => Prod.ext (h.names hp).1 (h.names hp).2

theorem map_candidate (h : Justified s f ps) : (ps.map fun p => p.2.candidate) = ps.map fun p => p.1.id :=
  List.map_congr_left fun _ hp => (h.names hp).1

end Justified

theorem Resolution.started_trace (f : Facts) (ps : List Step) :
    ((Resolution.started f).addAll ps).trace = ps.map Prod.snd := by
  rw [Resolution.addAll_trace, Resolution.started, List.nil_append]

/-- The steps of a successful run are its candidates with the entries of its trace. -/
theorem resolve_steps {s : Settings} {f : Facts} {registry : Registry} {res : Resolution}
    (h : (resolve s f registry).result = .ok res) : Justified s f (registry.processing.zip res.trace) := by
  obtain ⟨ps, hmap, hps, rfl⟩ := resolve_eq_ok_iff.1 h
  rwa [Resolution.started_trace, ← hmap, List.zip_map', List.map_id']

/-- A run's trace has the ids in processing order. -/
theorem resolve_trace_ids {s : Settings} {f : Facts} {registry : Registry} {res : Resolution}
    (h : (resolve s f registry).result = .ok res) :
    res.trace.map (·.candidate) = registry.processing.map (·.id) := by
  obtain ⟨ps, hmap, hps, rfl⟩ := resolve_eq_ok_iff.1 h
  rw [Resolution.started_trace, ← hmap, List.map_map, List.map_map]
  exact hps.map_candidate

/-- The entry at a place accounts for the candidate there, by the facts that those before it left. -/
theorem resolve_entry {s : Settings} {f : Facts} {registry : Registry} {res : Resolution}
    (h : (resolve s f registry).result = .ok res) {i : Nat} {c : Candidate} {e : Entry}
    (hc : registry.processing[i]? = some c) (he : res.trace[i]? = some e) :
    e.AccountsFor s (f.after ((registry.processing.zip res.trace).take i)) c :=
  (resolve_steps h).accounts (List.getElem?_zip_eq_some.2 ⟨hc, he⟩)

theorem resolve_exists_candidate {s : Settings} {f : Facts} {registry : Registry} {res : Resolution}
    (h : (resolve s f registry).result = .ok res) {e : Entry} (he : e ∈ res.trace) :
    ∃ (g : Facts) (c : Candidate), e.AccountsFor s g c := by
  obtain ⟨i, hi⟩ := List.getElem?_of_mem he
  have hids := congrArg (·[i]?) (resolve_trace_ids h)
  simp only [List.getElem?_map, hi, Option.map_some] at hids
  obtain ⟨c, hc, -⟩ := Option.map_eq_some_iff.1 hids.symm
  exact ⟨_, c, resolve_entry h hc hi⟩

/-- The entries are of the registered candidates, each once. -/
theorem resolve_candidates {s : Settings} {f : Facts} {registry : Registry} {res : Resolution}
    (h : (resolve s f registry).result = .ok res) : (res.trace.map (·.candidate)).Perm registry.ids := by
  rw [resolve_trace_ids h]
  exact registry.processing_perm.map _

/-- **A successful run's trace accounts for every candidate.**  It has one entry for each registered candidate, in
processing order.  Each entry says what its candidate's conditions give by the initial facts with the registrations of
the candidates activated before it, and no others; the facts at the end have those of all activated ones; and the
outcomes recorded are those of the entries. -/
theorem resolve_accounts {s : Settings} {f : Facts} {registry : Registry} {res : Resolution}
    (hids : registry.ids.Nodup) (h : (resolve s f registry).result = .ok res) :
    (res.trace.map fun e => (e.candidate, e.phase)) = (registry.processing.map fun c => (c.id, c.phase)) ∧
    (res.trace.map (·.candidate)).Perm registry.ids ∧
    (∀ (i : Nat) (c : Candidate) (e : Entry), registry.processing[i]? = some c → res.trace[i]? = some e →
      e.AccountsFor s (f.after ((registry.processing.zip res.trace).take i)) c) ∧
    res.facts = f.after (registry.processing.zip res.trace) ∧
    (res.activations.entries = res.trace.map fun e => (e.candidate, e.outcome)) ∧
    ∀ id outcome, res.activations.get? id = some outcome ↔ ∃ e ∈ res.trace, e.candidate = id ∧ e.outcome = outcome := by
  have hperm := resolve_candidates h
  obtain ⟨ps, hmap, hps, rfl⟩ := resolve_eq_ok_iff.1 h
  rw [Resolution.started_trace] at hperm ⊢
  have hzip : registry.processing.zip (ps.map Prod.snd) = ps := by
    rw [← hmap, List.zip_map', List.map_id']
  have hentries : ((Resolution.started f).addAll ps).activations.entries =
      (ps.map Prod.snd).map fun e => (e.candidate, e.outcome) := by
    rw [Resolution.addAll_activations]
    exact Activations.foldl_record _ {} (hperm.nodup_iff.2 hids)
  rw [hzip, Resolution.addAll_facts]
  refine ⟨?_, hperm, fun i c e hc he => ?_, rfl, hentries, fun id outcome => ?_⟩
  · rw [← hmap, List.map_map, List.map_map]
    exact hps.map_names
  · refine hps.accounts ?_
    rw [← hmap, List.getElem?_map] at hc
    rw [List.getElem?_map] at he
    obtain ⟨p, hp, rfl⟩ := Option.map_eq_some_iff.1 hc
    rw [hp] at he ⊢
    rw [← Option.some.inj he]
  · have hnodup : ((((Resolution.started f).addAll ps).activations.entries).map Prod.fst).Nodup := by
      rw [hentries, List.map_map]
      exact hperm.nodup_iff.2 hids
    rw [Activations.get?_eq_some_iff hnodup, hentries, List.mem_map]
    exact exists_congr fun e => and_congr_right fun _ => Prod.mk.injEq _ _ _ _ ▸ Iff.rfl

/-- The fallback sees the pool that came before it, and the counter sees two registrations: that of the excluded
candidate, of the skipped one and its own are not there. -/
theorem resolve_accounts_in_turn :
    let counter : CustomCondition := ⟨"two", fun f _ _ => .ok ⟨f.registrations.length == 2, "counted"⟩⟩
    let s : Settings := { exclude := ["extra"] }
    let f : Facts := { hierarchy := ⟨[("Pool", "Source")]⟩ }
    let registry : Registry := ⟨[{ id := "pool", types := ["Pool"] },
      { id := "fallback", types := ["Source"], conditions := [.beanAbsent { types := ["Source"] }] },
      { id := "extra" }, { id := "counter", conditions := [.custom counter] },
      { id := "setup", phase := .parseConfiguration }]⟩
    registry.ids.Nodup ∧ ∃ res, (resolve s f registry).result = .ok res ∧
      (res.trace.map fun e => (e.candidate, e.outcome)) = [("setup", .activated), ("pool", .activated),
        ("fallback", .skipped "OnMissingBean found beans \x7b\"pool\"\x7d matching types=[\"Source\"], names=[]"),
        ("extra", .skipped "excluded by 'autoconfigure.exclude'"), ("counter", .activated)] ∧
      (res.trace.map (·.candidate)).Perm registry.ids ∧ res.facts = f.after (registry.processing.zip res.trace) ∧
      res.activations.get? "counter" = some .activated := by
  intro counter s f registry
  have hids : registry.ids.Nodup := by decide
  have houtcomes : ((resolve s f registry).result.toOption.map fun res =>
      res.trace.map fun e => (e.candidate, e.outcome)) = some [("setup", .activated), ("pool", .activated),
        ("fallback", .skipped "OnMissingBean found beans \x7b\"pool\"\x7d matching types=[\"Source\"], names=[]"),
        ("extra", .skipped "excluded by 'autoconfigure.exclude'"), ("counter", .activated)] := by decide +kernel
  cases h : (resolve s f registry).result with
  | error fault =>
    rw [h] at houtcomes
    cases houtcomes
  | ok res =>
    rw [h] at houtcomes
    simp only [Except.toOption, Option.map_some, Option.some.injEq] at houtcomes
    obtain ⟨-, hperm, -, hfacts, -, hget⟩ := resolve_accounts hids h
    have hcounter : ("counter", Outcome.activated) ∈ res.trace.map fun e => (e.candidate, e.outcome) := by
      rw [houtcomes]
      decide
    obtain ⟨e, he, heq⟩ := List.mem_map.1 hcounter
    exact ⟨hids, res, rfl, houtcomes, hperm, hfacts, (hget _ _).2 ⟨e, he, Prod.mk.inj heq⟩⟩

end Wiring
