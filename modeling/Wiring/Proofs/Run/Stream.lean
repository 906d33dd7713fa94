import Wiring.Proofs.Alike
import Wiring.Proofs.Run.Account
/-!
# Stream — what listeners hear of a run

A run gives its events piece by piece: one when it starts, one when a phase starts, one for each candidate and one at the
end.  Steps that succeed are told one by one, wherever the run goes from there (`Run.visit_append`).  So the events tell
the trace, and those of a run that fails tell the steps before the candidate at fault and nothing else
(`events_tell_trace`).  Behind the first line of the run its log has what the listeners write of the events, in their
order (`Run.lines_of_opening`).
-/
namespace Wiring

/-- The event tells of the entry: of which candidate it is, in which phase and, when that was skipped, why. -/
inductive Entry.ToldBy (e : Entry) : Event → Prop
  | activated (outcome : e.outcome = .activated) : e.ToldBy (.activated e.candidate e.phase)
  | skipped {reason : String} (outcome : e.outcome = .skipped reason) :
      e.ToldBy (.skipped e.candidate e.phase reason)

theorem Entry.toldBy_event (e : Entry) : e.ToldBy e.event := by
  unfold event
  cases ho : e.outcome with
  | activated => exact .activated ho
  | skipped reason => exact .skipped ho

/-- Whom an event is about, if it is about a single candidate. -/
def Event.candidate? : Event → Option String
  | .activated candidate _ | .skipped candidate _ _ => some candidate
  | .runStarted _ | .phaseStarted .. | .runCompleted .. => none

/-- The phases that have begun when a candidate of the given one is looked at. -/
def Phase.begun : Phase → List Phase
  | .parseConfiguration => [.parseConfiguration]
  | .registerBean => [.parseConfiguration, .registerBean]

/-- The events tell phase by phase that it starts, with the number of its candidates, and then its entries in order. -/
inductive Told (registry : Registry) (es : List Entry) : List Phase → List Event → Prop
  | nil : Told registry es [] []
  | phase {phase : Phase} {phases : List Phase} {entries more : List Event}
      (entries_told : List.Forall₂ Entry.ToldBy (es.filter fun e => e.phase = phase) entries)
      (more_told : Told registry es phases more) :
      Told registry es (phase :: phases)
        (.phaseStarted phase (registry.inPhase phase).length :: entries ++ more)

/-- The signals that steps give, one for each. -/
def told (ps : List Step) : List Signal := ps.map fun p => .event p.2.event

namespace Run

theorem after_after (first second : List Signal) (r : Run) :
    (r.after second).after first = r.after (first ++ second) := by
  simp only [after, List.append_assoc]

theorem andThen_of_ok (signals : List Signal) (resolution : Resolution) (next : Resolution → Run) :
    (⟨signals, .ok resolution⟩ : Run).andThen next = (next resolution).after signals := rfl

theorem andThen_of_error (signals : List Signal) (fault : Fault) (next : Resolution → Run) :
    (⟨signals, .error fault⟩ : Run).andThen next = ⟨signals, .error fault⟩ := rfl

variable {s : Settings} {phase : Phase}

/-- **Steps that succeed are told one by one**, and the run goes on from where they lead. -/
theorem visit_append (cs : List Candidate) : ∀ {ps : List Step} {r : Resolution}, Justified s r.facts ps →
    (∀ p ∈ ps, p.1.phase = phase) →
      visit s phase (ps.map Prod.fst ++ cs) r = (visit s phase cs (r.addAll ps)).after (told ps)
  | [], _, _, _ => rfl
  | (c, e) :: ps, r, hps, hphase => by
    obtain ⟨hc, hps⟩ := Justified.cons_iff.1 hps
    obtain ⟨hcphase, hphase⟩ := List.forall_mem_cons.1 hphase
    have hfacts : (r.add c e).facts = r.facts.after [(c, e)] := Facts.after_step r.facts c e
    have hrest := visit_append cs (hfacts.symm ▸ hps) hphase
    rw [hcphase] at hc
    rw [List.map_cons, List.cons_append, visit, hc]
    dsimp only
    rw [hrest, after_after]
    rfl

variable {registry : Registry} {ps : List Step} {r : Resolution}

/-- A phase without fault tells all its steps. -/
theorem visitPhase_of_all (hall : registry.inPhase phase = ps.map Prod.fst) (hps : Justified s r.facts ps)
    (hphase : ∀ p ∈ ps, p.1.phase = phase) : visitPhase s registry phase r =
      ⟨.event (.phaseStarted phase (registry.inPhase phase).length) :: told ps, .ok (r.addAll ps)⟩ := by
  have hvisit := visit_append [] hps hphase
  rw [List.append_nil, ← hall] at hvisit
  rw [visitPhase, hvisit, visit, after_after]
  simp only [after, List.append_nil, List.singleton_append]

/-- A phase with a fault tells the steps before it. -/
theorem visitPhase_of_fault {c : Candidate} {post : List Candidate} {fault : Fault}
    (hall : registry.inPhase phase = ps.map Prod.fst ++ c :: post) (hps : Justified s r.facts ps)
    (hphase : ∀ p ∈ ps, p.1.phase = phase) (hc : c.examine s (r.facts.after ps) phase = .error fault) :
    visitPhase s registry phase r = ⟨.event (.phaseStarted phase (registry.inPhase phase).length) :: told ps ++
      [abortion c fault], .error fault⟩ := by
  have hvisit := visit_append (c :: post) hps hphase
  rw [← hall, visit, Resolution.addAll_facts, hc] at hvisit
  rw [visitPhase, hvisit]
  rfl

end Run

theorem map_event (ps : List Step) : (ps.map fun p => p.2.event).map Signal.event = told ps := List.map_map

theorem forall₂_toldBy (ps : List Step) :
    List.Forall₂ Entry.ToldBy (ps.map Prod.snd) (ps.map fun p => p.2.event) := by
  rw [List.forall₂_map_left_iff, List.forall₂_map_right_iff]
  exact List.forall₂_same.2 fun p _ => p.2.toldBy_event

theorem Registry.phase_of_inPhase {registry : Registry} {phase : Phase} {c : Candidate}
    (hc : c ∈ registry.inPhase phase) : c.phase = phase := beq_iff_eq.1 (List.mem_filter.1 hc).2

section OneRun

variable {s : Settings} {f : Facts} {registry : Registry}

/-- The entries of steps of one phase are of that phase. -/
theorem Justified.filter_phase {ps : List Step} (hps : Justified s f ps) {phase : Phase}
    (hphase : ∀ p ∈ ps, p.1.phase = phase) (other : Phase) :
    (ps.map Prod.snd).filter (fun e => e.phase = other) = if phase = other then ps.map Prod.snd else [] := by
  have hentry : ∀ e ∈ ps.map Prod.snd, e.phase = phase := fun e he => by
    obtain ⟨p, hp, rfl⟩ := List.mem_map.1 he
    exact (hps.names hp).2.trans (hphase p hp)
  split
  · rename_i h
    exact List.filter_eq_self.2 fun e he => decide_eq_true ((hentry e he).trans h)
  · rename_i h
    exact List.filter_eq_nil_iff.2 fun e he => by simpa [hentry e he] using h

/-- Steps of both phases are told phase by phase. -/
theorem Justified.told (registry : Registry) {first second : List Step} (hps : Justified s f (first ++ second))
    (hfirst : ∀ p ∈ first, p.1.phase = .parseConfiguration) (hsecond : ∀ p ∈ second, p.1.phase = .registerBean) :
    Told registry ((first ++ second).map Prod.snd) Phase.all
      (.phaseStarted .parseConfiguration (registry.inPhase .parseConfiguration).length ::
        (first.map fun p => p.2.event) ++
        (.phaseStarted .registerBean (registry.inPhase .registerBean).length :: (second.map fun p => p.2.event) ++ [])) := by
  obtain ⟨hps, hqs⟩ := Justified.append_iff.1 hps
  refine .phase ?_ (.phase ?_ .nil)
  · rw [List.map_append, List.filter_append, hps.filter_phase hfirst, hqs.filter_phase hsecond, if_pos rfl,
      if_neg (by decide), List.append_nil]
    exact forall₂_toldBy first
  · rw [List.map_append, List.filter_append, hps.filter_phase hfirst, hqs.filter_phase hsecond, if_pos rfl,
      if_neg (by decide), List.nil_append]
    exact forall₂_toldBy second

/-- What a run tells whose phases both have no fault. -/
theorem signals_of_all {first second : List Step} (hps : Justified s f (first ++ second))
    (hfirst : registry.inPhase .parseConfiguration = first.map Prod.fst)
    (hsecond : registry.inPhase .registerBean = second.map Prod.fst)
    (hphase : ∀ p ∈ first, p.1.phase = .parseConfiguration) (hphase' : ∀ p ∈ second, p.1.phase = .registerBean) :
    (resolve s f registry).signals = Run.opening s registry ++
      (.event (.phaseStarted .parseConfiguration (registry.inPhase .parseConfiguration).length) :: told first ++
        .event (.phaseStarted .registerBean (registry.inPhase .registerBean).length) :: told second) ++
      ((Resolution.started f).addAll (first ++ second)).completion := by
  obtain ⟨hps₁, hps₂⟩ := Justified.append_iff.1 hps
  have hfacts : ((Resolution.started f).addAll first).facts = f.after first := Resolution.addAll_facts _ _
  rw [← hfacts] at hps₂
  rw [resolve, Run.visitPhase_of_all hfirst hps₁ hphase, Run.andThen_of_ok, Run.visitPhase_of_all hsecond hps₂ hphase']
  simp only [Run.after, Run.andThen_of_ok, Resolution.addAll_append, List.append_assoc]

theorem exists_told_of_ok {res : Resolution} (h : (resolve s f registry).result = .ok res) :
    ∃ events, Told registry res.trace Phase.all events ∧
      (resolve s f registry).signals = Run.opening s registry ++ events.map .event ++ res.completion := by
  obtain ⟨ps, hmap, hps, rfl⟩ := resolve_eq_ok_iff.1 h
  obtain ⟨first, second, rfl, hfirst, hsecond⟩ := List.map_eq_append_iff.1 hmap
  have hphase : ∀ p ∈ first, p.1.phase = .parseConfiguration := fun p hp =>
    Registry.phase_of_inPhase (hfirst ▸ List.mem_map_of_mem hp)
  have hphase' : ∀ p ∈ second, p.1.phase = .registerBean := fun p hp =>
    Registry.phase_of_inPhase (hsecond ▸ List.mem_map_of_mem hp)
  rw [Resolution.started_trace]
  refine ⟨_, hps.told registry hphase hphase', ?_⟩
  rw [signals_of_all hps hfirst.symm hsecond.symm hphase hphase']
  simp only [List.map_append, List.map_cons, List.append_nil, map_event]

/-- Where the first candidate at fault stands: among those of the first phase, or of the second with the first done. -/
theorem Registry.processing_split {ps : List Step} {c : Candidate} {post : List Candidate}
    (h : registry.processing = ps.map Prod.fst ++ c :: post) :
    (∃ rest, registry.inPhase .parseConfiguration = ps.map Prod.fst ++ c :: rest) ∨
      ∃ first second, ps = first ++ second ∧ registry.inPhase .parseConfiguration = first.map Prod.fst ∧
        registry.inPhase .registerBean = second.map Prod.fst ++ c :: post := by
  rcases List.append_eq_append_iff.1 h with ⟨as, hps, hsecond⟩ | ⟨bs, hfirst, hpost⟩
  · obtain ⟨first, second, rfl, hfirst, rfl⟩ := List.map_eq_append_iff.1 hps
    exact .inr ⟨first, second, rfl, hfirst.symm, hsecond⟩
  · cases bs with
    | nil =>
      rw [List.append_nil] at hfirst
      exact .inr ⟨ps, [], (List.append_nil ps).symm, hfirst, hpost.symm⟩
    | cons b bs =>
      obtain ⟨rfl, -⟩ := List.cons.inj hpost
      exact .inl ⟨bs, hfirst⟩

/-- What a run tells with a fault in the first phase. -/
theorem signals_of_fault_in_first {ps : List Step} {c : Candidate} {rest : List Candidate} {fault : Fault}
    (hall : registry.inPhase .parseConfiguration = ps.map Prod.fst ++ c :: rest) (hps : Justified s f ps)
    (hphase : ∀ p ∈ ps, p.1.phase = .parseConfiguration)
    (hc : c.examine s (f.after ps) .parseConfiguration = .error fault) :
    (resolve s f registry).signals = Run.opening s registry ++
      .event (.phaseStarted .parseConfiguration (registry.inPhase .parseConfiguration).length) :: told ps ++
      [Run.abortion c fault] := by
  rw [resolve, Run.visitPhase_of_fault hall hps hphase hc, Run.andThen_of_error, Run.andThen_of_error]
  simp only [Run.after, List.append_assoc, List.cons_append]

/-- What a run tells with a fault in the second phase. -/
theorem signals_of_fault_in_second {first second : List Step} {c : Candidate} {post : List Candidate} {fault : Fault}
    (hps : Justified s f (first ++ second)) (hfirst : registry.inPhase .parseConfiguration = first.map Prod.fst)
    (hsecond : registry.inPhase .registerBean = second.map Prod.fst ++ c :: post)
    (hphase : ∀ p ∈ first, p.1.phase = .parseConfiguration) (hphase' : ∀ p ∈ second, p.1.phase = .registerBean)
    (hc : c.examine s (f.after (first ++ second)) .registerBean = .error fault) :
    (resolve s f registry).signals = Run.opening s registry ++
      (.event (.phaseStarted .parseConfiguration (registry.inPhase .parseConfiguration).length) :: told first ++
        .event (.phaseStarted .registerBean (registry.inPhase .registerBean).length) :: told second) ++
      [Run.abortion c fault] := by
  obtain ⟨hps₁, hps₂⟩ := Justified.append_iff.1 hps
  have hfacts : ((Resolution.started f).addAll first).facts = f.after first := Resolution.addAll_facts _ _
  rw [Facts.after_append] at hc
  rw [← hfacts] at hps₂ hc
  rw [resolve, Run.visitPhase_of_all hfirst hps₁ hphase, Run.andThen_of_ok,
    Run.visitPhase_of_fault hsecond hps₂ hphase' hc]
  simp only [Run.after, Run.andThen_of_error, List.append_assoc, List.cons_append]

theorem exists_told_of_error {fault : Fault} (h : (resolve s f registry).result = .error fault) :
    ∃ (ps : List Step) (c : Candidate) (post : List Candidate) (events : List Event),
      registry.processing = ps.map Prod.fst ++ c :: post ∧ Justified s f ps ∧
      c.examine s (f.after ps) c.phase = .error fault ∧
      Told registry (ps.map Prod.snd) c.phase.begun events ∧
      (resolve s f registry).signals = Run.opening s registry ++ events.map .event ++ [Run.abortion c fault] := by
  obtain ⟨ps, c, post, hsplit, hps, hc⟩ := resolve_eq_error_iff.1 h
  rcases Registry.processing_split hsplit with ⟨rest, hall⟩ | ⟨first, second, rfl, hfirst, hsecond⟩
  · have hphases : ∀ d ∈ ps.map Prod.fst ++ c :: rest, d.phase = .parseConfiguration := fun d hd =>
      Registry.phase_of_inPhase (hall ▸ hd)
    have hcphase := hphases c (List.mem_append_right _ List.mem_cons_self)
    have hphase : ∀ p ∈ ps, p.1.phase = .parseConfiguration := fun p hp =>
      hphases p.1 (List.mem_append_left _ (List.mem_map_of_mem hp))
    refine ⟨ps, c, post, .phaseStarted .parseConfiguration (registry.inPhase .parseConfiguration).length ::
      (ps.map fun p => p.2.event) ++ [], hsplit, hps, hc, ?_, ?_⟩
    · rw [hcphase]
      refine .phase ?_ .nil
      rw [hps.filter_phase hphase, if_pos rfl]
      exact forall₂_toldBy ps
    · rw [signals_of_fault_in_first hall hps hphase (hcphase ▸ hc), List.append_nil, List.map_cons, map_event]
  · have hphase : ∀ p ∈ first, p.1.phase = .parseConfiguration := fun p hp =>
      Registry.phase_of_inPhase (hfirst ▸ List.mem_map_of_mem hp)
    have hphases : ∀ d ∈ second.map Prod.fst ++ c :: post, d.phase = .registerBean := fun d hd =>
      Registry.phase_of_inPhase (hsecond ▸ hd)
    have hcphase := hphases c (List.mem_append_right _ List.mem_cons_self)
    have hphase' : ∀ p ∈ second, p.1.phase = .registerBean := fun p hp =>
      hphases p.1 (List.mem_append_left _ (List.mem_map_of_mem hp))
    have htold := hps.told registry hphase hphase'
    refine ⟨first ++ second, c, post, _, hsplit, hps, hc, by rwa [hcphase], ?_⟩
    rw [signals_of_fault_in_second hps hfirst hsecond hphase hphase' (hcphase ▸ hc)]
    simp only [List.map_append, List.map_cons, List.append_nil, map_event]

/-- The entries of a phase are as many as its candidates. -/
theorem length_filter_phase {res : Resolution} (h : (resolve s f registry).result = .ok res) (phase : Phase) :
    (res.trace.filter fun e => e.phase = phase).length = (registry.inPhase phase).length := by
  obtain ⟨ps, hmap, hps, rfl⟩ := resolve_eq_ok_iff.1 h
  have hphases : (ps.map Prod.snd).map (·.phase) = registry.processing.map (·.phase) := by
    rw [← hmap, List.map_map, List.map_map]
    exact List.map_congr_left fun p hp => (hps.names hp).2
  have hcount : (ps.map Prod.snd).countP (fun e => e.phase = phase) =
      registry.processing.countP fun c => c.phase = phase := by
    have := congrArg (List.countP fun p => p = phase) hphases
    simpa only [List.countP_map, Function.comp_def] using this
  rw [Resolution.started_trace, ← List.countP_eq_length_filter, hcount, registry.processing_perm.countP_eq,
    Registry.inPhase, ← List.countP_eq_length_filter]
  rfl

/-- The ids being distinct, what is recorded is as much as the trace has. -/
theorem activations_of_ok {res : Resolution} (hids : registry.ids.Nodup)
    (h : (resolve s f registry).result = .ok res) :
    res.activations.activated.length = (res.trace.filter fun e => e.outcome = .activated).length ∧
      res.activations.size = res.trace.length := by
  have hnodup : (res.trace.map (·.candidate)).Nodup := (resolve_candidates h).nodup_iff.2 hids
  have hentries : res.activations.entries = res.trace.map fun e => (e.candidate, e.outcome) := by
    obtain ⟨ps, -, -, rfl⟩ := resolve_eq_ok_iff.1 h
    rw [Resolution.started_trace] at hnodup ⊢
    rw [Resolution.addAll_activations]
    exact Activations.foldl_record _ {} hnodup
  have hactivated : ∀ o : Outcome, o.isActivated = decide (o = .activated) := fun o => by cases o <;> rfl
  rw [Activations.activated, Activations.size, hentries, List.filter_map, List.length_map, List.length_map, List.length_map]
  simp only [Function.comp_def, hactivated, and_self]

end OneRun

/-- Events of phases are that one starts, or are told of an entry. -/
theorem Told.cases {registry : Registry} {es : List Entry} : ∀ {phases : List Phase} {events : List Event},
    Told registry es phases events → ∀ event ∈ events,
      (∃ phase n, event = .phaseStarted phase n) ∨ ∃ e ∈ es, e.ToldBy event
  | _, _, .nil, event, h => (nomatch h)
  | _, _, .phase hentries hmore, event, h => by
    rcases List.mem_append.1 h with h | h
    · rcases List.mem_cons.1 h with rfl | h
      · exact .inl ⟨_, _, rfl⟩
      · obtain ⟨e, he, htold⟩ := exists_of_forall₂_left hentries.flip event h
        exact .inr ⟨e, (List.mem_filter.1 he).1, htold⟩
    · exact hmore.cases event h

theorem Entry.ToldBy.candidate? {e : Entry} {event : Event} (h : e.ToldBy event) :
    event.candidate? = some e.candidate := by
  cases h <;> rfl

/-- Events of phases are silent about whom no entry is of, and none of them ends the run. -/
theorem Told.silent {registry : Registry} {es : List Entry} {phases : List Phase} {events : List Event} {id : String}
    (h : Told registry es phases events) (hid : ∀ e ∈ es, e.candidate ≠ id) :
    ∀ event ∈ events, event.candidate? ≠ some id ∧ ∀ activated skipped, event ≠ .runCompleted activated skipped := by
  intro event hevent
  rcases h.cases event hevent with ⟨phase, n, rfl⟩ | ⟨e, he, htold⟩
  · exact ⟨nofun, nofun⟩
  · refine ⟨fun h => hid e he (Option.some.inj (htold.candidate?.symm.trans h)), fun _ _ h => ?_⟩
    subst h
    cases htold

namespace Listener

theorem deliveries_cons (listeners : List Listener) (e : Event) (events : List Event) :
    deliveries listeners (e :: events) = deliveries listeners [e] ++ deliveries listeners events := by
  simp [deliveries]

theorem length_deliveries (listeners : List Listener) (events : List Event) :
    (deliveries listeners events).length = events.length * listeners.length := by
  unfold deliveries
  simp [List.length_flatMap]

/-- **The deliveries in order**: all those of an event, listener by listener, before any of the next event. -/
theorem getElem?_deliveries {listeners : List Listener} {j : Nat} {l : Listener} (hj : listeners[j]? = some l) :
    ∀ {events : List Event} {i : Nat} {e : Event}, events[i]? = some e →
      (deliveries listeners events)[i * listeners.length + j]? = some (l, e)
  | e :: events, 0, _, h => by
    obtain rfl := Option.some.inj h
    have hlt : j < (deliveries listeners [e]).length := by
      rw [length_deliveries, List.length_singleton, Nat.one_mul]
      exact (List.getElem?_eq_some_iff.1 hj).1
    rw [deliveries_cons, Nat.zero_mul, Nat.zero_add, List.getElem?_append_left hlt, deliveries, List.flatMap_singleton,
      List.getElem?_map, hj]
    rfl
  | e :: events, i + 1, _, h => by
    have hlength : (deliveries listeners [e]).length = listeners.length := by
      rw [length_deliveries, List.length_singleton, Nat.one_mul]
    have hle : (deliveries listeners [e]).length ≤ (i + 1) * listeners.length + j := by
      rw [hlength, Nat.succ_mul]
      omega
    rw [deliveries_cons, List.getElem?_append_right hle, hlength,
      show (i + 1) * listeners.length + j - listeners.length = i * listeners.length + j by rw [Nat.succ_mul]; omega]
    exact getElem?_deliveries hj h

end Listener

/-- What a run's events make its listeners write is what their deliveries make them write. -/
theorem Run.lines_of_events (listeners : List Listener) : ∀ signals : List Signal,
    (signals.filter fun x => x.event?.isSome).flatMap (Signal.lines listeners) =
      (Listener.deliveries listeners (signals.filterMap Signal.event?)).flatMap fun d => d.1.hear d.2
  | [] => rfl
  | .line _ :: signals => lines_of_events listeners signals
  | .event e :: signals => by
    have ih := lines_of_events listeners signals
    have hevents : (Signal.event e :: signals).filterMap Signal.event? = e :: signals.filterMap Signal.event? := rfl
    rw [List.filter_cons_of_pos rfl, hevents, List.flatMap_cons, Listener.deliveries_cons, List.flatMap_append, ih]
    rfl

/-- An event is written of by listener after listener. -/
theorem Signal.lines_event (listeners : List Listener) (e : Event) :
    Signal.lines listeners (.event e) = listeners.flatMap fun l => l.hear e := by
  rw [lines, Listener.deliveries, List.flatMap_singleton, List.flatMap_map]

theorem Resolution.lines_completion (res : Resolution) (listeners : List Listener) :
    res.completion.flatMap (Signal.lines listeners) =
      let activated := res.activations.activated.length
      let skipped := res.activations.size - activated
      ⟨.info, "Resolution completed: " ++ toString activated ++ " activated, " ++ toString skipped ++ " skipped"⟩ ::
        listeners.flatMap fun l => l.hear (.runCompleted activated skipped) := by
  rw [completion, List.flatMap_cons, List.flatMap_singleton, Signal.lines_event]
  rfl

section Heard

variable {s : Settings} {registry : Registry} {r : Run} {events : List Event} {rest : List Signal}

theorem Run.events_of_opening (h : r.signals = opening s registry ++ events.map .event ++ rest) :
    r.events = .runStarted registry.candidates.length :: events ++ rest.filterMap Signal.event? := by
  have hmap : (events.map Signal.event).filterMap Signal.event? = events := by
    rw [List.filterMap_map]
    exact List.filterMap_some
  rw [Run.events, h, List.filterMap_append, List.filterMap_append, hmap]
  rfl

/-- Behind the first line stands what the listeners write, event by event and for each event listener by listener. -/
theorem Run.lines_of_opening (h : r.signals = opening s registry ++ events.map .event ++ rest)
    (listeners : List Listener) : r.lines listeners =
      ⟨.info, "Resolving " ++ toString registry.candidates.length ++ " candidate(s) (" ++ toString s.exclude.length ++
          " excluded by configuration)"⟩ ::
        ((.runStarted registry.candidates.length :: events).flatMap fun e => listeners.flatMap fun l => l.hear e) ++
        rest.flatMap (Signal.lines listeners) := by
  have hevents : (events.map Signal.event).flatMap (Signal.lines listeners) =
      events.flatMap fun e => listeners.flatMap fun l => l.hear e := by
    rw [List.flatMap_map]
    exact congrArg (events.flatMap ·) (funext (Signal.lines_event listeners))
  rw [Run.lines, h, List.flatMap_append, List.flatMap_append, hevents, opening, List.flatMap_cons,
    List.flatMap_singleton, Signal.lines_event, List.flatMap_cons]
  rfl

end Heard

/-- **The events tell the trace.**  A successful run is told from its start, phase by phase and entry by entry, to its
end, and the numbers told are those of the candidates, of the phases and of the outcomes.  A run that fails is told up to
the candidate at fault, of which nothing is heard any more.  Each event reaches all listeners in their order before the
next one does: so the log of the run has, between its own lines, what they write of it. -/
theorem events_tell_trace (s : Settings) (f : Facts) {registry : Registry} (hids : registry.ids.Nodup) :
    (∀ res, (resolve s f registry).result = .ok res → ∃ events activated skipped,
      Told registry res.trace Phase.all events ∧
      (resolve s f registry).events =
        .runStarted registry.candidates.length :: events ++ [.runCompleted activated skipped] ∧
      (∀ phase, (res.trace.filter fun e => e.phase = phase).length = (registry.inPhase phase).length) ∧
      (registry.inPhase .parseConfiguration).length + (registry.inPhase .registerBean).length =
        registry.candidates.length ∧
      activated = (res.trace.filter fun e => e.outcome = .activated).length ∧
      activated + skipped = registry.candidates.length ∧
      activated = res.activations.activated.length ∧ activated + skipped = res.activations.size ∧
      ∀ listeners : List Listener, (resolve s f registry).lines listeners =
        ⟨.info, "Resolving " ++ toString registry.candidates.length ++ " candidate(s) (" ++ toString s.exclude.length ++
            " excluded by configuration)"⟩ ::
          ((.runStarted registry.candidates.length :: events).flatMap fun e => listeners.flatMap fun l => l.hear e) ++
          ⟨.info, "Resolution completed: " ++ toString activated ++ " activated, " ++ toString skipped ++ " skipped"⟩ ::
          listeners.flatMap fun l => l.hear (.runCompleted activated skipped)) ∧
    (∀ fault, (resolve s f registry).result = .error fault →
      ∃ (ps : List Step) (c : Candidate) (post : List Candidate) (events : List Event),
        registry.processing = ps.map Prod.fst ++ c :: post ∧ Justified s f ps ∧
        c.examine s (f.after ps) c.phase = .error fault ∧
        Told registry (ps.map Prod.snd) c.phase.begun events ∧
        (resolve s f registry).events = .runStarted registry.candidates.length :: events ∧
        (∀ event ∈ (resolve s f registry).events,
          event.candidate? ≠ some c.id ∧ ∀ activated skipped, event ≠ .runCompleted activated skipped) ∧
        ∀ listeners : List Listener, (resolve s f registry).lines listeners =
          ⟨.info, "Resolving " ++ toString registry.candidates.length ++ " candidate(s) (" ++
              toString s.exclude.length ++ " excluded by configuration)"⟩ ::
            ((.runStarted registry.candidates.length :: events).flatMap fun e => listeners.flatMap fun l => l.hear e) ++
            [⟨.error, "Resolution aborted at candidate '" ++ c.id ++ "': " ++ fault.message⟩]) ∧
    ∀ listeners : List Listener,
      (Listener.deliveries listeners (resolve s f registry).events).length =
        (resolve s f registry).events.length * listeners.length ∧
      (∀ (i j : Nat) (e : Event) (l : Listener), (resolve s f registry).events[i]? = some e → listeners[j]? = some l →
        (Listener.deliveries listeners (resolve s f registry).events)[i * listeners.length + j]? = some (l, e)) ∧
      ((resolve s f registry).signals.filter fun x => x.event?.isSome).flatMap (Signal.lines listeners) =
        (Listener.deliveries listeners (resolve s f registry).events).flatMap fun d => d.1.hear d.2 := by
  refine ⟨fun res h => ?_, fun fault h => ?_, fun listeners => ?_⟩
  · obtain ⟨events, htold, hsignals⟩ := exists_told_of_ok h
    obtain ⟨hactivated, hsize⟩ := activations_of_ok hids h
    have hlength : res.trace.length = registry.candidates.length := by
      have := (resolve_candidates h).length_eq
      rwa [List.length_map, Registry.ids, List.length_map] at this
    -- the subtraction takes no more than there is
    have hle : res.activations.activated.length ≤ res.activations.size := by
      rw [hactivated, hsize]
      exact List.length_filter_le _ _
    have hphases : (registry.inPhase .parseConfiguration).length + (registry.inPhase .registerBean).length =
        registry.candidates.length := by
      rw [← List.length_append]
      exact registry.processing_perm.length_eq
    refine ⟨events, _, _, htold, Run.events_of_opening hsignals, length_filter_phase h, hphases, hactivated, ?_, rfl, ?_,
      fun listeners => ?_⟩
    · rw [Nat.add_sub_cancel' hle, hsize, hlength]
    · exact Nat.add_sub_cancel' hle
    · rw [Run.lines_of_opening hsignals, Resolution.lines_completion]
  · obtain ⟨ps, c, post, events, hsplit, hps, hc, htold, hsignals⟩ := exists_told_of_error h
    have hevents : (resolve s f registry).events = .runStarted registry.candidates.length :: events := by
      rw [Run.events_of_opening hsignals, Run.abortion]
      exact List.append_nil _
    refine ⟨ps, c, post, events, hsplit, hps, hc, htold, hevents, ?_, Run.lines_of_opening hsignals⟩
    have hnodup : (ps.map (·.1.id) ++ c.id :: post.map (·.id)).Nodup := by
      have := (registry.processing_perm.map fun c : Candidate => c.id).nodup_iff.2 hids
      rwa [hsplit, List.map_append, List.map_map, List.map_cons] at this
    have hother : ∀ e ∈ ps.map Prod.snd, e.candidate ≠ c.id := List.forall_mem_map.2 fun p hp => by
      rw [(hps.names hp).1]
      exact (List.nodup_append.1 hnodup).2.2 p.1.id (List.mem_map_of_mem hp) c.id List.mem_cons_self
    rw [hevents]
    exact List.forall_mem_cons.2 ⟨⟨nofun, nofun⟩, htold.silent hother⟩
  · exact ⟨Listener.length_deliveries _ _, fun i j e l hi hj => Listener.getElem?_deliveries hj hi,
      Run.lines_of_events listeners _⟩

/-- Without its exclusion the orphan stops the run: of it, and of the last one behind it, nothing is heard.  Of each event
the one listener writes the name before the other writes its text. -/
theorem events_tell_trace_of_orphan :
    let setup : Candidate := { id := "setup", phase := .parseConfiguration }
    let web : Candidate := { id := "web", conditions := [.webApplication] }
    let orphan : Candidate := { id := "orphan", conditions := [.beanAbsent {}] }
    let last : Candidate := { id := "last" }
    let registry : Registry := ⟨[web, orphan, setup, last]⟩
    let s : Settings := { exclude := ["orphan"] }
    let naming : Listener := { hear := fun e => [⟨.trace, e.name⟩] }
    let started : List Event := [.runStarted 4, .phaseStarted .parseConfiguration 1,
      .activated "setup" .parseConfiguration, .phaseStarted .registerBean 3,
      .skipped "web" .registerBean "OnWebApplication not a web application"]
    let more : List Event := [.skipped "orphan" .registerBean "excluded by 'autoconfigure.exclude'",
      .activated "last" .registerBean]
    registry.ids.Nodup ∧
    (∃ res, (resolve s {} registry).result = .ok res ∧
      (∃ events activated skipped, Told registry res.trace Phase.all events ∧ (resolve s {} registry).events =
        .runStarted 4 :: events ++ [.runCompleted activated skipped]) ∧
      (resolve s {} registry).events = started ++ more ++ [.runCompleted 2 2] ∧
      (resolve s {} registry).lines [naming, .logging] =
        ⟨.info, "Resolving 4 candidate(s) (1 excluded by configuration)"⟩ ::
          ((started ++ more).flatMap fun e => [⟨.trace, e.name⟩, ⟨Listener.levelOf e, e.text⟩]) ++
          [⟨.info, "Resolution completed: 2 activated, 2 skipped"⟩, ⟨.trace, "RunCompleted"⟩,
            ⟨.info, "resolution completed: 2 activated, 2 skipped"⟩]) ∧
    (resolve {} {} registry).result = .error (.unspecifiedSearch "orphan" "OnMissingBean") ∧
    (∃ c ∈ registry.candidates, (∀ event ∈ (resolve {} {} registry).events,
      event.candidate? ≠ some c.id ∧ ∀ activated skipped, event ≠ .runCompleted activated skipped) ∧
      (resolve {} {} registry).lines [naming, .logging] =
        ⟨.info, "Resolving 4 candidate(s) (0 excluded by configuration)"⟩ ::
          (started.flatMap fun e => [⟨.trace, e.name⟩, ⟨Listener.levelOf e, e.text⟩]) ++
          [⟨.error, "Resolution aborted at candidate '" ++ c.id ++ "': " ++
            (Fault.unspecifiedSearch "orphan" "OnMissingBean").message⟩]) ∧
    (resolve {} {} registry).events = started ∧
    (Listener.deliveries [naming, .logging] (resolve {} {} registry).events)[5]? =
      some (.logging, .activated "setup" .parseConfiguration) := by
  intro setup web orphan last registry s naming started more
  have hids : registry.ids.Nodup := by decide
  have hevents : (resolve s {} registry).events = started ++ more ++ [.runCompleted 2 2] := by decide +kernel
  have hevents' : (resolve {} {} registry).events = started := by decide +kernel
  have hfault : (resolve {} {} registry).result = .error (.unspecifiedSearch "orphan" "OnMissingBean") :=
    fault?_eq_some_iff.1 (by decide +kernel)
  have hrun : (resolve s {} registry).result.map (fun _ => ()) = .ok () := by decide +kernel
  obtain ⟨res, hres, -⟩ := map_eq_ok_iff.1 hrun
  obtain ⟨hok, -, -⟩ := events_tell_trace s {} hids
  obtain ⟨-, herror, hheard⟩ := events_tell_trace {} {} hids
  obtain ⟨events, activated, skipped, htold, htells, -, -, -, -, -, -, hlines⟩ := hok res hres
  obtain ⟨ps, c, post, events', hsplit, -, -, -, htells', hsilent, hlines'⟩ := herror _ hfault
  have hc : c ∈ registry.candidates :=
    registry.processing_perm.mem_iff.1 (hsplit ▸ List.mem_append_right _ List.mem_cons_self)
  obtain ⟨hbefore, hend⟩ := List.append_inj' (htells.symm.trans hevents) rfl
  obtain ⟨rfl, rfl⟩ := Event.runCompleted.inj (List.singleton_inj.1 hend)
  refine ⟨hids, ⟨res, hres, ⟨events, _, _, htold, htells⟩, hevents, ?_⟩, hfault, ⟨c, hc, hsilent, ?_⟩, hevents', ?_⟩
  · have hstarted : Event.runStarted registry.candidates.length :: events = started ++ more := hbefore
    rw [hlines, hstarted]
    decide +kernel
  · rw [hlines', ← htells', hevents']
    exact congrArg (· ++ _) (by decide +kernel)
  · exact (hheard [naming, .logging]).2.1 2 1 _ _ (by rw [hevents']; rfl) rfl

end Wiring
