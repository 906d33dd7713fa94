import Wiring.Proofs.Report.Modes
import Wiring.Proofs.Report.Sections
import Wiring.Proofs.Run.Defects
/-!
# Account — what the report of a successful run tells

Each entry of the trace is in one section: that of excluded candidates, of those without conditions, of those whose
conditions matched, or in the group of the condition that the reason names (`Entry.AccountsFor.groupOf?_eq_some_iff`).
The sections are printed one after the other, entry by entry (`Sections.lines_eq`).
-/
namespace Wiring

open Report (Merged Sections groupOf? lines)

/-- Of the conditions this is the first that does not match, and this is what it says. -/
def StoppedBy (f : Facts) (c : Component) (phase : Phase) (conditions : List Condition) (condition : Condition)
    (message : String) : Prop :=
  ∃ earlier later, conditions = earlier ++ condition :: later ∧ AllMatch f c phase earlier ∧
    condition.judge f c phase = .ok ⟨false, message⟩

section

variable {f : Facts} {c : Component} {phase : Phase}

namespace StoppedBy

variable {first condition : Condition} {conditions : List Condition} {message : String}

theorem ne_nil (h : StoppedBy f c phase conditions condition message) : conditions ≠ [] := by
  obtain ⟨earlier, later, hsplit, -, -⟩ := h
  simp [hsplit]

theorem cons_of_matched {v : Verdict} (hv : first.judge f c phase = .ok v) (hm : v.matched = true) :
    StoppedBy f c phase (first :: conditions) condition message ↔ StoppedBy f c phase conditions condition message := by
  constructor
  · rintro ⟨_ | ⟨head, earlier⟩, later, heq, hall, hjudge⟩
    · obtain ⟨rfl, -⟩ := List.cons.inj heq
      rw [hv] at hjudge
      rw [Except.ok.inj hjudge] at hm
      cases hm
    · obtain ⟨rfl, rfl⟩ := List.cons.inj heq
      exact ⟨earlier, later, rfl, (AllMatch.cons_iff.1 hall).2, hjudge⟩
  · rintro ⟨earlier, later, rfl, hall, hjudge⟩
    exact ⟨first :: earlier, later, rfl, AllMatch.cons_iff.2 ⟨⟨v, hv, hm⟩, hall⟩, hjudge⟩

theorem cons_of_stopped {message' : String} (hfirst : first.judge f c phase = .ok ⟨false, message'⟩) :
    StoppedBy f c phase (first :: conditions) condition message ↔ condition = first ∧ message = message' := by
  constructor
  · rintro ⟨_ | ⟨head, earlier⟩, later, heq, hall, hjudge⟩
    · obtain ⟨rfl, -⟩ := List.cons.inj heq
      rw [hfirst] at hjudge
      exact ⟨rfl, (Verdict.mk.inj (Except.ok.inj hjudge)).2.symm⟩
    · obtain ⟨rfl, rfl⟩ := List.cons.inj heq
      obtain ⟨v, hv, hm⟩ := (AllMatch.cons_iff.1 hall).1
      rw [hfirst] at hv
      rw [← Except.ok.inj hv] at hm
      cases hm
  · rintro ⟨rfl, rfl⟩
    exact ⟨[], conditions, rfl, .nil, hfirst⟩

end StoppedBy

namespace Judged

theorem eq_nil_iff {conditions : List Condition} {fs : List Finding} (h : Judged f c phase conditions fs) :
    fs = [] ↔ conditions = [] := by
  cases conditions with
  | nil => simp [nil_iff.1 h]
  | cons condition conditions =>
    obtain ⟨v, -, ⟨-, more, rfl, -⟩ | ⟨-, rfl⟩⟩ := cons_iff.1 h <;> simp

/-- The first finding that does not match is on the first condition that does not. -/
theorem find?_eq_some_iff {x : Finding} : ∀ {conditions : List Condition} {fs : List Finding},
    Judged f c phase conditions fs → ((fs.find? fun y => !y.matched) = some x ↔ ∃ condition message,
      StoppedBy f c phase conditions condition message ∧ x = Candidate.finding condition ⟨false, message⟩)
  | [], fs, h => by simp [nil_iff.1 h, StoppedBy]
  | first :: conditions, fs, h => by
    obtain ⟨⟨matched, message⟩, hv, ⟨rfl, more, rfl, hmore⟩ | ⟨rfl, rfl⟩⟩ := cons_iff.1 h
    · rw [List.find?_cons_of_neg (by simp [Candidate.finding]), find?_eq_some_iff hmore]
      simp only [StoppedBy.cons_of_matched hv rfl]
    · rw [List.find?_cons_of_pos (by simp [Candidate.finding])]
      simp [StoppedBy.cons_of_stopped hv, eq_comm]

end Judged

end

/-! ### The entry of a candidate -/

namespace Entry.AccountsFor

variable {s : Settings} {f : Facts} {c : Candidate} {e : Entry}

theorem excluded_eq_false_iff (h : e.AccountsFor s f c) : e.excluded = false ↔ c.id ∉ s.exclude := by
  rw [← Bool.not_eq_true, h.excluded]

theorem isUnconditional_iff (h : e.AccountsFor s f c) :
    e.isUnconditional = true ↔ c.id ∉ s.exclude ∧ c.conditions = [] := by
  unfold Entry.isUnconditional
  rw [Bool.and_eq_true, Bool.not_eq_true', h.excluded_eq_false_iff, List.isEmpty_iff]
  exact and_congr_right fun hc => (h.judged hc).eq_nil_iff

theorem failing?_eq_some_iff (h : e.AccountsFor s f c) (hc : c.id ∉ s.exclude) {x : Finding} :
    e.failing? = some x ↔ ∃ condition message, StoppedBy f c.toComponent c.phase c.conditions condition message ∧
      x = Candidate.finding condition ⟨false, message⟩ := by
  unfold Entry.failing?
  exact (h.judged hc).find?_eq_some_iff

theorem outcome_of_failing (h : e.AccountsFor s f c) (hc : c.id ∉ s.exclude) :
    e.outcome = e.failing?.elim .activated fun x => .skipped (x.kind.text ++ " " ++ x.message) := by
  rw [← Candidate.outcomeOf_eq_of_accounts h hc]
  unfold Candidate.outcomeOf Entry.failing?
  cases e.findings.find? fun x => !x.matched <;> rfl

theorem belongs (h : e.AccountsFor s f c) : Sections.Belongs e := by
  by_cases hc : c.id ∈ s.exclude
  · exact .inl (h.excluded.2 hc)
  · have houtcome := h.outcome_of_failing hc
    cases hx : e.failing? with
    | none =>
      rw [hx] at houtcome
      exact .inr (.inr (.inl (by rw [houtcome]; rfl)))
    | some x => exact .inr (.inr (.inr (by simp [hx])))

theorem groupOf?_eq_some_iff (h : e.AccountsFor s f c) {k : ConditionKind} : groupOf? e = some k ↔
    c.id ∉ s.exclude ∧ ∃ condition message, StoppedBy f c.toComponent c.phase c.conditions condition message ∧
      condition.kind = k ∧ e.outcome = .skipped (condition.kind.text ++ " " ++ message) := by
  by_cases hc : c.id ∈ s.exclude
  · simp [groupOf?, h.excluded.2 hc, hc]
  have houtcome := h.outcome_of_failing hc
  have hexcluded := h.excluded_eq_false_iff.2 hc
  cases hx : e.failing? with
  | none =>
    rw [hx] at houtcome
    simp [groupOf?, houtcome, hx]
  | some x =>
    obtain ⟨condition, message, hstopped, rfl⟩ := (h.failing?_eq_some_iff hc).1 hx
    rw [hx] at houtcome
    have hjudged : e.isUnconditional = false := by
      rw [← Bool.not_eq_true, h.isUnconditional_iff]
      exact fun hnil => hstopped.ne_nil hnil.2
    have hgroup : groupOf? e = some condition.kind := by
      simp [groupOf?, hexcluded, hjudged, houtcome, Outcome.isActivated, hx, Candidate.finding]
    rw [hgroup, Option.some.injEq]
    constructor
    · rintro rfl
      exact ⟨hc, condition, message, hstopped, rfl, houtcome⟩
    · rintro ⟨-, condition', message', hstopped', rfl, -⟩
      have hx' := (h.failing?_eq_some_iff hc).2 ⟨condition', message', hstopped', rfl⟩
      rw [hx] at hx'
      exact congrArg Finding.kind (Option.some.inj hx')

theorem isActivated_iff (h : e.AccountsFor s f c) :
    (!e.excluded && !e.isUnconditional && e.outcome.isActivated) = true ↔
      e.outcome = .activated ∧ c.conditions ≠ [] := by
  have houtcome : e.outcome.isActivated = true ↔ e.outcome = .activated := by
    cases e.outcome <;> simp [Outcome.isActivated]
  rw [Bool.and_eq_true, Bool.and_eq_true, houtcome, Bool.not_eq_true', Bool.not_eq_true', ← Bool.not_eq_true,
    ← Bool.not_eq_true, h.excluded, h.isUnconditional_iff]
  constructor
  · rintro ⟨⟨hc, hconditions⟩, ho⟩
    exact ⟨ho, fun hnil => hconditions ⟨hc, hnil⟩⟩
  · rintro ⟨ho, hconditions⟩
    refine ⟨⟨fun hc => ?_, fun hnil => hconditions hnil.2⟩, ho⟩
    have hskipped := (h.leftOut hc).2
    rw [ho] at hskipped
    cases hskipped

theorem exists_group_iff (h : e.AccountsFor s f c) :
    (∃ k, groupOf? e = some k) ↔ c.id ∉ s.exclude ∧ ∃ reason, e.outcome = .skipped reason := by
  constructor
  · rintro ⟨k, hk⟩
    obtain ⟨hc, condition, message, -, -, houtcome⟩ := h.groupOf?_eq_some_iff.1 hk
    exact ⟨hc, _, houtcome⟩
  · rintro ⟨hc, reason, hreason⟩
    have houtcome := h.outcome_of_failing hc
    cases hx : e.failing? with
    | none =>
      rw [hx, hreason] at houtcome
      cases houtcome
    | some x =>
      obtain ⟨condition, message, hstopped, rfl⟩ := (h.failing?_eq_some_iff hc).1 hx
      rw [hx] at houtcome
      exact ⟨_, h.groupOf?_eq_some_iff.2 ⟨hc, condition, message, hstopped, rfl, houtcome⟩⟩

theorem matched_findings (h : e.AccountsFor s f c) (ho : e.outcome = .activated) :
    ∀ x ∈ e.findings, x.matched = true := by
  by_cases hc : c.id ∈ s.exclude
  · rw [(h.leftOut hc).1]
    simp
  · exact (h.judged hc).matched_iff.2 ((h.activated hc).1 ho)

end Entry.AccountsFor

/-! ### What is printed -/

namespace Report

theorem orNone_flatMap {α : Type} {printed spelled : α → List String} (hspelled : ∀ x, printed x = spelled x)
    (hne : ∀ x, printed x ≠ []) (xs : List α) [Decidable (xs = [])] :
    orNone (xs.flatMap printed) = if xs = [] then ["   None"] else xs.flatMap spelled := by
  obtain rfl : printed = spelled := funext hspelled
  cases xs with
  | nil => simp [orNone]
  | cons x xs => simp [orNone, hne x]

theorem orNone_nameLines (es : List Entry) :
    orNone (nameLines es) = if es = [] then ["   None"] else es.map fun e => "   " ++ e.candidate := by
  cases es <;> rfl

theorem positiveLines_eq (mode : Mode) (e : Entry) : positiveLines mode e =
    ("   " ++ e.candidate ++ " (" ++ e.phase.text ++ ") matched") ::
      if mode = .debug then e.findings.map fun x => "      - " ++ x.kind.text ++ " " ++ x.message else [] := by
  cases mode <;> rfl

theorem negativeLines_eq (mode : Mode) (e : Entry) : negativeLines mode e =
    ("      " ++ e.candidate ++ " (" ++ e.phase.text ++ "):") ::
      (e.findings.filter fun x => mode = .debug ∨ x.matched = false).map fun x =>
        "         - " ++ (if x.matched then "Matched" else "Did not match") ++ ": " ++ x.message := by
  have hkept : ∀ x : Finding, (mode == .debug || !x.matched) = decide (mode = .debug ∨ x.matched = false) := fun x => by
    cases mode <;> cases x.matched <;> rfl
  simp only [negativeLines, hkept]

/-- A report line by line. -/
theorem Sections.lines_eq (mode : Mode) (s : Sections) : s.lines mode =
    ["", "===========================", "CONDITION EVALUATION REPORT", "===========================", ""]
    ++ ["", "Positive matches:", "-----------------", ""]
    ++ (if s.positive = [] then ["   None"] else s.positive.flatMap fun e =>
      ("   " ++ e.candidate ++ " (" ++ e.phase.text ++ ") matched") ::
        if mode = .debug then e.findings.map fun x => "      - " ++ x.kind.text ++ " " ++ x.message else [])
    ++ ["", "Negative matches:", "-----------------", ""]
    ++ (if s.negative = [] then ["   None"] else s.negative.flatMap fun g => ("   " ++ g.1.text ++ ":") ::
      g.2.flatMap fun e => ("      " ++ e.candidate ++ " (" ++ e.phase.text ++ "):") ::
        (e.findings.filter fun x => mode = .debug ∨ x.matched = false).map fun x =>
          "         - " ++ (if x.matched then "Matched" else "Did not match") ++ ": " ++ x.message)
    ++ ["", "Exclusions:", "-----------", ""]
    ++ (if s.exclusions = [] then ["   None"] else s.exclusions.map fun e => "   " ++ e.candidate)
    ++ ["", "Unconditional candidates:", "-------------------------", ""]
    ++ (if s.unconditional = [] then ["   None"] else s.unconditional.map fun e => "   " ++ e.candidate) := by
  have hgroup : ∀ g, groupLines mode g = ("   " ++ g.1.text ++ ":") :: g.2.flatMap fun e =>
      ("      " ++ e.candidate ++ " (" ++ e.phase.text ++ "):") ::
        (e.findings.filter fun x => mode = .debug ∨ x.matched = false).map fun x =>
          "         - " ++ (if x.matched then "Matched" else "Did not match") ++ ": " ++ x.message := fun g => by
    simp only [groupLines, ← negativeLines_eq]
  have hheader : ["", rule '=' header.length, header, rule '=' header.length, ""] =
      ["", "===========================", "CONDITION EVALUATION REPORT", "===========================", ""] := by
    decide +kernel
  have hpositive : ∀ ls, titled "Positive matches" ls = ["", "Positive matches:", "-----------------", ""] ++ ls :=
    fun ls => congrArg (· ++ ls) (by decide +kernel)
  have hnegative : ∀ ls, titled "Negative matches" ls = ["", "Negative matches:", "-----------------", ""] ++ ls :=
    fun ls => congrArg (· ++ ls) (by decide +kernel)
  have hexclusions : ∀ ls, titled "Exclusions" ls = ["", "Exclusions:", "-----------", ""] ++ ls :=
    fun ls => congrArg (· ++ ls) (by decide +kernel)
  have hunconditional : ∀ ls, titled "Unconditional candidates" ls =
      ["", "Unconditional candidates:", "-------------------------", ""] ++ ls :=
    fun ls => congrArg (· ++ ls) (by decide +kernel)
  unfold Sections.lines
  rw [orNone_flatMap (positiveLines_eq mode) (by simp [positiveLines]), orNone_flatMap hgroup (by simp [groupLines]),
    orNone_nameLines, orNone_nameLines, hheader, hpositive, hnegative, hexclusions, hunconditional]
  simp only [List.append_assoc]

end Report

variable {s : Settings} {f : Facts} {registry : Registry} {res : Resolution}

/-- **The report of a successful run accounts for every candidate.**  The sections that it prints have all of the trace,
each entry in one of them: what was excluded, what has no conditions, what was activated with conditions, and what a
condition kept out, under the kind of that condition, which the reason names.  In each section and group the entries
stand in the order of the run, and the groups in that of their kinds; a debug report is a summary with the lines of
conditions that matched put in.  An entry is printed in its section and nowhere else, by its id, by a line that it
matched, or by a line and those of its conditions. -/
theorem report_accounts_for_every_candidate (h : (resolve s f registry).result = .ok res) :
    ∃ S : Sections,
      (∀ mode, Report.text mode res.trace = String.join ((lines mode res.trace).map (· ++ "\n")) ∧
        lines mode res.trace =
          ["", "===========================", "CONDITION EVALUATION REPORT", "===========================", ""]
          ++ ["", "Positive matches:", "-----------------", ""]
          ++ (if S.positive = [] then ["   None"] else S.positive.flatMap fun e =>
            ("   " ++ e.candidate ++ " (" ++ e.phase.text ++ ") matched") ::
              if mode = .debug then e.findings.map fun x => "      - " ++ x.kind.text ++ " " ++ x.message else [])
          ++ ["", "Negative matches:", "-----------------", ""]
          ++ (if S.negative = [] then ["   None"] else S.negative.flatMap fun g => ("   " ++ g.1.text ++ ":") ::
            g.2.flatMap fun e => ("      " ++ e.candidate ++ " (" ++ e.phase.text ++ "):") ::
              (e.findings.filter fun x => mode = .debug ∨ x.matched = false).map fun x =>
                "         - " ++ (if x.matched then "Matched" else "Did not match") ++ ": " ++ x.message)
          ++ ["", "Exclusions:", "-----------", ""]
          ++ (if S.exclusions = [] then ["   None"] else S.exclusions.map fun e => "   " ++ e.candidate)
          ++ ["", "Unconditional candidates:", "-------------------------", ""]
          ++ (if S.unconditional = [] then ["   None"] else S.unconditional.map fun e => "   " ++ e.candidate)) ∧
      res.trace.map (·.candidate) = registry.processing.map (·.id) ∧
      (S.exclusions ++ S.unconditional ++ S.positive ++ S.negative.flatMap (·.2)).Perm res.trace ∧
      S.exclusions.length + S.unconditional.length + S.positive.length + (S.negative.flatMap (·.2)).length =
        res.trace.length ∧
      (∀ (i : Nat) (c : Candidate) (e : Entry), registry.processing[i]? = some c → res.trace[i]? = some e →
        (e ∈ S.exclusions ↔ c.id ∈ s.exclude) ∧
        (e ∈ S.unconditional ↔ c.id ∉ s.exclude ∧ c.conditions = []) ∧
        (e ∈ S.positive ↔ e.outcome = .activated ∧ c.conditions ≠ []) ∧
        ((∃ g ∈ S.negative, e ∈ g.2) ↔ c.id ∉ s.exclude ∧ ∃ reason, e.outcome = .skipped reason) ∧
        ∀ k, (∃ es, (k, es) ∈ S.negative ∧ e ∈ es) ↔ c.id ∉ s.exclude ∧ ∃ condition message,
          StoppedBy (f.after ((registry.processing.zip res.trace).take i)) c.toComponent c.phase c.conditions condition
            message ∧ condition.kind = k ∧ e.outcome = .skipped (condition.kind.text ++ " " ++ message)) ∧
      (S.exclusions.Sublist res.trace ∧ S.unconditional.Sublist res.trace ∧ S.positive.Sublist res.trace ∧
        ∀ g ∈ S.negative, g.2 ≠ [] ∧ g.2.Sublist res.trace) ∧
      S.negative.Pairwise (fun g g' => g.1.precedes g'.1 = true) ∧
      Merged (lines .summary res.trace)
        ((S.positive.flatMap fun e => (e.findings.filter (·.matched)).map fun x =>
            "      - " ++ x.kind.text ++ " " ++ x.message) ++
          S.negative.flatMap fun g => g.2.flatMap fun e => (e.findings.filter (·.matched)).map fun x =>
            "         - Matched: " ++ x.message)
        (lines .debug res.trace) := by
  have hsorted := Sections.ofTrace_sorted res.trace
  have hbelongs : ∀ e ∈ res.trace, Sections.Belongs e := by
    intro e he
    obtain ⟨g, c, haccounts⟩ := resolve_exists_candidate h he
    exact haccounts.belongs
  have hperm := Sections.ofTrace_entries_perm hbelongs
  refine ⟨Sections.ofTrace res.trace, fun mode => ⟨rfl, Sections.lines_eq mode _⟩, resolve_trace_ids h, ?_, ?_,
    fun i c e hc he => ?_, ?_,
    hsorted.negative.ordered, Sections.merged_lines fun e he => ?_⟩
  · simpa [Sections.entries] using hperm
  · have hlength := hperm.length_eq
    simp only [Sections.entries, List.length_append] at hlength
    omega
  · have haccounts := resolve_entry h hc he
    have hmem := List.mem_of_getElem? he
    refine ⟨?_, ?_, ?_, ?_, fun k => ?_⟩
    · rw [hsorted.exclusions, List.mem_filter, and_iff_right hmem, haccounts.excluded]
    · rw [hsorted.unconditional, List.mem_filter, and_iff_right hmem, Bool.and_eq_true, haccounts.isUnconditional_iff,
        Bool.not_eq_true', haccounts.excluded_eq_false_iff]
      tauto
    · rw [hsorted.positive, List.mem_filter, and_iff_right hmem, haccounts.isActivated_iff]
    · rw [← haccounts.exists_group_iff, Prod.exists]
      simp only [hsorted.negative.exists_mem_iff, hmem, true_and]
    · rw [hsorted.negative.exists_mem_iff, and_iff_right hmem, haccounts.groupOf?_eq_some_iff]
  · rw [hsorted.exclusions, hsorted.unconditional, hsorted.positive]
    exact ⟨List.filter_sublist, List.filter_sublist, List.filter_sublist, fun g hg =>
      ⟨hsorted.negative.nonempty g hg, hsorted.negative.sublist hg⟩⟩
  · rw [hsorted.positive, List.mem_filter] at he
    obtain ⟨g, c, haccounts⟩ := resolve_exists_candidate h he.1
    exact haccounts.matched_findings (haccounts.isActivated_iff.1 he.2).1

/-- Two candidates are kept out by conditions of one kind, the second behind a condition that matched, and one by a
condition of another kind; each of the other three is in a section of its own. -/
theorem report_accounts_for_every_candidate_of_six :
    let s : Settings := { exclude := ["extra"] }
    let registry : Registry := ⟨[{ id := "pool" }, { id := "tool", conditions := [.notWebApplication] },
      { id := "jms", conditions := [.classPresent "Jms"] }, { id := "web", conditions := [.webApplication] },
      { id := "ldap", conditions := [.notWebApplication, .classPresent "Ldap"] }, { id := "extra" }]⟩
    let pool : Entry := ⟨"pool", .registerBean, [], .activated, false⟩
    let tool : Entry :=
      ⟨"tool", .registerBean, [⟨.onNotWebApplication, "", true, "not a web application"⟩], .activated, false⟩
    let ldap : Entry := ⟨"ldap", .registerBean, [⟨.onNotWebApplication, "", true, "not a web application"⟩,
      ⟨.onClass, "Ldap", false, "required class 'Ldap' not found"⟩],
      .skipped "OnClass required class 'Ldap' not found", false⟩
    let extra : Entry := ⟨"extra", .registerBean, [], .skipped "excluded by 'autoconfigure.exclude'", true⟩
    ∃ res, (resolve s {} registry).result = .ok res ∧ (∃ S : Sections,
      S.exclusions.length + S.unconditional.length + S.positive.length + (S.negative.flatMap (·.2)).length = 6 ∧
      pool ∈ S.unconditional ∧ tool ∈ S.positive ∧ (∃ g ∈ S.negative, ldap ∈ g.2) ∧ extra ∈ S.exclusions) ∧
      "   pool" ∈ lines .summary res.trace ∧ "   tool (REGISTER_BEAN) matched" ∈ lines .summary res.trace ∧
      "      ldap (REGISTER_BEAN):" ∈ lines .summary res.trace ∧
      "         - Did not match: required class 'Ldap' not found" ∈ lines .summary res.trace ∧
      "         - Matched: not a web application" ∈ lines .debug res.trace ∧
      "   extra" ∈ lines .summary res.trace := by
  intro s registry pool tool ldap extra
  let jms : Entry := ⟨"jms", .registerBean, [⟨.onClass, "Jms", false, "required class 'Jms' not found"⟩],
    .skipped "OnClass required class 'Jms' not found", false⟩
  let web : Entry := ⟨"web", .registerBean, [⟨.onWebApplication, "", false, "not a web application"⟩],
    .skipped "OnWebApplication not a web application", false⟩
  have hrun : (resolve s {} registry).result.map (·.trace) = .ok [pool, tool, jms, web, ldap, extra] := by
    decide +kernel
  obtain ⟨res, h, htrace⟩ := map_eq_ok_iff.1 hrun
  obtain ⟨S, hprinted, -, -, hlength, hsections, -⟩ := report_accounts_for_every_candidate h
  rw [htrace] at hlength hsections
  have hpool : pool ∈ S.unconditional := (hsections 0 _ pool rfl rfl).2.1.2 ⟨by decide, rfl⟩
  have htool : tool ∈ S.positive := (hsections 1 _ tool rfl rfl).2.2.1.2 ⟨rfl, by simp⟩
  obtain ⟨g, hg, hldap⟩ := (hsections 4 _ ldap rfl rfl).2.2.2.1.2 ⟨by decide, _, rfl⟩
  have hextra : extra ∈ S.exclusions := (hsections 5 _ extra rfl rfl).1.2 (by decide)
  have hldapLines : ∀ mode, ∀ line ∈ "      ldap (REGISTER_BEAN):" ::
      (ldap.findings.filter fun x => mode = .debug ∨ x.matched = false).map (fun x =>
        "         - " ++ (if x.matched then "Matched" else "Did not match") ++ ": " ++ x.message),
      line ∈ lines mode res.trace := by
    intro mode line hline
    rw [(hprinted mode).2, if_neg (List.ne_nil_of_mem hg)]
    simp only [List.mem_append]
    exact .inl (.inl (.inl (.inl (.inr (List.mem_flatMap.2 ⟨g, hg, List.mem_cons_of_mem _
      (List.mem_flatMap.2 ⟨ldap, hldap, hline⟩)⟩)))))
  refine ⟨res, h, ⟨S, hlength, hpool, htool, ⟨g, hg, hldap⟩, hextra⟩, ?_, ?_, hldapLines _ _ (by decide +kernel),
    hldapLines _ _ (by decide +kernel), hldapLines _ _ (by decide +kernel), ?_⟩
  · rw [(hprinted _).2, if_neg (List.ne_nil_of_mem hpool)]
    exact List.mem_append_right _ (List.mem_map_of_mem hpool)
  · rw [(hprinted _).2, if_neg (List.ne_nil_of_mem htool)]
    simp only [List.mem_append]
    exact .inl (.inl (.inl (.inl (.inl (.inl (.inr (List.mem_flatMap.2 ⟨tool, htool, List.mem_cons_self⟩)))))))
  · rw [(hprinted _).2, if_neg (List.ne_nil_of_mem hextra)]
    simp only [List.mem_append]
    exact .inl (.inl (.inr (List.mem_map_of_mem hextra)))

end Wiring
