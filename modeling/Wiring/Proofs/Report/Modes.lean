import Wiring.Report
/-!
# Modes — a summary beside a debug report

Both have the same sections with the same candidates.  A debug report is a summary with the lines of the conditions that
matched put in (`Sections.merged_lines`).
-/
namespace Wiring
namespace Report

/-- Two lists put together, the elements of each in their order. -/
inductive Merged {α : Type} : List α → List α → List α → Prop
  | nil : Merged [] [] []
  | left (x : α) {xs ys zs : List α} : Merged xs ys zs → Merged (x :: xs) ys (x :: zs)
  | right (y : α) {xs ys zs : List α} : Merged xs ys zs → Merged xs (y :: ys) (y :: zs)

namespace Merged

variable {α β : Type} {xs ys zs : List α}

theorem refl : ∀ xs : List α, Merged xs [] xs
  | [] => .nil
  | x :: xs => .left x (refl xs)

theorem all_right : ∀ ys : List α, Merged [] ys ys
  | [] => .nil
  | y :: ys => .right y (all_right ys)

theorem append {xs' ys' zs' : List α} (h : Merged xs ys zs) (h' : Merged xs' ys' zs') :
    Merged (xs ++ xs') (ys ++ ys') (zs ++ zs') := by
  induction h with
  | nil => exact h'
  | left x _ ih => exact .left x ih
  | right y _ ih => exact .right y ih

theorem length_eq (h : Merged xs ys zs) : xs.length + ys.length = zs.length := by
  induction h with
  | nil => rfl
  | left x _ ih => rw [List.length_cons, List.length_cons, ← ih, Nat.add_right_comm]
  | right y _ ih => rw [List.length_cons, List.length_cons, ← ih, Nat.add_assoc]

theorem flatMap {f g k : β → List α} : ∀ {bs : List β}, (∀ b ∈ bs, Merged (f b) (g b) (k b)) →
    Merged (bs.flatMap f) (bs.flatMap g) (bs.flatMap k)
  | [], _ => .nil
  | b :: bs, h => by
    obtain ⟨hb, hbs⟩ := List.forall_mem_cons.1 h
    exact hb.append (flatMap hbs)

theorem filter {p : β → Bool} {f g : β → α} (hfg : ∀ b, p b = true → g b = f b) : ∀ bs : List β,
    Merged ((bs.filter fun b => !p b).map f) ((bs.filter p).map g) (bs.map f)
  | [] => .nil
  | b :: bs => by
    by_cases hb : p b = true
    · simpa [hb, hfg b hb] using Merged.right (f b) (filter hfg bs)
    · simpa [hb] using Merged.left (f b) (filter hfg bs)

theorem titled {xs ys zs : List String} (title : String) (h : Merged xs ys zs) :
    Merged (titled title xs) ys (titled title zs) := (refl _).append h

theorem orNone {xs ys zs : List String} (h : Merged xs ys zs) (hnil : xs = [] ↔ zs = []) :
    Merged (orNone xs) ys (orNone zs) := by
  by_cases hz : zs = []
  · subst hz
    obtain rfl := hnil.2 rfl
    cases h
    exact refl _
  · have hx : xs ≠ [] := fun hx => hz (hnil.1 hx)
    simpa [Report.orNone, hx, hz] using h

end Merged

/-! ### The lines of conditions that matched -/

def positiveMatched (e : Entry) : List String :=
  (e.findings.filter (·.matched)).map fun x => "      - " ++ x.kind.text ++ " " ++ x.message

def negativeMatched (e : Entry) : List String :=
  (e.findings.filter (·.matched)).map fun x => "         - " ++ "Matched" ++ ": " ++ x.message

/-- The lines of all conditions that matched, as a debug report has them. -/
def Sections.matchedLines (s : Sections) : List String :=
  s.positive.flatMap positiveMatched ++ s.negative.flatMap fun g => g.2.flatMap negativeMatched

theorem merged_positiveLines {e : Entry} (h : ∀ x ∈ e.findings, x.matched = true) :
    Merged (positiveLines .summary e) (positiveMatched e) (positiveLines .debug e) := by
  unfold positiveMatched
  rw [List.filter_eq_self.2 h]
  exact .left _ (.all_right _)

theorem merged_negativeLines (e : Entry) :
    Merged (negativeLines .summary e) (negativeMatched e) (negativeLines .debug e) := by
  unfold negativeLines negativeMatched
  have hall : (e.findings.filter fun x => Mode.debug == .debug || !x.matched) = e.findings :=
    List.filter_eq_self.2 fun _ _ => rfl
  rw [hall]
  exact .left _ (.filter (fun x hx => by simp [hx]) e.findings)

/-- **A debug report is a summary with the lines of conditions that matched put in.** -/
theorem Sections.merged_lines {s : Sections} (h : ∀ e ∈ s.positive, ∀ x ∈ e.findings, x.matched = true) :
    Merged (s.lines .summary) s.matchedLines (s.lines .debug) := by
  have hpositive := Merged.flatMap fun e he => merged_positiveLines (h e he)
  have hnegative := Merged.flatMap fun (g : ConditionKind × List Entry) (_ : g ∈ s.negative) =>
    (Merged.flatMap fun (e : Entry) (_ : e ∈ g.2) => merged_negativeLines e).left ("   " ++ g.1.text ++ ":")
  have hsections := ((hpositive.orNone (by simp [positiveLines])).titled "Positive matches").append
    ((hnegative.orNone (by simp)).titled "Negative matches")
  -- The other two sections and what is above them are the same in both modes.
  have hhead := Merged.refl ["", rule '=' header.length, header, rule '=' header.length, ""]
  have hexclusions := Merged.refl (titled "Exclusions" (orNone (nameLines s.exclusions)))
  have hunconditional := Merged.refl (titled "Unconditional candidates" (orNone (nameLines s.unconditional)))
  have hlines := ((hhead.append hsections).append hexclusions).append hunconditional
  rw [List.nil_append, List.append_nil, List.append_nil, ← List.append_assoc, ← List.append_assoc] at hlines
  exact hlines

end Report
end Wiring
