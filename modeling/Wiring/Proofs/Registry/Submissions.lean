import Wiring.Proofs.Hints.Settled
import Wiring.Proofs.Ranking
import Wiring.Proofs.Registry.Listing
/-!
# Submissions — candidates that are handed in, in whatever order they are collected

Submissions are sorted stably by their places before anything else is done, so that only the order of those of one place
can matter (`inOrder_of_recollected`).  Then they are registered in that order, and their hints are applied
(`ofSubmissions_eq`).
-/
namespace Wiring

namespace Submission

/-- Which of two submissions is taken first, of a collection in its order: the one of lower place, and of one place the
one collected first. -/
def First (collected : List Submission) (a b : Submission) : Prop :=
  (a.order < b.order ∧ a ∈ collected ∧ b ∈ collected) ∨ (a.order = b.order ∧ Before collected a b)

/-- The same submissions collected in another order, those of one place in the same. -/
structure Recollected (collected other : List Submission) : Prop where
  perm : other.Perm collected
  equals : ∀ place, (other.filter fun s => s.order = place) = collected.filter fun s => s.order = place

/-- The submissions in the order in which they are taken. -/
def inOrder (collected : List Submission) : List Submission :=
  Ranking.sorted (fun a b => decide (a.order < b.order)) collected

theorem before_iff (a b : Submission) : decide (a.order < b.order) = true ↔ a.order < b.order := decide_eq_true_iff

variable {xs ys : List Submission}

/-- **Only the order of those of one place matters.** -/
theorem inOrder_of_recollected (h : Recollected xs ys) : inOrder ys = inOrder xs :=
  Ranking.eq_of_filter_eq (Ranking.sorted_ranked before_iff ys) (Ranking.sorted_ranked before_iff xs) fun place => by
    rw [inOrder, inOrder, Ranking.filter_sorted before_iff, Ranking.filter_sorted before_iff, h.equals]

theorem recollected_inOrder (xs : List Submission) : Recollected xs (inOrder xs) where
  perm := by
    rw [inOrder, Ranking.sorted_eq_mergeSort before_iff]
    exact List.mergeSort_perm _ _
  equals := Ranking.filter_sorted before_iff xs

/-- Where no two have one place, every order of collection will do. -/
theorem recollected_of_nodup (hplaces : (xs.map (·.order)).Nodup) (h : ys.Perm xs) : Recollected xs ys where
  perm := h
  equals := fun place => by
    have hperm := h.filter fun s => decide (s.order = place)
    have hone := (List.filter_sublist (p := fun s => decide (s.order = place)) (l := xs)).map (·.order) |>.nodup hplaces
    have hplace : ∀ s ∈ xs.filter fun s => decide (s.order = place), s.order = place :=
      fun s hs => of_decide_eq_true (List.mem_filter.1 hs).2
    generalize (xs.filter fun s => decide (s.order = place)) = those at hperm hone hplace ⊢
    match those with
    | [] => exact List.perm_nil.1 hperm
    | [s] => exact List.perm_singleton.1 hperm
    | s :: t :: rest =>
      have hs := hplace s List.mem_cons_self
      have ht := hplace t (List.mem_cons_of_mem _ List.mem_cons_self)
      exact absurd (hs.trans ht.symm) fun hst =>
        (List.nodup_cons.1 hone).1 (List.mem_map.2 ⟨t, List.mem_cons_self, hst.symm⟩)

theorem before_inOrder_iff {a b : Submission} : Before (inOrder xs) a b ↔ First xs a b :=
  Ranking.before_sorted_iff before_iff

end Submission

namespace Registry

open Submission (inOrder Recollected First)

/-- Submissions are put in order, registered in it, and then in the order of their hints. -/
theorem ofSubmissions_eq (xs : List Submission) :
    ofSubmissions xs = ofList ((inOrder xs).map (·.candidate)) >>= applyHints := rfl

theorem ofSubmissions_eq_ok_iff {xs : List Submission} {r : Registry} : ofSubmissions xs = .ok r ↔
    (ids ⟨(inOrder xs).map (·.candidate)⟩).Nodup ∧ applyHints ⟨(inOrder xs).map (·.candidate)⟩ = .ok r := by
  rw [ofSubmissions_eq, bind_eq_ok_iff]
  constructor
  · rintro ⟨s, hs, hr⟩
    obtain ⟨hids, rfl⟩ := ofList_eq_ok_iff.1 hs
    exact ⟨hids, hr⟩
  · rintro ⟨hids, hr⟩
    exact ⟨_, ofList_eq_ok_iff.2 ⟨hids, rfl⟩, hr⟩

theorem ofSubmissions_of_recollected {xs ys : List Submission} (h : Recollected xs ys) :
    ofSubmissions ys = ofSubmissions xs := by
  rw [ofSubmissions_eq, ofSubmissions_eq, Submission.inOrder_of_recollected h]

/-- **The order of collection does not matter.**  Submissions give the same registry, or the same fault, in whatever
order they are collected, as long as those of one place are collected in the same; so when no two have one place, in
every order.  On success they were registered from the lowest place up, and then their hints were applied: of two
candidates, the one that was taken first and that no hint asks to wait comes first. -/
theorem ofSubmissions_of_any_collection (xs : List Submission) :
    (∀ ys, Recollected xs ys → ofSubmissions ys = ofSubmissions xs) ∧
    ((xs.map (·.order)).Nodup → ∀ ys, ys.Perm xs → ofSubmissions ys = ofSubmissions xs) ∧
    ∀ r, ofSubmissions xs = .ok r →
      (∃ taken : List Submission, Recollected xs taken ∧ Ranking.Ranked (·.order) taken ∧
        ofList (taken.map (·.candidate)) = .ok ⟨taken.map (·.candidate)⟩ ∧
        applyHints ⟨taken.map (·.candidate)⟩ = .ok r) ∧
      ∀ a b, First xs a b → (∀ d, ¬r.Asks d a.candidate) → Before r.candidates a.candidate b.candidate := by
  refine ⟨fun ys => ofSubmissions_of_recollected, fun hplaces ys hperm => ?_, fun r h => ?_⟩
  · exact ofSubmissions_of_recollected (Submission.recollected_of_nodup hplaces hperm)
  · obtain ⟨hids, hr⟩ := ofSubmissions_eq_ok_iff.1 h
    refine ⟨⟨inOrder xs, Submission.recollected_inOrder xs, Ranking.sorted_ranked Submission.before_iff xs,
      ofList_eq_ok_iff.2 ⟨hids, rfl⟩, hr⟩, fun a b hab ha => ?_⟩
    have hbefore := (Submission.before_inOrder_iff.2 hab).map (·.candidate)
    refine applyHints_before_of_registered hids hr hbefore fun d hd => ha d ?_
    exact (asks_iff_of_perm (applyHints_perm hr)).2 hd

/-- The core is collected later and taken first all the same; the web waits for the log, which has its place. -/
theorem ofSubmissions_of_any_collection_of_late_core :
    let web : Submission := ⟨5, { id := "web", after := ["log"] }⟩
    let log : Submission := ⟨5, { id := "log" }⟩
    let core : Submission := ⟨-1, { id := "core" }⟩
    let xs := [core, web, log]
    let ys := [web, log, core]
    Recollected xs ys ∧ ofSubmissions ys = ofSubmissions xs ∧
      (∃ r, ofSubmissions xs = .ok r ∧ r.ids = ["core", "log", "web"] ∧ First xs core log ∧
        Before r.candidates core.candidate log.candidate) ∧
      [core.order, log.order].Nodup ∧ ofSubmissions [log, core] = ofSubmissions [core, log] := by
  intro web log core xs ys
  obtain ⟨hany, -, hok⟩ := ofSubmissions_of_any_collection xs
  have hdistinct := (ofSubmissions_of_any_collection [core, log]).2.1 (by decide)
  have hrecollected : Recollected xs ys := by
    have hperm : ([web, log] ++ [core]).Perm ([core] ++ [web, log]) := List.perm_append_comm
    refine ⟨hperm, fun place => ?_⟩
    by_cases hplace : (5 : Int) = place
    · simp [xs, ys, web, log, core, ← hplace]
    · simp [xs, ys, web, log, core, List.filter_cons, hplace]
  have hids : (ofSubmissions xs).map ids = .ok ["core", "log", "web"] := by decide +kernel
  obtain ⟨r, hr, hids⟩ := map_eq_ok_iff.1 hids
  have hfirst : First xs core log := .inl ⟨by decide, by simp [xs], by simp [xs]⟩
  have hcore : ∀ d, ¬r.Asks d core.candidate := by
    obtain ⟨⟨taken, hsame, -, -, hhints⟩, -⟩ := hok r hr
    rintro d ⟨hd, -, -, hhint⟩
    rw [(applyHints_perm hhints).mem_iff, (hsame.perm.map (·.candidate)).mem_iff] at hd
    simp only [xs, List.map_cons, List.map_nil, List.mem_cons, List.not_mem_nil, or_false] at hd
    rcases hd with rfl | rfl | rfl <;> revert hhint <;> decide
  exact ⟨hrecollected, hany ys hrecollected, ⟨r, hr, hids, hfirst, (hok r hr).2 core log hfirst hcore⟩, by decide,
    hdistinct [log, core] (List.Perm.swap core log [])⟩

end Registry
end Wiring
