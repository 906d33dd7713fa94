import Mathlib.Logic.Relation
import Wiring.Hierarchy
/-!
# Reachability — a type can stand for what its links lead to

The search upwards is a loop that takes turns.  It ends on every hierarchy, cyclic ones included, and what it finds is
what a path of links leads to: `isAssignable_iff` says it of `isAssignable` and the reflexive and transitive closure.
-/
namespace Wiring
namespace Hierarchy

open Relation (TransGen ReflTransGen)

def Linked (links : List (String × String)) (a b : String) : Prop := (a, b) ∈ links

/-- A path of links, maybe an empty one, leads from the source to the target. -/
def Reaches (links : List (String × String)) : String → String → Prop := ReflTransGen (Linked links)

theorem mem_supertypes {h : Hierarchy} {a b : String} : b ∈ h.supertypes a ↔ Linked h.links a b := by
  unfold supertypes Linked
  rw [List.mem_map]
  constructor
  · rintro ⟨l, hl, rfl⟩
    obtain ⟨hl, ha⟩ := List.mem_filter.1 hl
    rw [← beq_iff_eq.1 ha]
    exact hl
  · intro hl
    exact ⟨(a, b), List.mem_filter.2 ⟨hl, beq_self_eq_true a⟩, rfl⟩

theorem search_of_answer {h : Hierarchy} {target : String} {s : Search} {answer : Bool}
    (ht : h.turn target s = .inl answer) : h.search target s = answer := by
  rw [search]
  split <;> simp_all

theorem search_of_next {h : Hierarchy} {target : String} {s next : Search} (ht : h.turn target s = .inr next) :
    h.search target s = h.search target next := by
  rw [search]
  split <;> simp_all

/-- **No search takes turns without end.** -/
theorem turns_wellFounded (h : Hierarchy) (target : String) :
    WellFounded fun next s => h.turn target s = .inr next :=
  Subrelation.wf (fun {_ _} ht => Nat.lt_of_succ_le (Nat.le_of_eq (remaining_turn ht))) (measure h.remaining).wf

/-- To show something of every search, it is shown where a turn gives the answer, and carried back over the turns
that give none. -/
theorem search_induction (h : Hierarchy) (target : String) {P : Search → Prop}
    (answered : ∀ s answer, h.turn target s = .inl answer → P s)
    (went : ∀ s next, h.turn target s = .inr next → P next → P s) (s : Search) : P s := by
  induction s using (turns_wellFounded h target).induction with
  | _ s ih =>
    cases ht : h.turn target s with
    | inl answer => exact answered s answer ht
    | inr next => exact went s next ht (ih next ht)

/-- **The loop ends**: from wherever a search has come, turns lead to one that answers, and it answers as `search`
does. -/
theorem search_terminates (h : Hierarchy) (target : String) (s : Search) :
    ∃ last, ReflTransGen (fun s next => h.turn target s = .inr next) s last ∧
      h.turn target last = .inl (h.search target s) := by
  induction s using search_induction h target with
  | answered s answer ht => exact ⟨s, .refl, by rw [ht, search_of_answer ht]⟩
  | went s next ht ih =>
    obtain ⟨last, hpath, hlast⟩ := ih
    exact ⟨last, .head ht hpath, by rw [hlast, search_of_next ht]⟩

/-- What a turn without an answer does: the first type is passed over, or the types above it, none of them the
target, go to the queue. -/
theorem turn_next {h : Hierarchy} {target : String} {s next : Search} (ht : h.turn target s = .inr next) :
    ∃ type queue, s.queue = type :: queue ∧
      ((type ∈ s.seen ∧ next = ⟨s.seen, queue⟩) ∨
        (target ∉ h.supertypes type ∧ next = ⟨type :: s.seen, queue ++ h.supertypes type⟩)) := by
  obtain ⟨seen, queue⟩ := s
  cases queue with
  | nil => cases ht
  | cons type queue =>
    refine ⟨type, queue, rfl, ?_⟩
    simp only [turn] at ht
    split at ht
    · rename_i hseen
      exact .inl ⟨hseen, (Sum.inr.inj ht).symm⟩
    · split at ht
      · cases ht
      · rename_i htarget
        exact .inr ⟨htarget, (Sum.inr.inj ht).symm⟩

/-- What a turn with an answer found: an empty queue, or the target right above the first type. -/
theorem turn_answer {h : Hierarchy} {target : String} {s : Search} {answer : Bool}
    (ht : h.turn target s = .inl answer) :
    (answer = false ∧ s.queue = []) ∨ (answer = true ∧ ∃ type ∈ s.queue, target ∈ h.supertypes type) := by
  obtain ⟨seen, queue⟩ := s
  cases queue with
  | nil => exact .inl ⟨(Sum.inl.inj ht).symm, rfl⟩
  | cons type queue =>
    simp only [turn] at ht
    split at ht
    · cases ht
    · split at ht
      · rename_i htarget
        exact .inr ⟨(Sum.inl.inj ht).symm, type, List.mem_cons_self, htarget⟩
      · cases ht

theorem exists_path_of_search {h : Hierarchy} {target : String} (s : Search) :
    h.search target s = true → ∃ q ∈ s.queue, TransGen (Linked h.links) q target := by
  induction s using search_induction h target with
  | answered s answer ht =>
    intro hs
    rw [search_of_answer ht] at hs
    rcases turn_answer ht with ⟨ha, -⟩ | ⟨-, type, htype, htarget⟩
    · rw [ha] at hs
      cases hs
    · exact ⟨type, htype, .single (mem_supertypes.1 htarget)⟩
  | went s next ht ih =>
    intro hs
    obtain ⟨q, hq, hpath⟩ := ih (by rwa [search_of_next ht] at hs)
    obtain ⟨type, queue, hqueue, ⟨-, rfl⟩ | ⟨-, rfl⟩⟩ := turn_next ht
    · exact ⟨q, by rw [hqueue]; exact List.mem_cons_of_mem _ hq, hpath⟩
    · rw [hqueue]
      rcases List.mem_append.1 hq with hq | hq
      · exact ⟨q, List.mem_cons_of_mem _ hq, hpath⟩
      · exact ⟨type, List.mem_cons_self, .head (mem_supertypes.1 hq) hpath⟩

/-- The invariant of a search that has not found the target: all that is above a type whose turn has been is another
type than the target, and its turn has been or is to come. -/
def Covered (h : Hierarchy) (target : String) (s : Search) : Prop :=
  ∀ t ∈ s.seen, ∀ u ∈ h.supertypes t, u ≠ target ∧ (u ∈ s.seen ∨ u ∈ s.queue)

theorem mem_turn {h : Hierarchy} {target : String} {s next : Search} (ht : h.turn target s = .inr next) {u : String}
    (hu : u ∈ s.seen ∨ u ∈ s.queue) : u ∈ next.seen ∨ u ∈ next.queue := by
  obtain ⟨type, queue, hqueue, ⟨hseen, rfl⟩ | ⟨-, rfl⟩⟩ := turn_next ht
  · rcases hu with hu | hu
    · exact .inl hu
    · rw [hqueue] at hu
      exact (List.mem_cons.1 hu).elim (fun e => .inl (e ▸ hseen)) .inr
  · rcases hu with hu | hu
    · exact .inl (List.mem_cons_of_mem _ hu)
    · rw [hqueue] at hu
      exact (List.mem_cons.1 hu).elim (fun e => .inl (e ▸ List.mem_cons_self))
        fun hu => .inr (List.mem_append_left _ hu)

theorem covered_turn {h : Hierarchy} {target : String} {s next : Search} (hc : Covered h target s)
    (ht : h.turn target s = .inr next) : Covered h target next := by
  intro t htn u hu
  have hmem := mem_turn ht (u := u)
  obtain ⟨type, queue, -, ⟨-, rfl⟩ | ⟨htarget, rfl⟩⟩ := turn_next ht
  · exact ⟨(hc t htn u hu).1, hmem (hc t htn u hu).2⟩
  · rcases List.mem_cons.1 htn with rfl | htn
    · exact ⟨fun e => htarget (e ▸ hu), .inr (List.mem_append_right _ hu)⟩
    · exact ⟨(hc t htn u hu).1, hmem (hc t htn u hu).2⟩

/-- A search that ends without the target leaves no path to it from any type that it met. -/
theorem no_path_of_search {h : Hierarchy} {target : String} (s : Search) :
    Covered h target s → h.search target s = false →
      ∀ q, (q ∈ s.seen ∨ q ∈ s.queue) → ¬ TransGen (Linked h.links) q target := by
  induction s using search_induction h target with
  | answered s answer ht =>
    intro hc hs q hq hpath
    rw [search_of_answer ht] at hs
    rcases turn_answer ht with ⟨-, hqueue⟩ | ⟨ha, -⟩
    · -- with the queue empty, the types whose turn has been are closed under links
      have hclosed : ∀ t ∈ s.seen, ∀ u, Linked h.links t u → u ≠ target ∧ u ∈ s.seen := fun t hts u hu => by
        have := hc t hts u (mem_supertypes.2 hu)
        rwa [hqueue, List.mem_nil_iff, or_false] at this
      rw [hqueue, List.mem_nil_iff, or_false] at hq
      induction hpath using TransGen.head_induction_on with
      | single hl => exact (hclosed _ hq _ hl).1 rfl
      | head hl _ ih => exact ih (hclosed _ hq _ hl).2
    · rw [ha] at hs
      cases hs
  | went s next ht ih =>
    intro hc hs q hq
    exact ih (covered_turn hc ht) (by rwa [search_of_next ht] at hs) q (mem_turn ht hq)

theorem isBelow_iff {h : Hierarchy} {source target : String} :
    h.isBelow source target = true ↔ TransGen (Linked h.links) source target := by
  constructor
  · intro hs
    obtain ⟨q, hq, hpath⟩ := exists_path_of_search _ hs
    rwa [List.mem_singleton.1 hq] at hpath
  · intro hpath
    cases hs : h.isBelow source target with
    | true => rfl
    | false =>
      have hc : Covered h target { queue := [source] } := fun _ ht => nomatch ht
      exact absurd hpath (no_path_of_search _ hc hs source (.inr List.mem_cons_self))

/-- **A type can stand for exactly the types that a path of links leads to.** -/
theorem isAssignable_iff {h : Hierarchy} {source target : String} :
    h.isAssignable source target = true ↔ Reaches h.links source target := by
  unfold isAssignable Reaches
  rw [Bool.or_eq_true, beq_iff_eq, isBelow_iff, Relation.reflTransGen_iff_eq_or_transGen, eq_comm]

end Hierarchy
end Wiring
