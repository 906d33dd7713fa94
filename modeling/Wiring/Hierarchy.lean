/-!
# Hierarchy — declared supertypes, and which type can stand for which
-/
namespace Wiring

/-- Each link goes from a type to one of its direct supertypes. -/
structure Hierarchy where
  links : List (String × String) := []
  deriving DecidableEq

namespace Hierarchy

def declare (h : Hierarchy) (type : String) (supertypes : List String) : Hierarchy :=
  ⟨h.links ++ supertypes.map fun s => (type, s)⟩

def supertypes (h : Hierarchy) (type : String) : List String := (h.links.filter (·.1 == type)).map (·.2)

/-- How far a search upwards has come: the types whose turn has been, and those whose turn is to come. -/
structure Search where
  seen : List String := []
  queue : List String
  deriving DecidableEq

/-- One turn of a search for the target: the answer, or how far it has come now.  A type that comes again is passed
over. -/
def turn (h : Hierarchy) (target : String) (s : Search) : Bool ⊕ Search :=
  match s.queue with
  | [] => .inl false
  | type :: queue =>
    if type ∈ s.seen then .inr ⟨s.seen, queue⟩
    else if target ∈ h.supertypes type then .inl true
    else .inr ⟨type :: s.seen, queue ++ h.supertypes type⟩

/-- The turns that may be to come: one for every type in the queue, and one for every link of a type whose turn has
not been. -/
def remaining (h : Hierarchy) (s : Search) : Nat :=
  s.queue.length + (h.links.filter fun l => l.1 ∉ s.seen).length

theorem length_unseen {type : String} {seen : List String} (ht : type ∉ seen) : ∀ links : List (String × String),
    (links.filter fun l => l.1 ∉ seen).length =
      (links.filter fun l => l.1 ∉ type :: seen).length + (links.filter (·.1 == type)).length
  | [] => rfl
  | l :: ls => by
    have ih := length_unseen ht ls
    simp only [List.mem_cons, not_or, Bool.decide_and, decide_not] at ih ⊢
    by_cases hl : l.1 = type
    · simp [hl, ht, ih, Nat.add_assoc]
    · by_cases hs : l.1 ∈ seen
      · simp [hl, hs, ih]
      · simp [hl, hs, ih, Nat.add_right_comm]

/-- **Every turn that gives no answer leaves one turn less.** -/
theorem remaining_turn {h : Hierarchy} {target : String} {s next : Search} (ht : h.turn target s = .inr next) :
    h.remaining next + 1 = h.remaining s := by
  obtain ⟨seen, queue⟩ := s
  cases queue with
  | nil => simp [turn] at ht
  | cons type queue =>
    by_cases hseen : type ∈ seen
    · simp only [turn, hseen, if_true, Sum.inr.injEq] at ht
      subst ht
      simp only [remaining, List.length_cons]
      omega
    · simp only [turn, hseen, if_false] at ht
      split at ht
      · cases ht
      · simp only [Sum.inr.injEq] at ht
        subst ht
        have hlen := length_unseen hseen h.links
        simp only [remaining, supertypes, List.length_append, List.length_map, List.length_cons]
        omega

def search (h : Hierarchy) (target : String) (s : Search) : Bool :=
  match _ : h.turn target s with
  | .inl answer => answer
  | .inr next => h.search target next
termination_by h.remaining s
decreasing_by exact Nat.lt_of_succ_le (Nat.le_of_eq (remaining_turn ‹_›))

def isBelow (h : Hierarchy) (source target : String) : Bool := h.search target { queue := [source] }

/-- A type can stand for itself and for every type above it. -/
def isAssignable (h : Hierarchy) (source target : String) : Bool := source == target || h.isBelow source target

end Hierarchy
end Wiring
