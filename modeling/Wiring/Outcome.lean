import Wiring.Text.Inspect
/-!
# Outcome — what became of a candidate
-/
namespace Wiring

inductive Outcome where
  | activated
  | skipped (reason : String)
  deriving DecidableEq

namespace Outcome

def isActivated : Outcome → Bool
  | .activated => true
  | .skipped _ => false

def reason? : Outcome → Option String
  | .activated => none
  | .skipped reason => some reason

def status : Outcome → String
  | .activated => "ACTIVATED"
  | .skipped _ => "SKIPPED"

def text : Outcome → String
  | .activated => "ACTIVATED"
  | .skipped reason => "SKIPPED(" ++ reason ++ ")"

def inspect : Outcome → String
  | .activated => "Activated"
  | .skipped reason => Inspect.record "Skipped" [("reason", Inspect.quoted reason)]

end Outcome

inductive State where
  | pending
  | evaluating
  | done (outcome : Outcome)
  deriving DecidableEq

namespace State

def isTerminal : State → Bool
  | .done _ => true
  | _ => false

def outcome? : State → Option Outcome
  | .done outcome => some outcome
  | _ => none

/-- A candidate is first evaluated and then done. -/
def canBecome : State → State → Bool
  | .pending, .evaluating => true
  | .evaluating, .done _ => true
  | _, _ => false

def inspect : State → String
  | .pending => "Pending"
  | .evaluating => "Evaluating"
  | .done outcome => Inspect.wrapped "Done" [outcome.inspect]

end State

/-- What became of candidates, by id, in the order in which they were looked at. -/
structure Activations where
  entries : List (String × Outcome) := []
  deriving DecidableEq

namespace Activations

def get? (a : Activations) (id : String) : Option Outcome := a.entries.lookup id

/-- The first record of an id stays. -/
def record (a : Activations) (id : String) (outcome : Outcome) : Activations :=
  if (a.get? id).isSome then a else ⟨a.entries ++ [(id, outcome)]⟩

def isActivated (a : Activations) (id : String) : Bool := (a.get? id).elim false Outcome.isActivated

def activated (a : Activations) : List String := (a.entries.filter (·.2.isActivated)).map (·.1)

def skipped (a : Activations) : List (String × String) :=
  a.entries.filterMap fun e => e.2.reason?.map fun reason => (e.1, reason)

def size (a : Activations) : Nat := a.entries.length

/-- **A recorded id has its first outcome, every other id what it had.** -/
theorem get?_record (a : Activations) (id other : String) (outcome : Outcome) :
    (a.record id outcome).get? other = if other = id then (a.get? id).or (some outcome) else a.get? other := by
  unfold record
  split
  · rename_i h
    obtain ⟨o, ho⟩ := Option.isSome_iff_exists.1 h
    by_cases hid : other = id <;> simp [hid, ho]
  · rename_i h
    have hn : a.get? id = none := by simpa using h
    by_cases hid : other = id
    · subst hid
      simp only [get?, List.lookup_append] at hn ⊢
      simp [hn]
    · have hb : (other == id) = false := by simp [hid]
      simp [get?, List.lookup_append, hid, List.lookup_cons, hb]

/-- Where ids are distinct, the outcome of an id is the one of its entry. -/
theorem get?_eq_some_iff {a : Activations} (ha : (a.entries.map Prod.fst).Nodup) {id : String} {outcome : Outcome} :
    a.get? id = some outcome ↔ (id, outcome) ∈ a.entries := by
  unfold get?
  generalize a.entries = l at ha
  induction l with
  | nil => exact ⟨fun h => (nomatch h), fun h => (nomatch h)⟩
  | cons p l ih =>
    obtain ⟨k, o⟩ := p
    obtain ⟨hk, hl⟩ := List.nodup_cons.1 ha
    rw [List.lookup_cons, List.mem_cons, Prod.mk.injEq]
    by_cases hid : id = k
    · subst hid
      have hout : (id, outcome) ∉ l := fun h => hk (List.mem_map.2 ⟨_, h, rfl⟩)
      simp [hout, eq_comm]
    · have hb : (id == k) = false := beq_eq_false_iff_ne.2 hid
      simp only [hb, ih hl, hid, false_and, false_or]

end Activations
end Wiring
