/-!
# Scan — reading from the front of a text

A scan takes a piece off the front of the remaining characters or fails; after a failure an alternative starts
again where the failed one started.
-/
namespace Wiring
namespace Toml

abbrev Scan := StateT (List Char) Option

namespace Scan

def satisfy (p : Char → Bool) : Scan Char := fun
  | c :: s => if p c then some (c, s) else none
  | [] => none

def char (c : Char) : Scan Unit := fun
  | d :: s => if d = c then some ((), s) else none
  | [] => none

def word (cs : List Char) : Scan Unit := cs.forM char

/-- All characters up to the first outside the class; perhaps none. -/
def takeWhile (p : Char → Bool) : Scan (List Char) := fun s => some (s.takeWhile p, s.dropWhile p)

/-- As `takeWhile`, one character at least. -/
def takeWhile1 (p : Char → Bool) : Scan (List Char) := do
  let cs ← takeWhile p
  guard !cs.isEmpty
  pure cs

def count (n : Nat) (p : Char → Bool) : Scan (List Char) :=
  (List.replicate n ()).mapM fun _ => satisfy p

/-- The scan's piece when it is there, else nothing is taken. -/
def opt {α : Type} (x : Scan α) : Scan (Option α) := fun s =>
  match x s with
  | some (a, r) => some (some a, r)
  | none => some (none, s)

def eof : Scan Unit := fun s => if s.isEmpty then some ((), s) else none

def repeated {α : Type} (x : Scan α) : Nat → Scan (List α)
  | 0 => pure []
  | fuel + 1 => do
    match ← opt x with
    | none => pure []
    | some a => do
      let more ← repeated x fuel
      pure (a :: more)

/-- Pieces as long as the scan finds one, for scans that take a character at least. -/
def many {α : Type} (x : Scan α) : Scan (List α) := fun s => repeated x s.length s

/-- Pieces with a separator between each two; perhaps none. -/
def separated {α : Type} (x : Scan α) (sep : Scan Unit) : Scan (List α) := do
  match ← opt x with
  | none => pure []
  | some a => do
    let more ← many (sep *> x)
    pure (a :: more)

def whole? {α : Type} (x : Scan α) (s : List Char) : Option α :=
  match x s with
  | some (a, []) => some a
  | _ => none

end Scan
end Toml
end Wiring
