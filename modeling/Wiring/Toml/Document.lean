import Wiring.Toml.Expression
/-!
# Document — a text as one table
-/
namespace Wiring
namespace Toml

/-- Where the table that lines are being added to belongs. -/
inductive Place where
  | root
  | table (path : List String) (key : String)
  | element (path : List String) (key : String)

/-- A document under construction: the closed tables, and the open one with its place. -/
structure Draft where
  tree : Branch := []
  place : Place := .root
  current : Branch := []

namespace Draft

def closed (d : Draft) : Option Branch :=
  match d.place with
  | .root => some d.current
  | .table path key => d.tree.place path key d.current
  | .element path key => d.tree.append path key d.current

def add (d : Draft) : Expression → Option Draft
  | .pair path key v => do
    let current ← d.current.define path key v
    some { d with current }
  | .header path key => do
    let (current, tree) ← (← d.closed).take path key
    some ⟨tree, .table path key, current⟩
  | .element path key => do
    some ⟨← d.closed, .element path key, []⟩

end Draft

/-- The table that expressions describe, when no two of them conflict. -/
def entriesOf? (es : List Expression) : Option Entries := do
  let draft ← es.foldlM Draft.add {}
  some (finishedEntries (← draft.closed))

def read? (s : String) : Option Entries := do
  entriesOf? (← expressions? s.toList)

/-- What stands for the reader's own account of a fault in a document. -/
def faultText : String := "<toml>"

/-- How a program reads documents, each as the table of its entries or as one value, and what it writes for a moment of
time. -/
structure Reader where
  table : String → Except String Entries := fun s => (read? s).elim (.error faultText) .ok
  value : String → Except String Value := fun s => (table s).map .table
  moment : Datetime → String := Datetime.text

end Toml
end Wiring
