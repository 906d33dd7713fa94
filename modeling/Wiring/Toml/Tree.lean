import Wiring.Toml.Value
/-!
# Tree — tables under construction

Keys and headers may reach into tables that others opened.  A table remembers how it came about: by a header of
its own, by the header or the key of something inside it (`implicit`), and whether that was a key (`dotted`).
-/
namespace Wiring
namespace Toml

/-- What a key holds while the document is read. -/
inductive Item where
  | value (v : Value)
  | table (implicit dotted : Bool) (entries : List (String × Item))
  | tables (elements : List (List (String × Item)))

/-- The entries of a table under construction, in order of first mention. -/
abbrev Branch := List (String × Item)

namespace Branch

def put (key : String) (x : Item) : Branch → Branch
  | [] => [(key, x)]
  | e :: es => if e.1 = key then (key, x) :: es else e :: put key x es

def remove (key : String) (b : Branch) : Branch := b.filter fun e => e.1 != key

/-- Changes the table at a path and reports what the change found.  Tables on the way that are missing are
opened, an array of tables stands for its last element, and nothing reaches into a value.  A dotted key moreover
reaches only into tables that no header opened.  The change sees whether the table came about by a dotted key. -/
def within {α : Type} (byKey : Bool) (change : Bool → Branch → Option (α × Branch)) :
    Bool → List String → Branch → Option (α × Branch)
  | dotted, [], b => change dotted b
  | _, key :: path, b =>
    match b.lookup key with
    | none => do
      let (found, inner) ← within byKey change byKey path []
      some (found, b.put key (.table true byKey inner))
    | some (.table implicit dotted entries) => do
      guard !(byKey && !implicit)
      let (found, inner) ← within byKey change dotted path entries
      some (found, b.put key (.table implicit dotted inner))
    | some (.tables elements) =>
      match elements.reverse with
      | [] => none
      | last :: before => do
        let (found, inner) ← within byKey change false path last
        some (found, b.put key (.tables (inner :: before).reverse))
    | some (.value _) => none

/-- Defines a key behind a path of parents, which are opened as dotted tables.  A key is defined once, and a
table opened by dotted keys takes entries from dotted keys alone. -/
def define (b : Branch) (path : List String) (key : String) (v : Value) : Option Branch :=
  (within true (fun dotted table => do
    guard (dotted != path.isEmpty)
    guard (table.lookup key).isNone
    some ((), table.put key (.value v))) false path b).map (·.2)

/-- Takes the table of a header out of the tree: an empty one when there was none, or the one that only the
headers of its inner tables had opened. -/
def take (b : Branch) (path : List String) (key : String) : Option (Branch × Branch) :=
  within false (fun _ table =>
    match table.lookup key with
    | none => some ([], table)
    | some (.table true false entries) => some (entries, table.remove key)
    | some _ => none) false path b

def place (b : Branch) (path : List String) (key : String) (entries : Branch) : Option Branch :=
  (within false (fun _ table => some ((), table.put key (.table false false entries))) false path b).map (·.2)

/-- Adds an element to an array of tables, which its first element opens. -/
def append (b : Branch) (path : List String) (key : String) (entries : Branch) : Option Branch :=
  (within false (fun _ table =>
    match table.lookup key with
    | none => some ((), table.put key (.tables [entries]))
    | some (.tables elements) => some ((), table.put key (.tables (elements ++ [entries])))
    | some _ => none) false path b).map (·.2)

end Branch

mutual

def Item.finished : Item → Value
  | .value v => v
  | .table _ _ entries => .table (finishedEntries entries)
  | .tables elements => .array (finishedTables elements)

def finishedEntries : List (String × Item) → Entries
  | [] => []
  | (key, x) :: es => (finishedEntries es).insert key x.finished

def finishedTables : List (List (String × Item)) → List Value
  | [] => []
  | entries :: more => .table (finishedEntries entries) :: finishedTables more

end

end Toml
end Wiring
