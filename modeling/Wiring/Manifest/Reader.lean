import Wiring.Manifest
import Wiring.Toml.Document
/-!
# Reader — manifests from documents

Records may be written as tables, or as arrays with the fields in their order.  Keys of no meaning are passed
over; a value of the wrong shape makes the whole document unreadable.
-/
namespace Wiring
namespace Manifest

open Toml (Entries)

abbrev Tree := Toml.Value

def text? : Tree → Option String
  | .text s => some s
  | _ => none

def flag? : Tree → Option Bool
  | .flag b => some b
  | _ => none

def listOf? {α : Type} (element : Tree → Option α) : Tree → Option (List α)
  | .array items => items.mapM element
  | _ => none

def texts? : Tree → Option (List String) := listOf? text?

def optional? {α : Type} (read : Tree → Option α) : Option Tree → Option (Option α)
  | none => some none
  | some v => (read v).map some

def defaulted? {α : Type} (default : α) (read : Tree → Option α) (v : Option Tree) : Option α :=
  (optional? read v).map (·.getD default)

/-- A choice is its name, or a table with the name as only key and nothing below. -/
def choice? {α : Type} (named : String → Option α) (empty : Tree → Bool) : Tree → Option α
  | .text s => named s
  | .table [(name, below)] => if empty below then named name else none
  | _ => none

def isEmptyTable : Tree → Bool
  | .table [] => true
  | _ => false

def isEmptyCollection : Tree → Bool
  | .table [] => true
  | .array [] => true
  | _ => false

def phase? : Tree → Option Phase := choice? Phase.ofTag? isEmptyCollection

def scope? : Tree → Option SearchScope := choice? SearchScope.ofTag? isEmptyCollection

/-- A scope inside a condition, where the long form takes no array. -/
def guardScope? : Tree → Option SearchScope := choice? SearchScope.ofTag? isEmptyTable

def searchOfFields? (field : String → Option Tree) : Option BeanSearch := do
  some ⟨← defaulted? [] texts? (field "types"), ← defaulted? [] texts? (field "names"),
    ← optional? guardScope? (field "search")⟩

/-- The search of a condition written as an array: types, names and scope. -/
def searchOfItems? : List Tree → Option BeanSearch
  | [types, names, scope] => do some ⟨← texts? types, ← texts? names, some (← guardScope? scope)⟩
  | _ => none

def guardOfFields? (kind : String) (field : String → Option Tree) : Option Guard :=
  match kind with
  | "class-present" => (field "class").bind fun v => (text? v).map .classPresent
  | "class-absent" => (field "class").bind fun v => (text? v).map .classAbsent
  | "bean-present" => (searchOfFields? field).map .beanPresent
  | "bean-absent" => (searchOfFields? field).map .beanAbsent
  | "property" => do
    let key ← (field "key").bind text?
    let expected ← optional? text? (field "having-value")
    some (.property ⟨key, expected, ← defaulted? true flag? (field "match-if-missing")⟩)
  | "jndi" => (defaulted? [] texts? (field "names")).map .jndi
  | "web-application" => some .webApplication
  | "not-web-application" => some .notWebApplication
  | _ => none

def guardOfItems? (kind : String) (items : List Tree) : Option Guard :=
  match kind, items with
  | "class-present", [name] => (text? name).map .classPresent
  | "class-absent", [name] => (text? name).map .classAbsent
  | "bean-present", items => (searchOfItems? items).map .beanPresent
  | "bean-absent", items => (searchOfItems? items).map .beanAbsent
  | "property", [key] => (text? key).map fun k => .property ⟨k, none, true⟩
  | "property", [key, expected] => do some (.property ⟨← text? key, some (← text? expected), true⟩)
  | "property", [key, expected, missing] => do
    some (.property ⟨← text? key, some (← text? expected), ← flag? missing⟩)
  | "jndi", [] => some (.jndi [])
  | "jndi", [names] => (texts? names).map .jndi
  | "web-application", [] => some .webApplication
  | "not-web-application", [] => some .notWebApplication
  | _, _ => none

def guard? : Tree → Option Guard
  | .table entries => do guardOfFields? (← (entries.lookup "kind").bind text?) fun key => entries.lookup key
  | .array (kind :: items) => do guardOfItems? (← text? kind) items
  | _ => none

def declarationOfFields? (field : String → Option Tree) : Option Declaration := do
  some {
    id := ← optional? text? (field "id")
    phase := ← defaulted? .registerBean phase? (field "phase")
    types := ← defaulted? [] texts? (field "types")
    produces := ← optional? text? (field "produces")
    search := ← optional? scope? (field "search")
    after := ← defaulted? [] texts? (field "after")
    before := ← defaulted? [] texts? (field "before")
    conditions := ← defaulted? [] (listOf? guard?) (field "conditions") }

/-- A candidate written as an array: the first five fields are given, further items count for nothing. -/
def declarationOfItems? (items : List Tree) : Option Declaration := do
  guard (5 ≤ items.length)
  some {
    id := ← optional? text? items[0]?
    phase := ← defaulted? .registerBean phase? items[1]?
    types := ← defaulted? [] texts? items[2]?
    produces := ← optional? text? items[3]?
    search := ← optional? scope? items[4]?
    after := ← defaulted? [] texts? items[5]?
    before := ← defaulted? [] texts? items[6]?
    conditions := ← defaulted? [] (listOf? guard?) items[7]? }

def declaration? : Tree → Option Declaration
  | .table entries => declarationOfFields? fun key => entries.lookup key
  | .array items => declarationOfItems? items
  | _ => none

def ofEntries? (document : Entries) : Option Manifest := do
  some ⟨← defaulted? [] texts? (document.lookup "classpath"),
    ← defaulted? [] (listOf? declaration?) (document.lookup "candidate")⟩

/-- The manifest that a text holds. -/
def read (reader : Toml.Reader) (content : String) : Except Fault Manifest :=
  match reader.table content with
  | .ok document => (ofEntries? document).elim (.error (.manifest Toml.faultText)) .ok
  | .error fault => .error (.manifest fault)

end Manifest
end Wiring
