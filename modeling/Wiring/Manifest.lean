import Wiring.Registry
/-!
# Manifest — candidates and classes declared in a document
-/
namespace Wiring
namespace Manifest

/-- The conditions that a document can declare; custom ones it cannot. -/
inductive Guard where
  | classPresent (name : String)
  | classAbsent (name : String)
  | beanPresent (search : BeanSearch)
  | beanAbsent (search : BeanSearch)
  | property (test : PropertyTest)
  | jndi (names : List String)
  | webApplication
  | notWebApplication
  deriving DecidableEq

namespace Guard

def condition : Guard → Condition
  | .classPresent name => .classPresent name
  | .classAbsent name => .classAbsent name
  | .beanPresent search => .beanPresent search
  | .beanAbsent search => .beanAbsent search
  | .property test => .property test
  | .jndi names => .jndi names
  | .webApplication => .webApplication
  | .notWebApplication => .notWebApplication

def inspectSearch (s : BeanSearch) : String :=
  Inspect.record "BeanSearchDeclaration"
    [("types", Inspect.texts s.types), ("names", Inspect.texts s.names),
      ("search", Inspect.option (s.scope.map (·.inspect)))]

def inspect : Guard → String
  | .classPresent name => Inspect.record "ClassPresent" [("class", Inspect.quoted name)]
  | .classAbsent name => Inspect.record "ClassAbsent" [("class", Inspect.quoted name)]
  | .beanPresent search => Inspect.wrapped "BeanPresent" [inspectSearch search]
  | .beanAbsent search => Inspect.wrapped "BeanAbsent" [inspectSearch search]
  | .property test =>
    Inspect.record "Property"
      [("key", Inspect.quoted test.key), ("having_value", Inspect.option (test.expected.map Inspect.quoted)),
        ("match_if_missing", Inspect.flag test.matchIfMissing)]
  | .jndi names => Inspect.record "Jndi" [("names", Inspect.texts names)]
  | .webApplication => "WebApplication"
  | .notWebApplication => "NotWebApplication"

end Guard

/-- A candidate as declared; without an id it takes the bean name of what it produces. -/
structure Declaration where
  id : Option String := none
  phase : Phase := .registerBean
  types : List String := []
  produces : Option String := none
  search : Option SearchScope := none
  after : List String := []
  before : List String := []
  conditions : List Guard := []
  deriving DecidableEq

namespace Declaration

def namelessReason : String := "candidate declares neither 'id' nor 'produces'"

/-- What the candidate is before anything else is said about it. -/
def start? (d : Declaration) : Option Component :=
  match d.id, d.produces with
  | some id, produces => some { id, produces }
  | none, some produces => some (.forType produces)
  | none, none => none

/-- Types and hints are added one by one; a scope that is not declared stays as it is. -/
def candidate (d : Declaration) : Except Fault Candidate :=
  match d.start? with
  | none => .error (.manifest namelessReason)
  | some start =>
    let c : Candidate := { start with phase := d.phase, conditions := d.conditions.map Guard.condition }
    let c := d.search.elim c c.searchIn
    let c := d.types.foldl Candidate.addType c
    let c := d.after.foldl Candidate.addAfter c
    .ok (d.before.foldl Candidate.addBefore c)

end Declaration
end Manifest

structure Manifest where
  classpath : List String := []
  declarations : List Manifest.Declaration := []
  deriving DecidableEq

namespace Manifest

def classes (m : Manifest) : String → Bool := m.classpath.contains

/-- All declarations become candidates first; then they are registered in order, and reordered as their hints
ask. -/
def registry (m : Manifest) : Except Fault Registry := do
  let candidates ← m.declarations.mapM Declaration.candidate
  (← Registry.ofList candidates).applyHints

end Manifest
end Wiring
