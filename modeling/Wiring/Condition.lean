import Wiring.Facts
import Wiring.Fault
/-!
# Condition — the tests that guard a candidate

A condition is judged by the facts, for a component, in a phase.  It matches or does not and says why; only a
defect of the declaration is a fault.
-/
namespace Wiring

structure Verdict where
  matched : Bool
  message : String
  deriving DecidableEq

/-- What a bean condition looks for; without types and names it is the type that its candidate produces. -/
structure BeanSearch where
  types : List String := []
  names : List String := []
  scope : Option SearchScope := none
  deriving DecidableEq

/-- A property that must be set, to an expected value if there is one. -/
structure PropertyTest where
  key : String
  expected : Option String := none
  matchIfMissing : Bool := true
  deriving DecidableEq

/-- A condition of the application's own; its test may fail with a text. -/
structure CustomCondition where
  name : String
  test : Facts → Component → Phase → Except String Verdict

inductive Condition where
  | classPresent (name : String)
  | classAbsent (name : String)
  | beanPresent (search : BeanSearch)
  | beanAbsent (search : BeanSearch)
  | property (test : PropertyTest)
  /-- One of the names is bound; without names, that there is a naming service. -/
  | jndi (names : List String)
  | webApplication
  | notWebApplication
  | custom (condition : CustomCondition)

/-- The kinds of conditions; every custom condition is a kind of its own. -/
inductive ConditionKind where
  | onClass
  | onMissingClass
  | onBean
  | onMissingBean
  | onProperty
  | onJndi
  | onWebApplication
  | onNotWebApplication
  | custom (name : String)
  deriving DecidableEq

namespace ConditionKind

def text : ConditionKind → String
  | .onClass => "OnClass"
  | .onMissingClass => "OnMissingClass"
  | .onBean => "OnBean"
  | .onMissingBean => "OnMissingBean"
  | .onProperty => "OnProperty"
  | .onJndi => "OnJndi"
  | .onWebApplication => "OnWebApplication"
  | .onNotWebApplication => "OnNotWebApplication"
  | .custom name => "Custom(" ++ name ++ ")"

/-- The place among the kinds; the custom ones come last and share it. -/
def rank : ConditionKind → Nat
  | .onClass => 0
  | .onMissingClass => 1
  | .onBean => 2
  | .onMissingBean => 3
  | .onProperty => 4
  | .onJndi => 5
  | .onWebApplication => 6
  | .onNotWebApplication => 7
  | .custom _ => 8

def customName : ConditionKind → String
  | .custom name => name
  | _ => ""

/-- Kinds in order: by place, custom ones by name. -/
def precedes (k l : ConditionKind) : Bool :=
  decide (k.rank < l.rank) || (k.rank == l.rank && decide (k.customName < l.customName))

end ConditionKind

namespace BeanSearch

def text (s : BeanSearch) : String :=
  "types=" ++ Inspect.texts s.types ++ ", names=" ++ Inspect.texts s.names
    ++ s.scope.elim "" fun scope => ", scope=" ++ scope.text

def inspect (s : BeanSearch) : String :=
  Inspect.record "BeanSearch"
    [("types", Inspect.texts s.types), ("names", Inspect.texts s.names),
      ("scope", Inspect.option (s.scope.map (·.inspect)))]

/-- The types to look for, once that of the candidate has stepped in; none when nothing says what to look for. -/
def effectiveTypes? (s : BeanSearch) (c : Component) : Option (List String) :=
  if s.types.isEmpty && s.names.isEmpty then c.produces.map fun t => [t] else some s.types

/-- The condition's own scope, else its candidate's, else everywhere. -/
def effectiveScope (s : BeanSearch) (c : Component) : SearchScope := (s.scope <|> c.search).getD .all

def found (f : Facts) (types names : List String) (ancestors : Bool) : List String :=
  Names.ofList (types.flatMap (f.beansOfType · ancestors) ++ names.filter (f.containsBean · ancestors))

/-- The names of the beans found; the parents' scope stops at the parent.  Both defects of a search are faults, the
lack of a type before the lack of a parent. -/
def matching (s : BeanSearch) (kind : ConditionKind) (f : Facts) (c : Component) : Except Fault (List String) :=
  match s.effectiveTypes? c with
  | none => .error (.unspecifiedSearch c.id kind.text)
  | some types =>
    match f.searched? (s.effectiveScope c) with
    | none => .error (.missingParent c.id kind.text)
    | some g => .ok (found g types s.names (s.effectiveScope c == .all))

end BeanSearch

namespace PropertyTest

def inspect (t : PropertyTest) : String :=
  Inspect.record "PropertyCondition"
    [("key", Inspect.quoted t.key), ("having_value", Inspect.option (t.expected.map Inspect.quoted)),
      ("match_if_missing", Inspect.flag t.matchIfMissing)]

/-- Values compare without regard to the case of ASCII letters.  Without an expected value all but `false`
matches. -/
def verdict (t : PropertyTest) : Option String → Verdict
  | none =>
    ⟨t.matchIfMissing,
      "property '" ++ t.key ++ "' not set (match-if-missing=" ++ Inspect.flag t.matchIfMissing ++ ")"⟩
  | some value =>
    match t.expected with
    | some expected =>
      ⟨Text.sameIgnoringAsciiCase value expected,
        "property '" ++ t.key ++ "' = '" ++ value ++ "' (expected '" ++ expected ++ "')"⟩
    | none => ⟨!Text.sameIgnoringAsciiCase value "false", "property '" ++ t.key ++ "' = '" ++ value ++ "'"⟩

end PropertyTest

namespace Condition

def kind : Condition → ConditionKind
  | .classPresent _ => .onClass
  | .classAbsent _ => .onMissingClass
  | .beanPresent _ => .onBean
  | .beanAbsent _ => .onMissingBean
  | .property _ => .onProperty
  | .jndi _ => .onJndi
  | .webApplication => .onWebApplication
  | .notWebApplication => .onNotWebApplication
  | .custom c => .custom c.name

def description : Condition → String
  | .classPresent name | .classAbsent name => name
  | .beanPresent search | .beanAbsent search => search.text
  | .property test => test.key ++ test.expected.elim "" fun value => "=" ++ value
  | .jndi names => Inspect.texts names
  | .webApplication | .notWebApplication => ""
  | .custom c => c.name

def inspect : Condition → String
  | .classPresent name => Inspect.wrapped "ClassPresent" [Inspect.quoted name]
  | .classAbsent name => Inspect.wrapped "ClassAbsent" [Inspect.quoted name]
  | .beanPresent search => Inspect.wrapped "BeanPresent" [search.inspect]
  | .beanAbsent search => Inspect.wrapped "BeanAbsent" [search.inspect]
  | .property test => Inspect.wrapped "PropertyMatches" [test.inspect]
  | .jndi names => Inspect.wrapped "JndiAvailable" [Inspect.texts names]
  | .webApplication => "WebApplication"
  | .notWebApplication => "NotWebApplication"
  | .custom c => Inspect.wrapped "Custom" [Inspect.quoted c.name]

def classMessage (word name : String) (found : Bool) : String :=
  word ++ " class '" ++ name ++ "' " ++ (if found then "found" else "not found")

def webMessage (web : Bool) : String := if web then "a web application" else "not a web application"

def noBeans (search : BeanSearch) : String := "found no beans matching " ++ search.text

def beanPresence (search : BeanSearch) (found : List String) : Verdict :=
  if found.isEmpty then ⟨false, noBeans search⟩
  else ⟨true, "found beans " ++ Inspect.set (found.map Inspect.quoted)⟩

def beanAbsence (search : BeanSearch) (found : List String) : Verdict :=
  if found.isEmpty then ⟨true, noBeans search⟩
  else ⟨false, "found beans " ++ Inspect.set (found.map Inspect.quoted) ++ " matching " ++ search.text⟩

/-- Without names the service itself is asked for, else the first name that is bound. -/
def jndiVerdict (f : Facts) (names : List String) : Verdict :=
  if names.isEmpty then
    ⟨f.naming.isSome, "JNDI environment " ++ (if f.naming.isSome then "available" else "not available")⟩
  else match f.boundName? names with
    | some name => ⟨true, "found JNDI location '" ++ name ++ "'"⟩
    | none => ⟨false, "none of the JNDI locations " ++ Inspect.texts names ++ " could be resolved"⟩

def judge (f : Facts) (c : Component) (phase : Phase) (condition : Condition) : Except Fault Verdict :=
  match condition with
  | .classPresent name => .ok ⟨f.hasClass name, classMessage "required" name (f.hasClass name)⟩
  | .classAbsent name => .ok ⟨!f.hasClass name, classMessage "unwanted" name (f.hasClass name)⟩
  | .beanPresent search => (search.matching .onBean f c).map (beanPresence search)
  | .beanAbsent search => (search.matching .onMissingBean f c).map (beanAbsence search)
  | .property test => .ok (test.verdict (f.environment.plain? test.key))
  | .jndi names => .ok (jndiVerdict f names)
  | .webApplication => .ok ⟨f.kind == .web, webMessage (f.kind == .web)⟩
  | .notWebApplication => .ok ⟨!(f.kind == .web), webMessage (f.kind == .web)⟩
  | .custom own => (own.test f c phase).mapError (.customFailed c.id own.name)

end Condition
end Wiring
