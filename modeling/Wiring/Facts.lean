import Wiring.Component
import Wiring.Hierarchy
import Wiring.Property.Environment
/-!
# Facts — what conditions are judged by

A context knows which classes there are, its properties, its naming service, its type hierarchy, the beans
registered in it and its kind.  Facts are a context with its ancestors.
-/
namespace Wiring

open Property (Environment)

inductive ApplicationKind where
  | standard
  | web
  deriving DecidableEq

def ApplicationKind.inspect : ApplicationKind → String
  | .standard => "Standard"
  | .web => "Web"

/-- A registration was there from the start, or a candidate made it. -/
inductive Origin where
  | initial
  | candidate
  deriving DecidableEq

def Origin.inspect : Origin → String
  | .initial => "Initial"
  | .candidate => "Candidate"

structure Registration where
  name : String
  types : List String
  origin : Origin
  deriving DecidableEq

def Registration.inspect (r : Registration) : String :=
  Inspect.record "BeanRegistration"
    [("name", Inspect.quoted r.name), ("types", Inspect.texts r.types), ("source", r.origin.inspect)]

/-- A naming service says what is bound under a name. -/
abbrev NamingService := String → Option String

structure Context where
  classes : String → Bool := fun _ => false
  environment : Environment := {}
  naming : Option NamingService := none
  hierarchy : Hierarchy := {}
  registrations : List Registration := []
  kind : ApplicationKind := .standard

namespace Context

/-- A class is there when its name is well formed and it is known. -/
def hasClass (c : Context) (name : String) : Bool := TypeName.isWellFormed name && c.classes name

/-- The registration has a type that can stand for the given one in this context. -/
def isOfType (c : Context) (r : Registration) (type : String) : Bool :=
  r.types.any fun t => c.hierarchy.isAssignable t type

def boundName? (c : Context) (names : List String) : Option String :=
  match c.naming with
  | none => none
  | some service => names.find? fun n => (service n).isSome

def register (c : Context) (r : Registration) : Context := { c with registrations := c.registrations ++ [r] }

end Context

/-- A context and its ancestors, from the parent up. -/
structure Facts extends Context where
  ancestors : List Context := []

namespace Facts

def contexts (f : Facts) : List Context := f.toContext :: f.ancestors

def parent? (f : Facts) : Option Facts :=
  match f.ancestors with
  | [] => none
  | c :: cs => some ⟨c, cs⟩

def reach (f : Facts) (ancestors : Bool) : List Context := if ancestors then f.contexts else [f.toContext]

/-- The facts where a scope begins to look; the parents' scope needs a parent. -/
def searched? (f : Facts) : SearchScope → Option Facts
  | .parents => f.parent?
  | .current | .all => some f

def namesIn (cs : List Context) (p : Context → Registration → Bool) : List String :=
  Names.ofList (cs.flatMap fun c => (c.registrations.filter (p c)).map (·.name))

/-- The beans of a type, each context by its own hierarchy. -/
def beansOfType (f : Facts) (type : String) (ancestors : Bool) : List String :=
  namesIn (f.reach ancestors) fun c r => c.isOfType r type

def containsBean (f : Facts) (name : String) (ancestors : Bool) : Bool :=
  (f.reach ancestors).any fun c => c.registrations.any (·.name == name)

def activate (f : Facts) (c : Component) : Facts :=
  { f with toContext := f.toContext.register ⟨c.id, c.registeredTypes, .candidate⟩ }

def inspect (f : Facts) : String :=
  Inspect.record "FactStore"
    [("registrations", Inspect.list (f.registrations.map (·.inspect))), ("application_kind", f.kind.inspect),
      ("jndi_available", Inspect.flag f.naming.isSome), ("has_parent", Inspect.flag !f.ancestors.isEmpty)]

end Facts
end Wiring
