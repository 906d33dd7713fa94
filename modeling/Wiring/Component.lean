import Wiring.Names
import Wiring.Text.Inspect
import Wiring.TypeName
/-!
# Component — what a candidate says about itself, conditions apart
-/
namespace Wiring

/-- When a candidate is looked at: all of the first phase before any of the second. -/
inductive Phase where
  | parseConfiguration
  | registerBean
  deriving DecidableEq

namespace Phase

def all : List Phase := [.parseConfiguration, .registerBean]

def text : Phase → String
  | .parseConfiguration => "PARSE_CONFIGURATION"
  | .registerBean => "REGISTER_BEAN"

def tag : Phase → String
  | .parseConfiguration => "parse-configuration"
  | .registerBean => "register-bean"

def ofTag? (s : String) : Option Phase := all.find? (·.tag == s)

def inspect : Phase → String
  | .parseConfiguration => "ParseConfiguration"
  | .registerBean => "RegisterBean"

end Phase

/-- Where a bean condition looks: here, in the parent alone, or here and in all ancestors. -/
inductive SearchScope where
  | current
  | parents
  | all
  deriving DecidableEq

namespace SearchScope

def text : SearchScope → String
  | .current => "CURRENT"
  | .parents => "PARENTS"
  | .all => "ALL"

def tag : SearchScope → String
  | .current => "current"
  | .parents => "parents"
  | .all => "all"

def ofTag? (s : String) : Option SearchScope := [current, parents, all].find? (·.tag == s)

def inspect : SearchScope → String
  | .current => "Current"
  | .parents => "Parents"
  | .all => "All"

end SearchScope

/-- A component that may come to be: its id, the types it registers, the type it is a factory for, its phase,
where its bean conditions look, and the ids it wants to come after or before. -/
structure Component where
  id : String
  types : List String := []
  produces : Option String := none
  phase : Phase := .registerBean
  search : Option SearchScope := none
  after : List String := []
  before : List String := []
  deriving DecidableEq

namespace Component

/-- A factory for a type, under the bean name that the type gives. -/
def forType (produces : String) : Component := { id := TypeName.beanName produces, produces := some produces }

/-- The declared types and then the produced one, each once. -/
def registeredTypes (c : Component) : List String := Names.distinct (c.types ++ c.produces.toList)

end Component
end Wiring
