import Wiring.Property.Environment
/-!
# Environments — several environments that share layers

Each environment has a layer of its own and stands on those of the environment it was layered over.  A change
of a layer is seen in every environment that stands on it.
-/
namespace Wiring
namespace Property

/-- A layer of its own and the numbers of the environments whose layers lie below, from the nearest down. -/
structure Stack where
  layer : Layer := {}
  below : List Nat := []

/-- Environments by number, and the process variables they all read. -/
structure Environments where
  vars : Variables := []
  members : List Stack := []

namespace Environments

def layer? (es : Environments) (i : Nat) : Option Layer := es.members[i]?.map (·.layer)

def view (es : Environments) (i : Nat) : Environment where
  vars := es.vars
  top := (es.layer? i).getD {}
  base := (es.members[i]?.elim [] (·.below)).filterMap es.layer?

/-- A new environment; its number is the count of those before it. -/
def create (es : Environments) : Environments := { es with members := es.members ++ [{}] }

def createOver (es : Environments) (i : Nat) : Environments :=
  { es with members := es.members ++ [{ below := i :: es.members[i]?.elim [] (·.below) }] }

def changeLayer (es : Environments) (i : Nat) (f : Layer → Layer) : Environments :=
  { es with members := es.members.modify i fun s => { s with layer := f s.layer } }

def add (es : Environments) (i : Nat) (s : Source) : Environments := es.changeLayer i (·.add s)

def setProfiles (es : Environments) (i : Nat) (profiles : List String) : Environments :=
  es.changeLayer i fun l => { l with profiles }

def setVariable (es : Environments) (name value : String) : Environments :=
  { es with vars := es.vars.set name value }

def unsetVariable (es : Environments) (name : String) : Environments :=
  { es with vars := es.vars.unset name }

end Environments
end Property
end Wiring
