import Wiring.Property.Source
import Wiring.Ranking
import Wiring.Text.Inspect
import Wiring.Text.Items
/-!
# Environment — properties from layers of sources

A key is looked up from the top layer down; within a layer the source of greatest priority that has it answers,
of several such the one added first.
-/
namespace Wiring
namespace Property

/-- Sources in the order in which they are asked, and the profiles set on this layer. -/
structure Layer where
  sources : List Source := []
  profiles : List String := []

namespace Layer

def add (l : Layer) (s : Source) : Layer :=
  { l with sources := Ranking.insert (fun a b => decide (b.priority < a.priority)) s l.sources }

def get? (vars : Variables) (l : Layer) (key : String) : Option Value := l.sources.findSome? (·.get? vars key)

theorem mem_add {l : Layer} {s t : Source} : t ∈ (l.add s).sources ↔ t = s ∨ t ∈ l.sources := Ranking.mem_insert

end Layer

/-- A top layer, the layers below it from the nearest down, and the process variables. -/
structure Environment where
  vars : Variables := []
  top : Layer := {}
  base : List Layer := []

namespace Environment

def layers (e : Environment) : List Layer := e.top :: e.base

def get? (e : Environment) (key : String) : Option Value := e.layers.findSome? (·.get? e.vars key)

/-- The text that conditions compare. -/
def plain? (e : Environment) (key : String) : Option String := (e.get? key).bind Value.plain?

def text? (e : Environment) (key : String) : Option String := (e.get? key).bind Value.text?

def flag? (e : Environment) (key : String) : Option Bool := (e.get? key).bind Value.flag?

def flagOr (e : Environment) (key : String) (default : Bool) : Bool := (e.flag? key).getD default

/-- A list of texts: the texts of a list, or the items of one comma-separated text. -/
def texts? (e : Environment) (key : String) : Option (List String) :=
  match e.get? key with
  | some (.list xs) => some (xs.filterMap Value.text?)
  | some (.text s) => some (Text.items s)
  | _ => none

def activeProfiles (e : Environment) : List String :=
  ((e.layers.map (·.profiles)).find? fun ps => !ps.isEmpty).getD []

def add (e : Environment) (s : Source) : Environment := { e with top := e.top.add s }

def setProfiles (e : Environment) (profiles : List String) : Environment :=
  { e with top := { e.top with profiles } }

def layered (e : Environment) : Environment := { e with top := {}, base := e.layers }

def inspect (e : Environment) : String :=
  Inspect.record "Environment"
    [("active_profiles", Inspect.texts e.top.profiles), ("sources_count", toString e.top.sources.length),
      ("layered", Inspect.flag !e.base.isEmpty)]

end Environment
end Property
end Wiring
