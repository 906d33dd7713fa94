import Wiring.Facts
/-!
# Blueprint — the settings that facts are built from
-/
namespace Wiring

open Property (Environment Source)

/-- Everything given about a context before it exists.  Inline properties win over all others. -/
structure Blueprint where
  classes : Option (String → Bool) := none
  environment : Option Environment := none
  properties : List (String × String) := []
  naming : Option NamingService := none
  supertypes : List (String × List String) := []
  beans : List (String × List String) := []
  kind : ApplicationKind := .standard
  parent : Option Facts := none

namespace Blueprint

/-- The environment with the inline properties in a layer of their own on top; without any it stays as it is. -/
def builtEnvironment (b : Blueprint) : Environment :=
  let environment := b.environment.getD {}
  if b.properties.isEmpty then environment
  else environment.layered.add ⟨"inlineFacts", 1000, .settings (b.properties.map fun p => (p.1, .text p.2))⟩

def build (b : Blueprint) : Facts where
  classes := b.classes.getD fun _ => false
  environment := b.builtEnvironment
  naming := b.naming
  hierarchy := b.supertypes.foldl (fun h p => h.declare p.1 p.2) {}
  registrations := b.beans.map fun p => ⟨p.1, p.2, .initial⟩
  kind := b.kind
  ancestors := b.parent.elim [] (·.contexts)

end Blueprint
end Wiring
