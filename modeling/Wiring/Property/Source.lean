import Wiring.Fault
import Wiring.Property.Leaves
import Wiring.Property.Variables
import Wiring.Toml.Document
/-!
# Source — where properties come from
-/
namespace Wiring
namespace Property

inductive Contents where
  /-- Keys with values; of several entries of a key the last one counts. -/
  | settings (entries : List (String × Value))
  | process (start : String)
  /-- What a program brings of its own. -/
  | custom (value? : String → Option Value)

/-- A named source.  The greater its priority the sooner it is asked. -/
structure Source where
  name : String
  priority : Int
  contents : Contents

def lastOf? (entries : List (String × Value)) (key : String) : Option Value := entries.reverse.lookup key

namespace Source

def get? (vars : Variables) (s : Source) (key : String) : Option Value :=
  match s.contents with
  | .settings entries => lastOf? entries key
  | .process start => (vars.get? (start ++ Variables.nameOf key)).map .text
  | .custom value? => value? key

def ofPairs (name : String) (entries : List (String × Value)) : Source := ⟨name, 50, .settings entries⟩

def ofVariables (start : String) : Source := ⟨"environment", 100, .process start⟩

/-- The properties of a document; a text that is none is a fault. -/
def ofToml (reader : Toml.Reader) (name content : String) : Except Fault Source :=
  match reader.value content with
  | .ok document => .ok ⟨name, 0, .settings (leaves reader.moment document)⟩
  | .error fault => .error (.propertySource name fault)

end Source
end Property
end Wiring
