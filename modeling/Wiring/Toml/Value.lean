import Wiring.Toml.Datetime
/-!
# Value — what a key of a TOML document holds
-/
namespace Wiring
namespace Toml

/-- The keys of a table are distinct and in ascending order. -/
inductive Value where
  | text (s : String)
  | integer (i : Int)
  | decimal (x : Float)
  | flag (b : Bool)
  | moment (d : Datetime)
  | array (items : List Value)
  | table (entries : List (String × Value))

abbrev Entries := List (String × Value)

def Entries.insert (key : String) (v : Value) : Entries → Entries
  | [] => [(key, v)]
  | e :: es => if key < e.1 then (key, v) :: e :: es else e :: Entries.insert key v es

end Toml
end Wiring
