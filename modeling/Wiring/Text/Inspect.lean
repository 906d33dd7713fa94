import Wiring.Text.Printable
/-!
# Inspect — the inspection form of values

Diagnostics show a value in one line: texts quoted, lists in brackets, sets in braces, records as
`Name { field: value, .. }` and wrapped values as `Name(value)`.
-/
namespace Wiring
namespace Inspect

open Text (isPrintable)

/-- A quoted character: the quote and the backslash escaped, four controls by letter, what is not printable by
its code point in lower-case hexadecimal without padding. -/
def escaped (c : Char) : List Char :=
  if c = '"' then ['\\', '"']
  else if c = '\\' then ['\\', '\\']
  else if c = '\n' then ['\\', 'n']
  else if c = '\r' then ['\\', 'r']
  else if c = '\t' then ['\\', 't']
  else if c = Char.ofNat 0 then ['\\', '0']
  else if isPrintable c then [c]
  else ['\\', 'u', '\x7b'] ++ Nat.toDigits 16 c.toNat ++ ['\x7d']

def quoted (s : String) : String := String.ofList ('"' :: s.toList.flatMap escaped ++ ['"'])

example : quoted "a\"\\\n" = "\"a\\\"\\\\\\n\"" := by decide +kernel

example : quoted (String.ofList [Char.ofNat 0x1B, 'é', Char.ofNat 0x301]) = "\"\\u\x7b1b\x7dé\\u\x7b301\x7d\"" := by
  decide +kernel

def joined (items : List String) : String := ", ".intercalate items

def list (items : List String) : String := "[" ++ joined items ++ "]"

def set (items : List String) : String := "\x7b" ++ joined items ++ "\x7d"

def texts (items : List String) : String := list (items.map quoted)

def option : Option String → String
  | none => "None"
  | some item => "Some(" ++ item ++ ")"

def flag (b : Bool) : String := if b then "true" else "false"

def record (name : String) (fields : List (String × String)) : String :=
  name ++ " \x7b " ++ joined (fields.map fun f => f.1 ++ ": " ++ f.2) ++ " \x7d"

def wrapped (name : String) (parts : List String) : String := name ++ "(" ++ joined parts ++ ")"

end Inspect
end Wiring
