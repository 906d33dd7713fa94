/-!
# Json — values and their printed form

Printing puts each element of a list and each field of a record on a line of its own, two spaces deeper than
its bracket; an empty list or record closes at once.
-/
namespace Wiring

/-- The values a report is made of.  The fields of a record keep their order. -/
inductive Json where
  | flag (b : Bool)
  | text (s : String)
  | list (items : List Json)
  | record (fields : List (String × Json))

namespace Json

/-- A character inside a quoted text: the quote, the backslash and five controls by letter, the other controls
by four hexadecimal digits. -/
def escaped (c : Char) : List Char :=
  if c = '"' then ['\\', '"']
  else if c = '\\' then ['\\', '\\']
  else if c = Char.ofNat 8 then ['\\', 'b']
  else if c = Char.ofNat 12 then ['\\', 'f']
  else if c = '\n' then ['\\', 'n']
  else if c = '\r' then ['\\', 'r']
  else if c = '\t' then ['\\', 't']
  else if c.toNat < 0x20 then ['\\', 'u', '0', '0', Nat.digitChar (c.toNat / 16), Nat.digitChar (c.toNat % 16)]
  else [c]

def quoted (s : String) : List Char := '"' :: s.toList.flatMap escaped ++ ['"']

def newline (depth : Nat) : List Char := '\n' :: List.replicate (2 * depth) ' '

mutual

def printed (depth : Nat) : Json → List Char
  | .flag true => ['t', 'r', 'u', 'e']
  | .flag false => ['f', 'a', 'l', 's', 'e']
  | .text s => quoted s
  | .list [] => ['[', ']']
  | .list (x :: xs) =>
    '[' :: newline (depth + 1) ++ printed (depth + 1) x ++ moreItems (depth + 1) xs ++ newline depth ++ [']']
  | .record [] => ['\x7b', '\x7d']
  | .record ((name, x) :: fields) =>
    '\x7b' :: newline (depth + 1) ++ quoted name ++ ':' :: ' ' :: printed (depth + 1) x
      ++ moreFields (depth + 1) fields ++ newline depth ++ ['\x7d']

/-- Each further element after a comma. -/
def moreItems (depth : Nat) : List Json → List Char
  | [] => []
  | x :: xs => ',' :: newline depth ++ printed depth x ++ moreItems depth xs

/-- Each further field after a comma. -/
def moreFields (depth : Nat) : List (String × Json) → List Char
  | [] => []
  | (name, x) :: fields =>
    ',' :: newline depth ++ quoted name ++ ':' :: ' ' :: printed depth x ++ moreFields depth fields

end

def pretty (x : Json) : String := String.ofList (printed 0 x)

example : pretty (.record [("a", .list [.flag true, .text "\n"]), ("b", .list [])])
    = "\x7b\n  \"a\": [\n    true,\n    \"\\n\"\n  ],\n  \"b\": []\n\x7d" := by decide +kernel

end Json
end Wiring
