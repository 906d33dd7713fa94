import Wiring.Toml.Numbers
import Wiring.Toml.Tree
/-!
# Expression — the lines of a document: keys with their values, and headers
-/
namespace Wiring
namespace Toml

open Scan

/-- A line that says something: a key with its value, the header of a table, or that of an array's next
table. -/
inductive Expression where
  | pair (path : List String) (key : String) (v : Value)
  | header (path : List String) (key : String)
  | element (path : List String) (key : String)

def comment : Scan Unit := do
  char '#'
  let _ ← takeWhile isShown

/-- Blanks, line breaks and comments between the parts of an array.  A comment ends with its line. -/
def gap : Scan Unit := do
  let _ ← many (char ' ' <|> char '\t' <|> newline <|> (comment *> newline))

def boolean : Scan Bool :=
  (word ['t', 'r', 'u', 'e'] *> pure true) <|> (word ['f', 'a', 'l', 's', 'e'] *> pure false)

/-- A value without parts.  What can be a moment of time is one, then a decimal, then an integer. -/
def scalar : Scan Value :=
  (Value.text <$> quotedString) <|> (Value.moment <$> datetime) <|> (Value.decimal <$> decimal) <|>
    (Value.integer <$> integer) <|> (Value.flag <$> boolean)

def array (item : Scan Value) : Scan Value := do
  char '['
  let items ← separated (gap *> item <* gap) (char ',')
  unless items.isEmpty do
    let _ ← opt (char ',')
  gap
  char ']'
  pure (.array items)

def assignment (item : Scan Value) : Scan ((List String × String) × Value) := do
  let key ← dottedKey
  char '='
  blanks
  pure (key, ← item)

/-- Keys with values in braces on one line, separated by commas. -/
def inlineTable (item : Scan Value) : Scan Value := do
  char '\x7b'
  let pairs ← separated (assignment item <* blanks) (char ',')
  blanks
  char '\x7d'
  let entries ← pairs.foldlM (fun (b : Branch) p => b.define p.1.1 p.1.2 p.2) []
  pure (.table (finishedEntries entries))

/-- A value in which arrays and inline tables nest at most so deep. -/
def value : Nat → Scan Value
  | 0 => scalar
  | depth + 1 => scalar <|> array (value depth) <|> inlineTable (value depth)

/-- Blanks and a comment up to the end of the line or of the text. -/
def lineEnd : Scan Unit := do
  blanks
  let _ ← opt comment
  newline <|> eof

def expression : Scan Expression :=
  (do
    word ['[', '[']
    let (path, key) ← dottedKey
    word [']', ']']
    pure (.element path key)) <|>
  (do
    char '['
    let (path, key) ← dottedKey
    char ']'
    pure (.header path key)) <|>
  (do
    let ((path, key), v) ← assignment (value (nestingLimit - 1))
    pure (.pair path key v))

def line : Scan (Option Expression) := do
  blanks
  match ← opt newline with
  | some _ => pure none
  | none => do
    let commented ← opt comment
    if commented.isSome then
      newline <|> eof
      pure none
    else do
      let e ← expression
      lineEnd
      pure (some e)

/-- The expressions of a text, which may begin with a byte-order mark. -/
def expressions? (s : List Char) : Option (List Expression) :=
  let body := match s with
    | c :: r => if c = Char.ofNat 0xFEFF then r else s
    | [] => []
  (whole? (many line <* blanks) body).map (·.filterMap id)

end Toml
end Wiring
