import Wiring.Toml.Scan
/-!
# Strings — quoted text, bare words and keys

A text is quoted once or three times, with escapes between double quotes and without between single ones.
Three quotes let it run over lines.
-/
namespace Wiring
namespace Toml

open Scan

/-- Tab and what is neither a control character nor DEL. -/
def isShown (c : Char) : Bool := c == '\t' || (decide (' ' ≤ c) && c != Char.ofNat 0x7F)

def isHexDigit (c : Char) : Bool :=
  (decide ('0' ≤ c) && decide (c ≤ '9')) || (decide ('a' ≤ c) && decide (c ≤ 'f')) ||
    (decide ('A' ≤ c) && decide (c ≤ 'F'))

def hexValue (c : Char) : Nat :=
  if c ≤ '9' then c.toNat - '0'.toNat
  else if c ≤ 'F' then c.toNat - 'A'.toNat + 10
  else c.toNat - 'a'.toNat + 10

def natOfHex (ds : List Char) : Nat := ds.foldl (fun n c => 16 * n + hexValue c) 0

def blanks : Scan Unit := do
  let _ ← takeWhile fun c => c == ' ' || c == '\t'

/-- A line feed, alone or after a carriage return. -/
def newline : Scan Unit := char '\n' <|> word ['\r', '\n']

/-- The character that a code point given in hexadecimal names; surrogates and numbers beyond the last code
point name none. -/
def codePoint (digits : Nat) : Scan Char := do
  let n := natOfHex (← count digits isHexDigit)
  guard (n.isValidChar)
  pure (Char.ofNat n)

def escape : Scan Char := do
  match ← satisfy fun _ => true with
  | 'b' => pure (Char.ofNat 8)
  | 'f' => pure (Char.ofNat 12)
  | 'n' => pure '\n'
  | 'r' => pure '\r'
  | 't' => pure '\t'
  | '"' => pure '"'
  | '\\' => pure '\\'
  | 'u' => codePoint 4
  | 'U' => codePoint 8
  | _ => failure

def doubleQuote : Char := Char.ofNat 0x22

def singleQuote : Char := Char.ofNat 0x27

def basicChar : Scan Char :=
  satisfy (fun c => isShown c && c != doubleQuote && c != '\\') <|> (char '\\' *> escape)

def basicString : Scan (List Char) := char doubleQuote *> many basicChar <* char doubleQuote

def literalString : Scan (List Char) :=
  char singleQuote *> takeWhile (fun c => isShown c && c != singleQuote) <* char singleQuote

/-- One or two quotes that do not belong to the closing three. -/
def innerQuotes (q : Char) : Scan (List Char) := fun
  | a :: b :: c :: s =>
    if a = q ∧ b ≠ q then some ([q], b :: c :: s)
    else if a = q ∧ b = q ∧ c ≠ q then some ([q, q], c :: s)
    else none
  | a :: b :: s => if a = q ∧ b ≠ q then some ([q], b :: s) else none
  | _ => none

/-- The closing three quotes, and the one or two in front of them that still belong to the text. -/
def closingQuotes (q : Char) : Scan (List Char) :=
  (word [q, q, q, q, q] *> pure [q, q]) <|> (word [q, q, q, q] *> pure [q]) <|> (word [q, q, q] *> pure [])

/-- A backslash at the end of a line takes that end and all blanks and line breaks up to the next character. -/
def lineJoint : Scan (List Char) := do
  char '\\'
  blanks
  newline
  let _ ← many ((char ' ') <|> char '\t' <|> newline)
  pure []

/-- A piece of a text between three double quotes; every line break counts as a line feed. -/
def longBasicPiece : Scan (List Char) :=
  lineJoint <|> (do pure [← basicChar]) <|> (newline *> pure ['\n']) <|> innerQuotes doubleQuote

/-- A piece of a text between three single quotes; every line break counts as a line feed. -/
def longLiteralPiece : Scan (List Char) :=
  (do pure [← satisfy fun c => isShown c && c != singleQuote]) <|> (newline *> pure ['\n']) <|>
    innerQuotes singleQuote

/-- A text between three quotes; a line break right behind the opening ones does not count. -/
def longString (q : Char) (piece : Scan (List Char)) : Scan (List Char) := do
  word [q, q, q]
  let _ ← opt newline
  let body ← many piece
  let last ← closingQuotes q
  pure (body.flatten ++ last)

def quotedString : Scan String := do
  let cs ← longString doubleQuote longBasicPiece <|> longString singleQuote longLiteralPiece <|> basicString <|>
    literalString
  pure (String.ofList cs)

def isBareKeyChar (c : Char) : Bool :=
  (decide ('a' ≤ c) && decide (c ≤ 'z')) || (decide ('A' ≤ c) && decide (c ≤ 'Z')) ||
    (decide ('0' ≤ c) && decide (c ≤ '9')) || c == '_' || c == '-'

/-- A bare word, or a text quoted on one line. -/
def simpleKey : Scan String := do
  let cs ← basicString <|> literalString <|> takeWhile1 isBareKeyChar
  pure (String.ofList cs)

/-- Keys have fewer parts than this, and values nest less deep. -/
def nestingLimit : Nat := 80

/-- A key in parts joined by dots, with blanks around each; its parents and its last part. -/
def dottedKey : Scan (List String × String) := do
  let parts ← separated (blanks *> simpleKey <* blanks) (char '.')
  guard (parts.length < nestingLimit)
  match parts.reverse with
  | last :: parents => pure (parents.reverse, last)
  | [] => failure

end Toml
end Wiring
