/-
  The text of a JSON value.

  There are two layouts: one line without blanks, and indented by two blanks per level with a blank
  after each colon.  Containers without contents are `[]` and `{}` in both.  In strings the quote,
  the backslash and the characters below the blank are escaped, and nothing else is.
-/
import SampleSchema.Json.Basic
import SampleSchema.Text.Quoted

namespace SampleSchema

/-- How the text of a JSON value is laid out. -/
inductive Layout where
  | compact | indented
  deriving DecidableEq, Repr

namespace Layout

/-- What stands before an item at this depth, and before the bracket that closes the level. -/
def newline (l : Layout) (depth : Nat) : List Char :=
  match l with
  | compact => []
  | indented => '\n' :: List.replicate (2 * depth) ' '

/-- What stands between a key and its value. -/
def colon : Layout → List Char
  | compact => [':']
  | indented => [':', ' ']

end Layout

namespace Json

/-- How one character is written inside a string. -/
def escapedChar (c : Char) : List Char :=
  if c = '"' then ['\\', '"']
  else if c = '\\' then ['\\', '\\']
  else if c = '\n' then ['\\', 'n']
  else if c = '\r' then ['\\', 'r']
  else if c = '\t' then ['\\', 't']
  else if c = '\x08' then ['\\', 'b']
  else if c = '\x0c' then ['\\', 'f']
  else if c < ' ' then
    ['\\', 'u', '0', '0'] ++ (if c.toNat < 16 then ['0'] else []) ++ hexDigits c.toNat
  else [c]

/-- A string with its quotes. -/
def stringChars (s : String) : List Char := '"' :: s.toList.flatMap escapedChar ++ ['"']

mutual

/-- The text of a value that stands at this depth. -/
def chars (l : Layout) (depth : Nat) : Json → List Char
  | null => ['n', 'u', 'l', 'l']
  | bool true => ['t', 'r', 'u', 'e']
  | bool false => ['f', 'a', 'l', 's', 'e']
  | number n => n.text.toList
  | string s => stringChars s
  | array [] => ['[', ']']
  | array (x :: xs) =>
    '[' :: l.newline (depth + 1) ++ chars l (depth + 1) x ++ charsItems l (depth + 1) xs
      ++ l.newline depth ++ [']']
  | object [] => ['\x7b', '\x7d']
  | object ((k, x) :: es) =>
    '\x7b' :: l.newline (depth + 1) ++ stringChars k ++ l.colon ++ chars l (depth + 1) x
      ++ charsEntries l (depth + 1) es ++ l.newline depth ++ ['\x7d']

/-- The items after the first one, each with its comma. -/
def charsItems (l : Layout) (depth : Nat) : List Json → List Char
  | [] => []
  | x :: xs => ',' :: l.newline depth ++ chars l depth x ++ charsItems l depth xs

/-- The entries after the first one, each with its comma. -/
def charsEntries (l : Layout) (depth : Nat) : List (String × Json) → List Char
  | [] => []
  | (k, x) :: es =>
    ',' :: l.newline depth ++ stringChars k ++ l.colon ++ chars l depth x
      ++ charsEntries l depth es

end

/-- The text of a value. -/
def write (l : Layout) (v : Json) : String := String.ofList (v.chars l 0)

end Json
end SampleSchema
