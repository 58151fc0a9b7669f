/-
  Text between double quotes, as messages and summaries show it.

  A quote and a backslash are escaped, tab, carriage return, line feed and the null character have
  escapes of their own, every other character that cannot be printed is shown by number, and the
  rest stands for itself.  Names are shown between back quotes, and as they are.
-/
import SampleSchema.Text.Unprintable

namespace SampleSchema

/-- Lower-case hexadecimal digits of `n`. -/
def hexDigits (n : Nat) : List Char := Nat.toDigits 16 n

/-- How one character is shown between quotes. -/
def quotedChar (c : Char) : List Char :=
  if c = '\x00' then ['\\', '0']
  else if c = '\t' then ['\\', 't']
  else if c = '\r' then ['\\', 'r']
  else if c = '\n' then ['\\', 'n']
  else if c = '\\' then ['\\', '\\']
  else if c = '"' then ['\\', '"']
  else if unprintable.contains c then ['\\', 'u', '\x7b'] ++ hexDigits c.toNat ++ ['\x7d']
  else [c]

/-- The text between quotes. -/
def quoted (s : String) : String :=
  String.ofList ('"' :: s.toList.flatMap quotedChar ++ ['"'])

/-- A name between back quotes. -/
def ticked (s : String) : String := "`" ++ s ++ "`"

/-- The names that would have been right: one, either of two, or one of many. -/
def alternatives : List String → String
  | [a, b] => ticked a ++ " or " ++ ticked b
  | [a] => ticked a
  | names => "one of " ++ ", ".intercalate (names.map ticked)

end SampleSchema
