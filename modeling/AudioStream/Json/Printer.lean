import AudioStream.Datum.Basic
import AudioStream.Text.Decimal

/-!
# Writing JSON

A value is written in one line without blanks.  Within strings only the quote, the backslash and the
control characters below the blank are escaped, the common ones by a letter and the others by four
lower-case hexadecimal digits.
-/

namespace AudioStream.Json

def escape (c : Char) : List Char :=
  match c with
  | '\x22' => ['\x5c', '\x22']
  | '\x5c' => ['\x5c', '\x5c']
  | '\x08' => ['\x5c', 'b']
  | '\x0c' => ['\x5c', 'f']
  | '\n' => ['\x5c', 'n']
  | '\r' => ['\x5c', 'r']
  | '\t' => ['\x5c', 't']
  | c => if c < ' ' then '\x5c' :: 'u' :: Decimal.hexLower 4 c.toNat else [c]

def quote (s : String) : List Char := '\x22' :: s.toList.flatMap escape ++ ['\x22']

def commas (texts : List (List Char)) : List Char := [','].intercalate texts

mutual

/-- The characters of a value.  An unreadable value is written as nothing at all would be. -/
def chars : Datum → List Char
  | .null => ['n', 'u', 'l', 'l']
  | .bool true => ['t', 'r', 'u', 'e']
  | .bool false => ['f', 'a', 'l', 's', 'e']
  | .int n => Decimal.chars n
  | .real numeral => numeral.toList
  | .text s => quote s
  | .list items => '[' :: commas (itemChars items) ++ [']']
  | .record members => '\x7b' :: commas (memberChars members) ++ ['\x7d']
  | .unreadable => ['n', 'u', 'l', 'l']

def itemChars : List Datum → List (List Char)
  | [] => []
  | d :: ds => chars d :: itemChars ds

/-- The characters of each member of a record: its key, a colon and its value. -/
def memberChars : List (String × Datum) → List (List Char)
  | [] => []
  | (key, d) :: ms => (quote key ++ ':' :: chars d) :: memberChars ms

end

def render (d : Datum) : String := String.ofList (chars d)

end AudioStream.Json
