import AudioStream.Text.Decimal
import AudioStream.Toml.Scan

/-!
# Strings of TOML

A string is basic, with escapes, or literal, without; either form stands on one line between single
delimiters or over several lines between triple ones.  In the triple forms a line end right after the
opening delimiter is dropped, other line ends are kept as line feeds, and up to two more quotes may
stand before the closing delimiter.  Each reader takes the text after the opening delimiter and gives
the characters of the string and the text after the closing delimiter.
-/

namespace AudioStream.Toml

/-- The character that a short escape stands for. -/
def escaped? : Char → Option Char
  | 'b' => some '\x08'
  | 't' => some '\t'
  | 'n' => some '\n'
  | 'f' => some '\x0c'
  | 'r' => some '\r'
  | '\x22' => some '\x22'
  | '\x5c' => some '\x5c'
  | _ => none

/-- The character with the given hexadecimal number, if there is one. -/
def scalar? (cs : List Char) : Option Char :=
  let n := Decimal.ofDigits 16 cs
  if cs.all (Decimal.isDigit 16) && (n < 0xd800 || (0xe000 ≤ n && n < 0x110000)) then
    some (Char.ofNat n)
  else none

/-- Puts a character in front of the string that was read. -/
def andThen (c : Option Char) (tail : Option (List Char × List Char)) :
    Option (List Char × List Char) := do
  let c ← c
  let (cs, rest) ← tail
  some (c :: cs, rest)

def basic : List Char → Option (List Char × List Char)
  | [] => none
  | '\x22' :: rest => some ([], rest)
  | '\x5c' :: 'u' :: a :: b :: c :: d :: rest => andThen (scalar? [a, b, c, d]) (basic rest)
  | '\x5c' :: 'U' :: a :: b :: c :: d :: e :: f :: g :: h :: rest =>
    andThen (scalar? [a, b, c, d, e, f, g, h]) (basic rest)
  | '\x5c' :: c :: rest => andThen (escaped? c) (basic rest)
  | c :: rest => if isPlain c then andThen (some c) (basic rest) else none

def literal : List Char → Option (List Char × List Char)
  | [] => none
  | '\x27' :: rest => some ([], rest)
  | c :: rest => if isPlain c then andThen (some c) (literal rest) else none

/-- What closes a string over several lines: three quotes, with up to two more that belong to the
string. -/
def closing? (q : Char) : List Char → Option (List Char × List Char)
  | a :: b :: c :: rest =>
    if a = q ∧ b = q ∧ c = q then
      match rest with
      | d :: e :: rest' =>
        if d = q ∧ e = q then some ([q, q], rest')
        else if d = q then some ([q], e :: rest')
        else some ([], rest)
      | [d] => if d = q then some ([q], []) else some ([], rest)
      | [] => some ([], [])
    else none
  | _ => none

/-- Whether only blanks stand before the next line end. -/
def blankToLineEnd (cs : List Char) : Bool :=
  match skipBlanks cs with
  | '\n' :: _ | '\r' :: '\n' :: _ => true
  | _ => false

/-- A basic string over several lines.  A backslash at the end of a line takes away the line end and
all blanks and line ends after it; the flag says whether these are being taken away. -/
def basicLines : Bool → List Char → Option (List Char × List Char)
  | _, [] => none
  | trim, '\n' :: rest => if trim then basicLines true rest else andThen (some '\n') (basicLines false rest)
  | trim, '\r' :: '\n' :: rest =>
    if trim then basicLines true rest else andThen (some '\n') (basicLines false rest)
  | _, '\x5c' :: 'u' :: a :: b :: c :: d :: rest =>
    andThen (scalar? [a, b, c, d]) (basicLines false rest)
  | _, '\x5c' :: 'U' :: a :: b :: c :: d :: e :: f :: g :: h :: rest =>
    andThen (scalar? [a, b, c, d, e, f, g, h]) (basicLines false rest)
  | _, '\x5c' :: rest =>
    if blankToLineEnd rest then basicLines true rest
    else
      match rest with
      | c :: rest => andThen (escaped? c) (basicLines false rest)
      | [] => none
  | trim, c :: rest =>
    if trim && isBlank c then basicLines true rest
    else
      match closing? '\x22' (c :: rest) with
      | some closed => some closed
      | none => if isPlain c then andThen (some c) (basicLines false rest) else none

def literalLines : List Char → Option (List Char × List Char)
  | [] => none
  | '\n' :: rest => andThen (some '\n') (literalLines rest)
  | '\r' :: '\n' :: rest => andThen (some '\n') (literalLines rest)
  | c :: rest =>
    match closing? '\x27' (c :: rest) with
    | some closed => some closed
    | none => if isPlain c then andThen (some c) (literalLines rest) else none

/-- The text after a line end that stands right at its beginning, or the whole text. -/
def dropLineEnd : List Char → List Char
  | '\n' :: rest => rest
  | '\r' :: '\n' :: rest => rest
  | rest => rest

/-- A string of any form, and the rest of the text.  It begins with its opening delimiter. -/
def quoted : List Char → Option (List Char × List Char)
  | '\x22' :: '\x22' :: '\x22' :: rest => basicLines false (dropLineEnd rest)
  | '\x27' :: '\x27' :: '\x27' :: rest => literalLines (dropLineEnd rest)
  | '\x22' :: rest => basic rest
  | '\x27' :: rest => literal rest
  | _ => none

end AudioStream.Toml
