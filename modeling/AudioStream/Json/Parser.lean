import AudioStream.Datum.Basic
import AudioStream.Text.Decimal

/-!
# Reading JSON

A JSON text is one value between blanks.  The reader is strict: no comma may stand before a closing
bracket, a numeral has no needless zeros, and a control character stands in a string only by its
escape.  A numeral with a fraction or an exponent, and minus zero, is no integer.  A string with an
escaped half of a surrogate pair is well formed but unreadable.
-/

namespace AudioStream.Json

/-- The characters that may stand between tokens. -/
def isBlank (c : Char) : Bool := c == ' ' || c == '\t' || c == '\n' || c == '\r'

def skip (cs : List Char) : List Char := cs.dropWhile isBlank

/-- A part of a string: a character, or the code unit of a `\u` escape. -/
inductive Piece where
  | char (c : Char)
  | unit (n : Nat)

/-- The character that a short escape stands for. -/
def escaped? : Char → Option Char
  | '\x22' => some '\x22'
  | '\x5c' => some '\x5c'
  | '/' => some '/'
  | 'b' => some '\x08'
  | 'f' => some '\x0c'
  | 'n' => some '\n'
  | 'r' => some '\r'
  | 't' => some '\t'
  | _ => none

/-- The number of four hexadecimal digits. -/
def unit? (cs : List Char) : Option Nat :=
  if cs.all (Decimal.isDigit 16) then some (Decimal.ofDigits 16 cs) else none

/-- The parts of a string up to its closing quote, and the rest of the text. -/
def pieces : List Char → Option (List Piece × List Char)
  | [] => none
  | '\x22' :: rest => some ([], rest)
  | '\x5c' :: 'u' :: a :: b :: c :: d :: rest => do
    let n ← unit? [a, b, c, d]
    let (ps, rest) ← pieces rest
    some (.unit n :: ps, rest)
  | '\x5c' :: c :: rest => do
    let c ← escaped? c
    let (ps, rest) ← pieces rest
    some (.char c :: ps, rest)
  | c :: rest =>
    if c < ' ' then none
    else do
      let (ps, rest) ← pieces rest
      some (.char c :: ps, rest)

/-- Whether a code unit is the first half of a surrogate pair. -/
def isHighHalf (n : Nat) : Bool := 0xd800 ≤ n && n < 0xdc00

/-- Whether a code unit is the second half of a surrogate pair. -/
def isLowHalf (n : Nat) : Bool := 0xdc00 ≤ n && n < 0xe000

/-- The characters of the parts of a string.  Two halves side by side make one character; a half on
its own makes the string unreadable. -/
def assemble : List Piece → Option (List Char)
  | [] => some []
  | .char c :: ps => (assemble ps).map (c :: ·)
  | .unit n :: .unit m :: ps =>
    if isHighHalf n then
      if isLowHalf m then
        (assemble ps).map (Char.ofNat (0x10000 + (n - 0xd800) * 0x400 + (m - 0xdc00)) :: ·)
      else none
    else if isLowHalf n then none
    else (assemble (.unit m :: ps)).map (Char.ofNat n :: ·)
  | .unit n :: ps =>
    if isHighHalf n || isLowHalf n then none else (assemble ps).map (Char.ofNat n :: ·)

/-- A string after its opening quote, and the rest; the string is `none` if it is unreadable. -/
def string (cs : List Char) : Option (Option String × List Char) := do
  let (ps, rest) ← pieces cs
  some ((assemble ps).map String.ofList, rest)

/-- The decimal digits at the front of a text, and the rest. -/
def digits (cs : List Char) : List Char × List Char :=
  (cs.takeWhile (Decimal.isDigit 10), cs.dropWhile (Decimal.isDigit 10))

/-- The fraction at the front of a text, if any: a point and at least one digit. -/
def fraction (cs : List Char) : Option (List Char × List Char) :=
  match cs with
  | '.' :: rest =>
    match digits rest with
    | ([], _) => none
    | (ds, rest) => some ('.' :: ds, rest)
  | _ => some ([], cs)

/-- The exponent at the front of a text, if any: a letter, perhaps a sign, and at least one digit. -/
def exponent (cs : List Char) : Option (List Char × List Char) :=
  match cs with
  | c :: rest =>
    if c = 'e' ∨ c = 'E' then
      let (sign, rest) := match rest with
        | '+' :: rest => (['+'], rest)
        | '-' :: rest => (['-'], rest)
        | rest => ([], rest)
      match digits rest with
      | ([], _) => none
      | (ds, rest) => some (c :: sign ++ ds, rest)
    else some ([], cs)
  | [] => some ([], [])

/-- The digits of the whole part of a numeral: a single zero, or digits that start with another. -/
def whole (cs : List Char) : Option (List Char × List Char) :=
  match digits cs with
  | ([], _) => none
  | ('0' :: _ :: _, _) => none
  | (ds, rest) => some (ds, rest)

def number (cs : List Char) : Option (Datum × List Char) := do
  let (negative, rest) := match cs with
    | '-' :: rest => (true, rest)
    | rest => (false, rest)
  let (ds, rest) ← whole rest
  let (frac, rest) ← fraction rest
  let (exp, rest) ← exponent rest
  let n := Decimal.ofDigits 10 ds
  if frac.isEmpty && exp.isEmpty && !(negative && n == 0) then
    some (.int (if negative then -(n : Int) else n), rest)
  else
    some (.real (String.ofList ((if negative then ['-'] else []) ++ ds ++ frac ++ exp)), rest)

/-- A record of the members read, unless one of the keys is unreadable. -/
def recordOf (members : List (Option String × Datum)) : Datum :=
  match members.mapM fun m => m.1.map fun key => (key, m.2) with
  | some members => .record members
  | none => .unreadable

mutual

/-- A value and the rest of the text.  The first argument bounds the number of steps. -/
def value : Nat → List Char → Option (Datum × List Char)
  | 0, _ => none
  | fuel + 1, cs =>
    match skip cs with
    | '\x22' :: rest => do
      let (s, rest) ← string rest
      some (s.elim .unreadable .text, rest)
    | '[' :: rest =>
      match skip rest with
      | ']' :: rest => some (.list [], rest)
      | rest => do
        let (items, rest) ← items fuel rest
        some (.list items, rest)
    | '\x7b' :: rest =>
      match skip rest with
      | '\x7d' :: rest => some (.record [], rest)
      | rest => do
        let (members, rest) ← members fuel rest
        some (recordOf members, rest)
    | 'n' :: 'u' :: 'l' :: 'l' :: rest => some (.null, rest)
    | 't' :: 'r' :: 'u' :: 'e' :: rest => some (.bool true, rest)
    | 'f' :: 'a' :: 'l' :: 's' :: 'e' :: rest => some (.bool false, rest)
    | rest => number rest

def items : Nat → List Char → Option (List Datum × List Char)
  | 0, _ => none
  | fuel + 1, cs => do
    let (d, rest) ← value fuel cs
    match skip rest with
    | ',' :: rest => do
      let (ds, rest) ← items fuel rest
      some (d :: ds, rest)
    | ']' :: rest => some ([d], rest)
    | _ => none

def members : Nat → List Char → Option (List (Option String × Datum) × List Char)
  | 0, _ => none
  | fuel + 1, cs =>
    match skip cs with
    | '\x22' :: rest => do
      let (key, rest) ← string rest
      match skip rest with
      | ':' :: rest => do
        let (d, rest) ← value fuel rest
        match skip rest with
        | ',' :: rest => do
          let (ms, rest) ← members fuel rest
          some ((key, d) :: ms, rest)
        | '\x7d' :: rest => some ([(key, d)], rest)
        | _ => none
      | _ => none
    | _ => none

end

/-- The value that a list of characters writes, if it is a JSON text. -/
def parseChars (cs : List Char) : Option Datum :=
  match value (2 * cs.length + 2) cs with
  | some (d, rest) => if (skip rest).isEmpty then some d else none
  | none => none

def parse (text : String) : Option Datum := parseChars text.toList

end AudioStream.Json
