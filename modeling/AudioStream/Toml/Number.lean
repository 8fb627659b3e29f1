import AudioStream.Datum.Basic
import AudioStream.Text.Decimal

/-!
# Numbers and dates of TOML

Integers are written in base ten with an optional sign, or in base sixteen, eight or two after `0x`,
`0o` or `0b`; they are words of sixty-four bits.  Underscores may stand between digits.  A float has a
fraction or an exponent, or is infinite or no number at all; a positive one must be finite as a double.
-/

namespace AudioStream.Toml

/-- Digits of a base, each with at most one underscore before it, and the rest of the text. -/
def digitRun (base : Nat) : List Char → List Char × List Char
  | '_' :: c :: rest =>
    if Decimal.isDigit base c then
      let (ds, rest) := digitRun base rest
      (c :: ds, rest)
    else ([], '_' :: c :: rest)
  | c :: rest =>
    if Decimal.isDigit base c then
      let (ds, rest) := digitRun base rest
      (c :: ds, rest)
    else ([], c :: rest)
  | [] => ([], [])

/-- One digit and then a run of them. -/
def digits? (base : Nat) : List Char → Option (List Char × List Char)
  | c :: rest =>
    if Decimal.isDigit base c then
      let (ds, rest) := digitRun base rest
      some (c :: ds, rest)
    else none
  | [] => none

/-- The digits of a whole number in base ten: a zero alone, or digits that start with another. -/
def whole? : List Char → Option (List Char × List Char)
  | '0' :: rest => some (['0'], rest)
  | cs => digits? 10 cs

def sign : List Char → Bool × List Char
  | '-' :: rest => (true, rest)
  | '+' :: rest => (false, rest)
  | rest => (false, rest)

/-- An integer as a datum, unless it needs more than sixty-four bits. -/
def word? (n : Int) : Option Datum :=
  if Int64.minValue.toInt ≤ n ∧ n ≤ Int64.maxValue.toInt then some (.int n) else none

/-- An integer in one of the four bases, and the rest of the text. -/
def integer (cs : List Char) : Option (Datum × List Char) :=
  let based (base : Nat) (cs : List Char) : Option (Datum × List Char) := do
    let (ds, rest) ← digits? base cs
    some (← word? (Decimal.ofDigits base ds), rest)
  match cs with
  | '0' :: 'x' :: rest => based 16 rest
  | '0' :: 'o' :: rest => based 8 rest
  | '0' :: 'b' :: rest => based 2 rest
  | cs => do
    let (negative, rest) := sign cs
    let (ds, rest) ← whole? rest
    let n : Int := Decimal.ofDigits 10 ds
    some (← word? (if negative then -n else n), rest)

/-- Whether the nearest double of `n * 10 ^ e` is infinite: the number is at least half a unit beyond
the greatest double. -/
def isBeyondDouble (n : Nat) (e : Int) : Bool :=
  let bound := Nat.pow 2 1024 - Nat.pow 2 970
  if n = 0 then false
  else if 400 ≤ e then true
  else if 0 ≤ e then bound ≤ n * Nat.pow 10 e.toNat
  else if ((Nat.toDigits 10 n).length : Int) ≤ -e then false
  else bound * Nat.pow 10 (-e).toNat ≤ n

/-- The exponent of a float, with its sign, and the rest of the text. -/
def exponent? : List Char → Option (Int × List Char)
  | c :: rest =>
    if c = 'e' ∨ c = 'E' then do
      let (negative, rest) := sign rest
      let (ds, rest) ← digits? 10 rest
      let n : Int := Decimal.ofDigits 10 ds
      some (if negative then -n else n, rest)
    else none
  | [] => none

/-- The fraction and the exponent of a float, one of which at least is there. -/
def fractionExponent? (cs : List Char) : Option (List Char × Int × List Char) :=
  match cs with
  | '.' :: rest => do
    let (frac, rest) ← digits? 10 rest
    match exponent? rest with
    | some (e, rest) => some (frac, e, rest)
    | none => some (frac, 0, rest)
  | rest => do
    let (e, rest) ← exponent? rest
    some ([], e, rest)

/-- The part of a text in front of its rest. -/
def upTo (cs rest : List Char) : String := String.ofList (cs.take (cs.length - rest.length))

def float (cs : List Char) : Option (Datum × List Char) :=
  let (negative, rest) := sign cs
  match rest with
  | 'i' :: 'n' :: 'f' :: rest => some (.real (upTo cs rest), rest)
  | 'n' :: 'a' :: 'n' :: rest => some (.real (upTo cs rest), rest)
  | rest => do
    let (ds, rest) ← whole? rest
    let (frac, e, rest) ← fractionExponent? rest
    if !negative && isBeyondDouble (Decimal.ofDigits 10 (ds ++ frac)) (e - frac.length) then none
    else some (.real (upTo cs rest), rest)

/-- A number of exactly `width` digits, and the rest of the text. -/
def fixed (width : Nat) (cs : List Char) : Option (Nat × List Char) :=
  let ds := cs.take width
  if ds.length = width ∧ ds.all (Decimal.isDigit 10) then
    some (Decimal.ofDigits 10 ds, cs.drop width)
  else none

def daysOf (year month : Nat) : Nat :=
  if month = 2 then
    if year % 4 = 0 ∧ (year % 100 ≠ 0 ∨ year % 400 = 0) then 29 else 28
  else if month = 4 ∨ month = 6 ∨ month = 9 ∨ month = 11 then 30
  else 31

/-- A year, a month and a day that exist, and the rest of the text. -/
def date? (cs : List Char) : Option (List Char) := do
  let (year, rest) ← fixed 4 cs
  let '-' :: rest := rest | none
  let (month, rest) ← fixed 2 rest
  let '-' :: rest := rest | none
  let (day, rest) ← fixed 2 rest
  if 1 ≤ month ∧ month ≤ 12 ∧ 1 ≤ day ∧ day ≤ daysOf year month then some rest else none

/-- An hour and a minute, and the rest of the text. -/
def hourMinute? (cs : List Char) : Option (List Char) := do
  let (hour, rest) ← fixed 2 cs
  let ':' :: rest := rest | none
  let (minute, rest) ← fixed 2 rest
  if hour < 24 ∧ minute < 60 then some rest else none

/-- A time of day down to the second or a fraction of it, and the rest of the text.  The second may be
a leap second. -/
def time? (cs : List Char) : Option (List Char) := do
  let rest ← hourMinute? cs
  let ':' :: rest := rest | none
  let (second, rest) ← fixed 2 rest
  if second ≤ 60 then
    match rest with
    | '.' :: d :: rest' =>
      if Decimal.isDigit 10 d then some (rest'.dropWhile (Decimal.isDigit 10)) else some rest
    | _ => some rest
  else none

/-- The text after the offset of a time of day from universal time, if there is one. -/
def skipOffset (cs : List Char) : List Char :=
  match cs with
  | 'Z' :: rest | 'z' :: rest => rest
  | '+' :: rest | '-' :: rest => (hourMinute? rest).getD cs
  | cs => cs

/-- A date with or without a time of day, or a time of day alone, and the rest of the text.  Its datum
is a record of one member, which is a field of no structure. -/
def dateTime (cs : List Char) : Option (Datum × List Char) := do
  let rest ← match date? cs with
    | some (c :: rest) =>
      if c = 'T' ∨ c = 't' ∨ c = ' ' then
        match time? rest with
        | some rest => some (skipOffset rest)
        | none => some (c :: rest)
      else some (c :: rest)
    | some [] => some []
    | none => time? cs
  some (.record [("$date", .text (upTo cs rest))], rest)

/-- A date, a float or an integer, and the rest of the text. -/
def number (cs : List Char) : Option (Datum × List Char) :=
  dateTime cs <|> float cs <|> integer cs

end AudioStream.Toml
