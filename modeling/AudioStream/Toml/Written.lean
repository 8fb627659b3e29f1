import AudioStream.Text.Decimal

/-!
# How TOML strings are written

A text is written in the plainest form that can hold it.  A basic string on one line does for a text
without quotes, backslashes and line feeds; otherwise a literal string is taken if nothing in the text
needs an escape, and then the triple forms, in which single quotes of the delimiter's kind need none.  A
triple form starts on a line of its own if the text has several lines.
-/

namespace AudioStream.Toml

/-- What has to be known of a text to choose its form. -/
structure Traits where
  apostrophes : Nat
  quotes : Nat
  hasBackslash : Bool
  hasNewline : Bool
  /-- Whether there is a control character other than tabs and line feeds. -/
  hasControl : Bool

/-- The greatest number of times that a character stands in a row; the number of times that it has
stood so far is given. -/
def longestRun (c : Char) : Nat → List Char → Nat
  | _, [] => 0
  | n, d :: cs => if d = c then max (n + 1) (longestRun c (n + 1) cs) else longestRun c 0 cs

/-- Whether a character is a control character of ASCII other than a tab or a line feed. -/
def isControl (c : Char) : Bool := (c < ' ' && c != '\t' && c != '\n') || c == '\x7f'

def traits (cs : List Char) : Traits where
  apostrophes := longestRun '\x27' 0 cs
  quotes := longestRun '\x22' 0 cs
  hasBackslash := cs.contains '\x5c'
  hasNewline := cs.contains '\n'
  hasControl := cs.any isControl

inductive StringForm where
  | basic
  | literal
  | basicLines
  | literalLines
  deriving DecidableEq

def formOf (t : Traits) : StringForm :=
  if !t.hasControl && !t.hasBackslash && t.quotes == 0 && !t.hasNewline then .basic
  else if !t.hasControl && t.apostrophes == 0 && !t.hasNewline then .literal
  else if !t.hasControl && !t.hasBackslash && t.quotes ≤ 2 then .basicLines
  else if !t.hasControl && t.apostrophes ≤ 2 then .literalLines
  else if t.hasNewline then .basicLines
  else .basic

/-- The escape of a character that cannot stand for itself in a basic string. -/
def escape (c : Char) : List Char :=
  match c with
  | '\x08' => ['\x5c', 'b']
  | '\t' => ['\x5c', 't']
  | '\n' => ['\x5c', 'n']
  | '\x0c' => ['\x5c', 'f']
  | '\r' => ['\x5c', 'r']
  | '\x22' => ['\x5c', '\x22']
  | '\x5c' => ['\x5c', '\x5c']
  | c => '\x5c' :: 'u' :: Decimal.hexUpper 4 c.toNat

/-- The characters of a text within a basic string.  Line feeds stand for themselves if the string has
several lines, and so do quotes as long as no more than `allowed` of them stand in a row; the number
of those that stand in front of the text is given. -/
def escapeAll (severalLines : Bool) (allowed : Nat) : Nat → List Char → List Char
  | _, [] => []
  | n, c :: cs =>
    if c = '\x22' then
      if n < allowed then c :: escapeAll severalLines allowed (n + 1) cs
      else escape c ++ escapeAll severalLines allowed 0 cs
    else if c = '\n' && severalLines then c :: escapeAll severalLines allowed 0 cs
    else if c = '\t' || c = '\n' || c = '\x5c' || isControl c then
      escape c ++ escapeAll severalLines allowed 0 cs
    else c :: escapeAll severalLines allowed 0 cs

def write (form : StringForm) (cs : List Char) : List Char :=
  let start := if cs.contains '\n' then ['\n'] else []
  let quotes (q : Char) := [q, q, q]
  match form with
  | .basic => '\x22' :: escapeAll false 0 0 cs ++ ['\x22']
  | .literal => '\x27' :: cs ++ ['\x27']
  | .basicLines => quotes '\x22' ++ start ++ escapeAll true 2 0 cs ++ quotes '\x22'
  | .literalLines => quotes '\x27' ++ start ++ cs ++ quotes '\x27'

def stringChars (cs : List Char) : List Char := write (formOf (traits cs)) cs

end AudioStream.Toml
