/-!
# Blanks, comments and line ends in TOML

Blanks are spaces and tabs.  A line ends with a line feed, perhaps after a carriage return, or with the
text.  A comment runs from a number sign to the end of its line and holds no control character but
tabs.
-/

namespace AudioStream.Toml

def isBlank (c : Char) : Bool := c == ' ' || c == '\t'

/-- A character that may stand as itself in a comment or, quotes and backslashes apart, in a string: a
tab, or anything but the control characters of ASCII. -/
def isPlain (c : Char) : Bool := c == '\t' || (' ' ≤ c && c != '\x7f')

def skipBlanks (cs : List Char) : List Char := cs.dropWhile isBlank

/-- The text after a line end, if it begins with one. -/
def lineEnd? : List Char → Option (List Char)
  | [] => some []
  | '\n' :: rest => some rest
  | '\r' :: '\n' :: rest => some rest
  | _ => none

/-- The text after blanks, an optional comment and a line end. -/
def finishLine (cs : List Char) : Option (List Char) :=
  match skipBlanks cs with
  | '#' :: rest => lineEnd? (rest.dropWhile isPlain)
  | rest => lineEnd? rest

/-- Passes over blanks, line ends and comments; the flag says whether the text begins in a comment. -/
def skipLines : Bool → List Char → Option (List Char)
  | _, [] => some []
  | _, '\n' :: rest => skipLines false rest
  | _, '\r' :: '\n' :: rest => skipLines false rest
  | false, '#' :: rest => skipLines true rest
  | false, c :: rest => if isBlank c then skipLines false rest else some (c :: rest)
  | true, c :: rest => if isPlain c then skipLines true rest else none

end AudioStream.Toml
