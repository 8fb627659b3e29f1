import AudioStream.Datum.Basic
import AudioStream.Toml.Written

/-!
# Writing TOML

A record is written as a document: first its plain members, a line each, then each record in it as a
section under a header with the path that leads there.  An empty line stands between sections.
-/

namespace AudioStream.Toml

def isSection : Datum → Bool
  | .record _ => true
  | _ => false

def commas (texts : List (List Char)) : List Char := [',', ' '].intercalate texts

mutual

/-- A value on the right-hand side of an assignment. -/
def inlineChars : Datum → List Char
  | .null | .unreadable => ['\x22', '\x22']
  | .bool true => ['t', 'r', 'u', 'e']
  | .bool false => ['f', 'a', 'l', 's', 'e']
  | .int n => Decimal.chars n
  | .real numeral => numeral.toList
  | .text s => stringChars s.toList
  | .list ds => '[' :: commas (inlineItems ds) ++ [']']
  | .record ms => '\x7b' :: ' ' :: commas (inlineMembers ms) ++ [' ', '\x7d']

def inlineItems : List Datum → List (List Char)
  | [] => []
  | d :: ds => inlineChars d :: inlineItems ds

def inlineMembers : List (String × Datum) → List (List Char)
  | [] => []
  | (key, d) :: ms => (key.toList ++ [' ', '=', ' '] ++ inlineChars d) :: inlineMembers ms

end

def plainLines (members : List (String × Datum)) : List Char :=
  members.flatMap fun (key, d) =>
    if isSection d then [] else key.toList ++ [' ', '=', ' '] ++ inlineChars d ++ ['\n']

/-- The header of a section; the outermost record has none. -/
def headerLine (path : List String) : List Char :=
  if path.isEmpty then [] else '[' :: ['.'].intercalate (path.map String.toList) ++ [']', '\n']

/-- The text of a record without the records in it.  A record that holds nothing but records needs no
header. -/
def sectionChars (path : List String) (members : List (String × Datum)) : List (List Char) :=
  if members.all (fun m => isSection m.2) && (path.isEmpty || !members.isEmpty) then []
  else [headerLine path ++ plainLines members]

mutual

/-- The sections of a datum, itself first. -/
def sections (path : List String) : Datum → List (List Char)
  | .record members => sectionChars path members ++ innerSections path members
  | _ => []

/-- The sections of the records among the members of a record. -/
def innerSections (path : List String) : List (String × Datum) → List (List Char)
  | [] => []
  | (key, d) :: ms => sections (path ++ [key]) d ++ innerSections path ms

end

def chars (d : Datum) : List Char := ['\n'].intercalate (sections [] d)

def render (d : Datum) : String := String.ofList (chars d)

end AudioStream.Toml
