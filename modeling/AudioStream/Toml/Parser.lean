import AudioStream.Toml.Number
import AudioStream.Toml.Quoted
import AudioStream.Toml.Table

/-!
# Reading TOML

A document is a list of lines: headers of tables, assignments to keys, and lines with nothing but a
comment.  Values and keys are nested less than eighty deep.  A byte order mark in front of the text is
passed over.
-/

namespace AudioStream.Toml

/-- The number of parts of a key, and of brackets around a value, that is too many. -/
def nestingLimit : Nat := 80

def isBare (c : Char) : Bool :=
  ('a' ≤ c && c ≤ 'z') || ('A' ≤ c && c ≤ 'Z') || ('0' ≤ c && c ≤ '9') || c == '_' || c == '-'

def simpleKey (cs : List Char) : Option (String × List Char) :=
  match cs with
  | '\x22' :: rest => (basic rest).map fun (key, rest) => (String.ofList key, rest)
  | '\x27' :: rest => (literal rest).map fun (key, rest) => (String.ofList key, rest)
  | cs =>
    match cs.takeWhile isBare with
    | [] => none
    | key => some (String.ofList key, cs.dropWhile isBare)

/-- The parts of a key with points between them, and the rest of the text.  The first argument bounds
the number of parts. -/
def keyParts : Nat → List Char → Option (List String × List Char)
  | 0, _ => none
  | fuel + 1, cs => do
    let (key, rest) ← simpleKey (skipBlanks cs)
    match skipBlanks rest with
    | '.' :: rest => do
      let (keys, rest) ← keyParts fuel rest
      some (key :: keys, rest)
    | rest => some ([key], rest)

def key (cs : List Char) : Option (List String × List Char) := keyParts (nestingLimit - 1) cs

mutual

/-- A value and the rest of the text.  The first argument bounds the number of steps, the second one
counts the brackets that may still be opened. -/
def value : Nat → Nat → List Char → Option (Datum × List Char)
  | 0, _, _ => none
  | fuel + 1, depth, cs =>
    match cs with
    | '\x22' :: _ | '\x27' :: _ => (quoted cs).map fun (s, rest) => (.text (String.ofList s), rest)
    | '[' :: rest =>
      match depth with
      | 0 => none
      | depth + 1 => do
        match ← skipLines false rest with
        | ']' :: rest => some (.list [], rest)
        | rest => do
          let (ds, rest) ← items fuel depth rest
          some (.list ds, rest)
    | '\x7b' :: rest =>
      match depth with
      | 0 => none
      | depth + 1 =>
        match skipBlanks rest with
        | '\x7d' :: rest => some (.record [], rest)
        | rest => do
          let (entries, rest) ← pairs fuel depth [] rest
          some (.record (membersOf entries), rest)
    | 't' :: 'r' :: 'u' :: 'e' :: rest => some (.bool true, rest)
    | 'f' :: 'a' :: 'l' :: 's' :: 'e' :: rest => some (.bool false, rest)
    | cs => number cs

/-- The items of an array that has one at least, through the closing bracket. -/
def items : Nat → Nat → List Char → Option (List Datum × List Char)
  | 0, _, _ => none
  | fuel + 1, depth, cs => do
    let (d, rest) ← value fuel depth cs
    match ← skipLines false rest with
    | ',' :: rest =>
      match ← skipLines false rest with
      | ']' :: rest => some ([d], rest)
      | rest => do
        let (ds, rest) ← items fuel depth rest
        some (d :: ds, rest)
    | ']' :: rest => some ([d], rest)
    | _ => none

/-- The pairs of an inline table that has one at least, through the closing brace.  They are added to
the entries read before. -/
def pairs : Nat → Nat → Entries → List Char → Option (Entries × List Char)
  | 0, _, _, _ => none
  | fuel + 1, depth, entries, cs => do
    let (keys, rest) ← key cs
    let '=' :: rest := rest | none
    let (d, rest) ← value fuel depth (skipBlanks rest)
    let entries ← Entries.assign d keys false .explicit entries
    match skipBlanks rest with
    | ',' :: rest => pairs fuel depth entries rest
    | '\x7d' :: rest => some (entries, rest)
    | _ => none

end

/-- Reads a header after its opening bracket or brackets, and ends its line. -/
def header (item : Bool) (doc : Document) (cs : List Char) : Option (Document × List Char) := do
  let (keys, rest) ← key cs
  let rest ← match item, rest with
    | true, ']' :: ']' :: rest => some rest
    | false, ']' :: rest => some rest
    | _, _ => none
  let rest ← finishLine rest
  some (← doc.enter item keys, rest)

/-- Reads an assignment, and ends its line. -/
def assignment (doc : Document) (cs : List Char) : Option (Document × List Char) := do
  let (keys, rest) ← key cs
  let '=' :: rest := rest | none
  let (d, rest) ← value (2 * cs.length) (nestingLimit - 1) (skipBlanks rest)
  let rest ← finishLine rest
  some (← doc.assign keys d, rest)

def line (doc : Document) (cs : List Char) : Option (Document × List Char) :=
  match skipBlanks cs with
  | '[' :: '[' :: rest => header true doc rest
  | '[' :: rest => header false doc rest
  | '#' :: _ | '\n' :: _ | '\r' :: _ | [] => (finishLine cs).map fun rest => (doc, rest)
  | rest => assignment doc rest

/-- Reads lines to the end of the text.  The first argument bounds their number. -/
def lines : Nat → Document → List Char → Option Document
  | _, doc, [] => some doc
  | 0, _, _ => none
  | fuel + 1, doc, cs => do
    let (doc, rest) ← line doc cs
    lines fuel doc rest

/-- The record that a list of characters writes, if it is a TOML document. -/
def parseChars (cs : List Char) : Option Datum :=
  let cs := match cs with
    | '\ufeff' :: rest => rest
    | cs => cs
  (lines cs.length {} cs).map Document.toDatum

def parse (text : String) : Option Datum := parseChars text.toList

end AudioStream.Toml
