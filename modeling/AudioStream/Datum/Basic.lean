/-!
# Data

The values that text formats describe: nothing, truth values, numbers, texts, lists and records.  A
record keeps its members in the order in which they were written and keeps a key that is written
twice, so that a reader can tell a repeated key from a single one.
-/

namespace AudioStream

/-- A value written in a text format. -/
inductive Datum where
  | null
  | bool (b : Bool)
  | int (n : Int)
  /-- A number that is not written as an integer, kept as it was written. -/
  | real (numeral : String)
  | text (s : String)
  | list (items : List Datum)
  | record (members : List (String × Datum))
  /-- A text, or a record with a key, that holds half of a surrogate pair.  It can be passed over but
  not read. -/
  | unreadable
  deriving Inhabited

namespace Datum

def membersAt (key : String) (members : List (String × Datum)) : List Datum :=
  members.filterMap fun m => if m.1 = key then some m.2 else none

def get? (d : Datum) (key : String) : Option Datum :=
  match d with
  | record members => (membersAt key members).head?
  | _ => none

/-- Adds a member at the end of a record; other data are left alone. -/
def push (d : Datum) (key : String) (value : Datum) : Datum :=
  match d with
  | record members => record (members ++ [(key, value)])
  | d => d

/-- All members of two records, those of the first one first. -/
def join : Datum → Datum → Datum
  | record ms, record ns => record (ms ++ ns)
  | d, _ => d

mutual

/-- The same datum with the members of each record in the order of their keys. -/
def sorted : Datum → Datum
  | list items => list (sortedItems items)
  | record members => record ((sortedMembers members).mergeSort fun m n => m.1 ≤ n.1)
  | d => d

def sortedItems : List Datum → List Datum
  | [] => []
  | d :: ds => sorted d :: sortedItems ds

def sortedMembers : List (String × Datum) → List (String × Datum)
  | [] => []
  | (key, d) :: ms => (key, sorted d) :: sortedMembers ms

end

end Datum

end AudioStream
