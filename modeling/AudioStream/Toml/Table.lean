import AudioStream.Datum.Basic

/-!
# Tables under construction

The lines of a document build up a tree of tables.  A table comes into being by its own header, as the
parent of another table, or through a dotted key; only a table that is not yet explicit can be given a
header, and only dotted keys add to a table that a dotted key made.  An entry that has a value is never
given another.
-/

namespace AudioStream.Toml

inductive Origin where
  /-- By a header of its own, or by braces. -/
  | explicit
  /-- As the parent of another table. -/
  | parent
  /-- Through a dotted key. -/
  | dotted
  deriving DecidableEq

/-- What stands at a key: a value, a table, or an array of tables, of which only the last is open. -/
inductive Node where
  | value (d : Datum)
  | table (origin : Origin) (entries : List (String × Node))
  | tables (closed : List Datum) (last : List (String × Node))

abbrev Entries := List (String × Node)

mutual

def Node.toDatum : Node → Datum
  | .value d => d
  | .table _ entries => .record (membersOf entries)
  | .tables closed last => .list (closed ++ [.record (membersOf last)])

/-- The members of the record that a table stands for. -/
def membersOf : List (String × Node) → List (String × Datum)
  | [] => []
  | (key, node) :: entries => (key, node.toDatum) :: membersOf entries

end

namespace Entries

def find? (entries : Entries) (key : String) : Option Node := entries.lookup key

/-- Puts a node at a key: in the place of the one that is there, or at the end. -/
def set (key : String) (node : Node) : Entries → Entries
  | [] => [(key, node)]
  | (k, n) :: entries => if k = key then (k, node) :: entries else (k, n) :: set key node entries

/-- Gives a value to a dotted key, starting in a table of the given origin.  The flag says whether a
part of the key has been followed already. -/
def assign (d : Datum) : List String → Bool → Origin → Entries → Option Entries
  | [], _, _, _ => none
  | [key], followed, origin, entries =>
    if (origin == .dotted) == followed && (entries.find? key).isNone then
      some (entries ++ [(key, .value d)])
    else none
  | key :: keys, _, _, entries =>
    match entries.find? key with
    | none => (assign d keys true .dotted []).map fun c => entries ++ [(key, .table .dotted c)]
    | some (.table .explicit _) => none
    | some (.table origin c) => (assign d keys true origin c).map fun c => entries.set key (.table origin c)
    | some (.tables closed c) =>
      (assign d keys true .explicit c).map fun c => entries.set key (.tables closed c)
    | some (.value _) => none

/-- Changes the table at the end of a path of header keys.  Tables that are missing on the way are
made; of an array of tables the last one is taken. -/
def alter (f : Origin → Entries → Option Entries) : List String → Origin → Entries → Option Entries
  | [], origin, entries => f origin entries
  | key :: keys, _, entries =>
    match entries.find? key with
    | none => (alter f keys .parent []).map fun c => entries ++ [(key, .table .parent c)]
    | some (.table origin c) => (alter f keys origin c).map fun c => entries.set key (.table origin c)
    | some (.tables closed c) =>
      (alter f keys .explicit c).map fun c => entries.set key (.tables closed c)
    | some (.value _) => none

/-- Opens the table with the given key in a table. -/
def openTable (key : String) (entries : Entries) : Option Entries :=
  match entries.find? key with
  | none => some (entries ++ [(key, .table .explicit [])])
  | some (.table .parent c) => some (entries.set key (.table .explicit c))
  | some _ => none

/-- Opens a new table at the end of the array of tables with the given key. -/
def openItem (key : String) (entries : Entries) : Option Entries :=
  match entries.find? key with
  | none => some (entries ++ [(key, .tables [] [])])
  | some (.tables closed last) =>
    some (entries.set key (.tables (closed ++ [.record (membersOf last)]) []))
  | some _ => none

end Entries

/-- A document in the making: its tables, and the header under which its lines stand. -/
structure Document where
  root : Entries := []
  header : List String := []

namespace Document

/-- Adds a line that gives a value to a key. -/
def assign (doc : Document) (keys : List String) (d : Datum) : Option Document :=
  (Entries.alter (Entries.assign d keys false) doc.header .explicit doc.root).map
    fun root => { doc with root }

/-- Adds the header of a table, or of an item of an array of tables. -/
def enter (doc : Document) (item : Bool) (keys : List String) : Option Document := do
  let key ← keys.getLast?
  let opened := fun _ => if item then Entries.openItem key else Entries.openTable key
  let root ← Entries.alter opened keys.dropLast .explicit doc.root
  some ⟨root, keys⟩

def toDatum (doc : Document) : Datum := .record (membersOf doc.root)

end Document

end AudioStream.Toml
