import AudioStream.Datum.Basic
import AudioStream.Datum.Keyed

/-!
# Values as data

A type is `Coded` if its values can be written as data and read back.  An enumeration is written by its
key; a key may also stand alone in a record, with nothing as its value.  A structure is written as a
record of its fields, and may be read from a list of them in their order.  A dialect tells in which of
these ways the text formats differ.
-/

namespace AudioStream

/-- The conventions of a text format. -/
structure Dialect where
  /-- Whether a value may stand beside a key that takes none. -/
  isNothing : Datum → Bool
  /-- Whether a list of fields may go on after the last field. -/
  allowsSurplus : Bool

namespace Dialect

/-- In JSON nothing is `null`, and a list of fields ends with the last field. -/
def json : Dialect where
  isNothing
    | .null => true
    | _ => false
  allowsSurplus := false

/-- In TOML nothing is an empty table or an empty array, and surplus items of a list are passed over. -/
def toml : Dialect where
  isNothing
    | .record [] | .list [] => true
    | _ => false
  allowsSurplus := true

end Dialect

/-- A type whose values are written as data. -/
class Coded (α : Type) where
  encode : α → Datum
  decode : Dialect → Datum → Option α

export Coded (encode decode)

namespace Datum

/-- A key and the value beside it: a text is a key alone, a record of one member is both. -/
def variant? : Datum → Option (String × Option Datum)
  | text key => some (key, none)
  | record [(key, d)] => some (key, some d)
  | _ => none

/-- The data of the given fields.  Each is there once at most: in a record by its key, in a list by its
place. -/
def fields? (f : Dialect) (keys : List String) : Datum → Option (List (Option Datum))
  | record members => keys.mapM fun key =>
    match membersAt key members with
    | [] => some none
    | [d] => some (some d)
    | _ => none
  | list items =>
    if items.length ≤ keys.length || f.allowsSurplus then
      some ((List.range keys.length).map (items[·]?))
    else none
  | _ => none

/-- The value of a field that has to be there. -/
def required {α : Type} [Coded α] (f : Dialect) (d : Option Datum) : Option α := d.bind (decode f)

/-- The value of a field, or another value if the field is not there. -/
def optional {α : Type} [Coded α] (f : Dialect) (d : Option Datum) (default : α) : Option α :=
  match d with
  | some d => decode f d
  | none => some default

/-- Whether what stands beside a key counts as nothing. -/
def isAbsent (f : Dialect) (d : Option Datum) : Bool :=
  match d with
  | some d => f.isNothing d
  | none => true

end Datum

instance {α : Type} [Keyed α] : Coded α where
  encode a := .text (Keyed.key a)
  decode f d := do
    let (key, payload) ← d.variant?
    if Datum.isAbsent f payload then Keyed.ofKey? key else none

instance : Coded Bool where
  encode := .bool
  decode
    | _, .bool b => some b
    | _, _ => none

instance : Coded String where
  encode := .text
  decode
    | _, .text s => some s
    | _, _ => none

instance : Coded Int32 where
  encode n := .int n.toInt
  decode
    | _, .int n =>
      if Int32.minValue.toInt ≤ n ∧ n ≤ Int32.maxValue.toInt then some (Int32.ofInt n) else none
    | _, _ => none

instance : Coded Int64 where
  encode n := .int n.toInt
  decode
    | _, .int n =>
      if Int64.minValue.toInt ≤ n ∧ n ≤ Int64.maxValue.toInt then some (Int64.ofInt n) else none
    | _, _ => none

instance : Coded UInt32 where
  encode n := .int n.toNat
  decode
    | _, .int n => if 0 ≤ n ∧ n < UInt32.size then some (UInt32.ofNat n.toNat) else none
    | _, _ => none

instance : Coded UInt64 where
  encode n := .int n.toNat
  decode
    | _, .int n => if 0 ≤ n ∧ n < UInt64.size then some (UInt64.ofNat n.toNat) else none
    | _, _ => none

instance {α : Type} [Coded α] : Coded (List α) where
  encode as := .list (as.map encode)
  decode
    | f, .list items => items.mapM (decode f)
    | _, _ => none

end AudioStream
