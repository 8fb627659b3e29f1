import AudioStream.Coding.Basic
import AudioStream.Protocol.Command
import AudioStream.Protocol.Reply

/-!
# Commands and replies as data

A command is a record of its key under `command` and of its value, if it takes one, under `value`.  The
two members may stand in either order, and a list of the key and the value is read as well, if the key is
a plain text there.  A value that stands in front is read once the key is known, and a little more
freely: an empty record beside the name of a drain mode then counts as nothing.
-/

namespace AudioStream

namespace Command

/-- The key of a command and the datum of its value. -/
def parts : Command → String × Option Datum
  | exit cookie => ("exit", some (encode cookie))
  | getStatus => ("get_status", none)
  | start => ("start", none)
  | burst bytes => ("burst", some (encode bytes))
  | drain mode => ("drain", some (encode mode))
  | standby => ("standby", none)
  | pause => ("pause", none)
  | flush => ("flush", none)

/-- The dialect of a value: a value in front of its key may have an empty record for nothing. -/
def valueDialect (f : Dialect) (inFront : Bool) : Dialect where
  isNothing
    | .record [] => inFront || f.isNothing (.record [])
    | d => f.isNothing d
  allowsSurplus := f.allowsSurplus

/-- The command with the given key and value, and whether the value stands in front of the key. -/
def ofParts? (f : Dialect) (key : String) (value : Option Datum) (inFront : Bool) : Option Command :=
  let plain (c : Command) : Option Command := if Datum.isAbsent f value then some c else none
  match key with
  | "exit" => (Datum.required f value).map exit
  | "get_status" => plain getStatus
  | "start" => plain start
  | "burst" => (Datum.required f value).map burst
  | "drain" => (Datum.required (valueDialect f inFront) value).map drain
  | "standby" => plain standby
  | "pause" => plain pause
  | "flush" => plain flush
  | _ => none

/-- Whether the value stands in front of the key among the members of a record. -/
def valueInFront (members : List (String × Datum)) : Bool :=
  (members.takeWhile fun m => m.1 ≠ "command").any fun m => m.1 = "value"

/-- The key in the datum that tells commands apart. -/
def key? (f : Dialect) (d : Datum) : Option String := do
  let (key, payload) ← d.variant?
  if Datum.isAbsent f payload then some key else none

instance : Coded Command where
  encode c :=
    match c.parts with
    | (key, some value) => .record [("command", .text key), ("value", value)]
    | (key, none) => .record [("command", .text key)]
  decode f d :=
    match d with
    | .record members => do
      let [some key, value] ← d.fields? f ["command", "value"] | none
      ofParts? f (← key? f key) value (valueInFront members)
    | .list [.text key, value] => ofParts? f key (some value) false
    | _ => none

end Command

instance : Coded Position where
  encode p := .record [("frames", encode p.frames), ("time_ns", encode p.time)]
  decode f d := do
    let [frames, time] ← d.fields? f ["frames", "time_ns"] | none
    some ⟨← Datum.required f frames, ← Datum.required f time⟩

instance : Coded Reply where
  encode r := .record [("status", encode r.status), ("state", encode r.state),
    ("observable", encode r.observable), ("fmq_byte_count", encode r.byteCount),
    ("latency_ms", encode r.latency)]
  decode f d := do
    let [status, state, observable, byteCount, latency] ←
      d.fields? f ["status", "state", "observable", "fmq_byte_count", "latency_ms"] | none
    some ⟨← Datum.required f status, ← Datum.required f state, ← Datum.required f observable,
      ← Datum.required f byteCount, ← Datum.required f latency⟩

end AudioStream
