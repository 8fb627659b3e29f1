import AudioStream.Protocol.State
import AudioStream.Text.Decimal

/-!
# Replies

The worker answers each command with one reply.  A reply tells how the command ended, the state after
it, the position of the stream, and what the command moved through the data queue.  The position of a
stream without a device is unknown: both of its numbers are minus one.
-/

namespace AudioStream

inductive Status where
  | ok
  | badValue
  | invalidOperation
  | notEnoughData
  deriving DecidableEq, Inhabited

namespace Status

def name : Status → String
  | ok => "OK"
  | badValue => "BAD_VALUE"
  | invalidOperation => "INVALID_OPERATION"
  | notEnoughData => "NOT_ENOUGH_DATA"

instance : Keyed Status where
  values := [ok, badValue, invalidOperation, notEnoughData]
  key := name
  mem_values a := by cases a <;> simp
  key_inj a b := by cases a <;> cases b <;> simp [name]

end Status

/-- A position: the frames moved since the stream was opened, and the clock reading at which this was
observed, in nanoseconds. -/
structure Position where
  frames : Int64
  time : Int64
  deriving DecidableEq

namespace Position

/-- The position of a stream that is connected to no device. -/
def unknown : Position := ⟨-1, -1⟩

def isUnknown (p : Position) : Bool := p.frames == -1 && p.time == -1

instance : Inhabited Position := ⟨unknown⟩

theorem isUnknown_iff {p : Position} : p.isUnknown = true ↔ p = unknown := by
  cases p
  simp [isUnknown, unknown]

end Position

/-- The answer to a command.  What a fresh reply says holds until the worker knows better: the command
was malformed, nothing moved, and neither position nor latency is known. -/
structure Reply where
  status : Status := .badValue
  state : State := .standby
  observable : Position := .unknown
  /-- The bytes that the command moved through the data queue. -/
  byteCount : Int32 := 0
  latency : Int32 := -1
  deriving DecidableEq

namespace Reply

instance : Inhabited Reply := ⟨⟨.badValue, .standby, .unknown, 0, -1⟩⟩

/-- The text of a reply, in braces. -/
def text (r : Reply) : String :=
  "\x7bstatus: " ++ r.status.name ++ ", state: " ++ r.state.name
    ++ ", frames: " ++ Decimal.text r.observable.frames.toInt
    ++ ", timeNs: " ++ Decimal.text r.observable.time.toInt
    ++ ", fmqByteCount: " ++ Decimal.text r.byteCount.toInt
    ++ ", latencyMs: " ++ Decimal.text r.latency.toInt ++ "\x7d"

end Reply

end AudioStream
