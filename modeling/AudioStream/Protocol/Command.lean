import AudioStream.Datum.Keyed
import AudioStream.Text.Decimal

/-!
# Commands

The client of a stream writes one command at a time and waits for its reply.  A command is told by its
name; `exit`, `burst` and `drain` carry a value.  The key of a command is its name in data, the name
is the one shown in texts.
-/

namespace AudioStream

/-- How far a stream is drained.  Capture knows only `unspecified`, playback only the other two. -/
inductive DrainMode where
  | unspecified
  | all
  | earlyNotify
  deriving DecidableEq, Inhabited

namespace DrainMode

def name : DrainMode → String
  | unspecified => "DRAIN_UNSPECIFIED"
  | all => "DRAIN_ALL"
  | earlyNotify => "DRAIN_EARLY_NOTIFY"

instance : Keyed DrainMode where
  values := [unspecified, all, earlyNotify]
  key
    | unspecified => "unspecified"
    | all => "all"
    | earlyNotify => "early_notify"
  mem_values a := by cases a <;> simp
  key_inj a b := by cases a <;> cases b <;> simp

end DrainMode

inductive Command where
  /-- Ends the worker if the cookie is the stream's own. -/
  | exit (cookie : Int32)
  | getStatus
  | start
  /-- Moves up to the given number of bytes through the data queue. -/
  | burst (bytes : Int32)
  | drain (mode : DrainMode)
  | standby
  | pause
  | flush
  deriving DecidableEq, Inhabited

namespace Command

def name : Command → String
  | exit _ => "exit"
  | getStatus => "getStatus"
  | start => "start"
  | burst _ => "burst"
  | drain _ => "drain"
  | standby => "standby"
  | pause => "pause"
  | flush => "flush"

/-- The commands that a client issues once per buffer period. -/
def isPeriodic : Command → Bool
  | burst _ | getStatus => true
  | _ => false

/-- The text of a command: its name, and its value in parentheses if it has one. -/
def text (c : Command) : String :=
  match c with
  | exit cookie => "exit(" ++ Decimal.text cookie.toInt ++ ")"
  | burst bytes => "burst(" ++ Decimal.text bytes.toInt ++ ")"
  | drain mode => "drain(" ++ mode.name ++ ")"
  | _ => c.name

end Command

end AudioStream
