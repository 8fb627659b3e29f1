import AudioStream.Datum.Keyed

/-!
# States of a stream

A stream is in one of nine states.  Two of them, draining and transferring, are transient: a playback
stream leaves them on its own once a delay has run out.  The error state is left by no command.
-/

namespace AudioStream

inductive State where
  | standby
  | idle
  | active
  | paused
  | draining
  | drainPaused
  | transferring
  | transferPaused
  | error
  deriving DecidableEq, Inhabited

namespace State

/-- The states that resolve on their own once the transient delay has run out. -/
def isTransient : State → Bool
  | draining | transferring => true
  | _ => false

def name : State → String
  | standby => "STANDBY"
  | idle => "IDLE"
  | active => "ACTIVE"
  | paused => "PAUSED"
  | draining => "DRAINING"
  | drainPaused => "DRAIN_PAUSED"
  | transferring => "TRANSFERRING"
  | transferPaused => "TRANSFER_PAUSED"
  | error => "ERROR"

instance : Keyed State where
  values := [standby, idle, active, paused, draining, drainPaused, transferring, transferPaused, error]
  key := name
  mem_values a := by cases a <;> simp
  key_inj a b := by cases a <;> cases b <;> simp [name]

end State

end AudioStream
