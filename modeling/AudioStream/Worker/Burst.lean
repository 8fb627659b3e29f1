import AudioStream.Worker.Basic

/-!
# Bursts

A burst moves frames through the data queue.  In capture the worker looks how much room there is, has
the driver fill that much of its buffer, and appends the frames that came.  In playback it takes all that
is queued, and has the driver play as much of it as the client asked for.  Without a device the worker
captures silence, or passes over what it would have played, and counts the frames all the same.
-/

namespace AudioStream

/-- A burst under way: the bytes that the client asked for, and whether a device was there when the
command came. -/
structure Burst where
  bytes : Nat
  connected : Bool

structure Moved where
  frames : Nat
  latency : Int32 := nominalLatency
  failure : Option DriverError := none

namespace Setup

/-- The bytes of the buffer that a capture transfer gets when there is room for `free` bytes. -/
def captureSize (s : Setup) (asked free : Nat) : Nat := min (min asked free) s.bufferSize

/-- The bytes that a playback burst takes when there are `queued` bytes. -/
def playbackTake (s : Setup) (queued : Nat) : Nat := min queued s.bufferSize

/-- The bytes of the buffer that a playback transfer gets when `taken` bytes were taken. -/
def playbackSize (s : Setup) (asked taken : Nat) : Nat :=
  let size := min (min asked taken) s.bufferSize
  if s.shortBursts && s.frameSize ≤ size then size - s.frameSize else size

/-- The frames that a transfer with the given size of its buffer is asked for. -/
def frames (s : Setup) (size : Nat) : Nat := size / s.frameSize

def silenceTime (s : Setup) : Nat :=
  if s.direction = .output ∧ s.notifies then 0 else 3 * millisecond

end Setup

namespace Moved

/-- What a transfer of the driver moved: no more than it was asked for, and nothing if it failed. -/
def ofAnswer (requested : Nat) (result : Except DriverError TransferResult) : Moved :=
  match result with
  | .ok r => { frames := min r.frames requested, latency := r.latency }
  | .error e => { frames := 0, failure := some e }

/-- Without a device all frames count as moved. -/
def withoutDevice (requested : Nat) : Moved := { frames := requested }

end Moved

namespace Worker

/-- What the driver is asked to do with the first `size` bytes of the buffer. -/
def transferCall (s : Setup) (size : Nat) (w : Worker) : DriverCall :=
  .transfer (w.buffer.take size) (s.frames size)

/-- Takes over what a transfer with the first `size` bytes of the buffer left behind. -/
def afterTransfer (s : Setup) (size : Nat) (answer : TransferAnswer) (w : Worker) : Worker × Moved :=
  (w.fill (answer.buffer.take size), Moved.ofAnswer (s.frames size) answer.result)

/-- Does without a device: captures silence, or passes over the first `size` bytes of the buffer. -/
def withoutDevice (s : Setup) (size : Nat) (w : Worker) : Worker × Moved :=
  match s.direction with
  | .input => (w.fill (List.replicate size 0), Moved.withoutDevice (s.frames size))
  | .output => (w, Moved.withoutDevice (s.frames size))

def movedBytes (s : Setup) (m : Moved) (w : Worker) : List UInt8 :=
  w.buffer.take (m.frames * s.frameSize)

/-- The state after a burst that moved `moved` bytes. -/
def afterBurst (s : Setup) (now : Nat) (asked : Nat) (moved : Int32) (w : Worker) : Worker :=
  match s.direction, w.state with
  | .input, .idle | .input, .paused => { w with state := .active }
  | .input, .draining => { w with state := .standby }
  | .output, .drainPaused =>
    { w with state := if s.notifies then .transferPaused else .paused }
  | .output, .standby | .output, .paused => { w with state := .paused }
  | .output, .idle | .output, .draining | .output, .active =>
    if !s.notifies || moved.toInt == asked then { w with state := .active }
    else w.enter now .transferring
  | _, _ => w

/-- Counts what was moved and says that the burst succeeded. -/
def credit (s : Setup) (now : Nat) (connected : Bool) (m : Moved) (w : Worker) : Worker × Reply :=
  let after := w.count m.frames
  (after, after.succeed now connected { byteCount := reportedBytes (m.frames * s.frameSize) })

def transferFailure (s : Setup) (e : DriverError) : StreamError :=
  match s.direction with
  | .input => .driverFailure ("read failed: " ++ e.message)
  | .output => .driverFailure ("write failed: " ++ e.message)

/-- Carries a burst to its end.  The flag says whether the data queue did its part. -/
def finishBurst (s : Setup) (now : Nat) (b : Burst) (m : Moved) (queued : Bool) (w : Worker) : Handled :=
  let (w, reply) :=
    if queued then w.credit s now b.connected m else (w, { status := .notEnoughData })
  let reply := { reply with latency := m.latency }
  match m.failure with
  | some e => { worker := { w with state := .error }, reply, report := some (transferFailure s e) }
  | none => { worker := w.afterBurst s now b.bytes reply.byteCount, reply }

end Worker

end AudioStream
