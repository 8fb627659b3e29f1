import AudioStream.Driver.Basic
import AudioStream.Transport

/-!
# The worker of a stream

The worker owns the state of a stream.  It reads a command, carries it out, and writes one reply.  This
module holds what a worker knows and the small changes that all commands are made of: entering a state,
counting frames, and filling in a reply.  Times are readings of one clock, in nanoseconds.
-/

namespace AudioStream

/-- The way that the frames of a stream go. -/
inductive Direction where
  | input
  | output
  deriving DecidableEq

namespace Direction

def name : Direction → String
  | input => "input"
  | output => "output"

end Direction

/-- What a client is told when a transient state resolves. -/
inductive Notice where
  /-- The data queue can take more data. -/
  | transferReady
  | drainReady
  deriving DecidableEq

namespace Notice

def name : Notice → String
  | transferReady => "transfer_ready"
  | drainReady => "drain_ready"

end Notice

/-- What a worker is set up with once and for all. -/
structure Setup where
  direction : Direction
  frameSize : Nat
  /-- The size in bytes of the data queue and of the buffer for transfers. -/
  bufferSize : Nat
  /-- Whether the client is told when a transient state resolves. -/
  notifies : Bool
  delay : Nat
  /-- Whether playback bursts are made one frame short. -/
  shortBursts : Bool
  /-- Whether a drain of an active playback stream ends at once. -/
  synchronousDrain : Bool
  /-- The cookie of the one exit command that counts. -/
  cookie : Int32

namespace Setup

def ofTransport (t : Transport) (direction : Direction) (cookie : Int32) : Setup where
  direction := direction
  frameSize := t.frameSize
  bufferSize := t.data.quantumCount * DataQueue.quantumSize
  notifies := t.notifies
  delay := t.debug.transientDelay.toNat * millisecond
  shortBursts := t.debug.shortBursts
  synchronousDrain := t.debug.synchronousDrain
  cookie := cookie

end Setup

/-- What a worker knows and changes. -/
structure Worker where
  state : State := .standby
  /-- The time at which the transient state was entered, if the state is transient. -/
  since : Nat := 0
  frameCount : Int64 := 0
  buffer : List UInt8

namespace Worker

def initial (s : Setup) : Worker := { buffer := List.replicate s.bufferSize 0 }

/-- Enters a state.  The time of entry is kept if the state is transient. -/
def enter (w : Worker) (now : Nat) (next : State) : Worker :=
  if next.isTransient then { w with state := next, since := now } else { w with state := next }

/-- A reading of the clock as a reply tells it: the greatest word of its size stands for any that is too
great. -/
def reportedTime (now : Nat) : Int64 :=
  if now ≤ Int64.maxValue.toInt then Int64.ofNat now else Int64.maxValue

/-- The position that is told: the frames moved so far, or nothing if there is no device. -/
def position (w : Worker) (now : Nat) (connected : Bool) : Position :=
  if connected then ⟨w.frameCount, reportedTime now⟩ else .unknown

/-- A reply that says that the command succeeded. -/
def succeed (w : Worker) (now : Nat) (connected : Bool) (r : Reply) : Reply :=
  { r with status := .ok, observable := w.position now connected }

/-- A number of bytes as a reply tells it: the greatest word of its size stands for any that is too
great. -/
def reportedBytes (n : Nat) : Int32 :=
  if n ≤ Int32.maxValue.toInt then Int32.ofNat n else Int32.maxValue

def count (w : Worker) (frames : Nat) : Worker :=
  { w with frameCount := w.frameCount + Int64.ofNat frames }

/-- Puts bytes into the front of the buffer, as many as it has room for. -/
def fill (w : Worker) (bytes : List UInt8) : Worker :=
  let bytes := bytes.take w.buffer.length
  { w with buffer := bytes ++ w.buffer.drop bytes.length }

end Worker

/-- How a command was carried out: the worker after it, its reply, and the error to report, if any. -/
structure Handled where
  worker : Worker
  reply : Reply
  report : Option StreamError := none

namespace Handled

/-- The reply with the state that the worker is left in. -/
def answer (h : Handled) : Reply := { h.reply with state := h.worker.state }

end Handled

end AudioStream
