import AudioStream.Worker.Burst
import AudioStream.Worker.Decision

/-!
# Cycles of a worker

In one cycle a worker resolves a transient state whose delay has run out, waits for a command, and
carries it out.  A turn holds all that the worker meets in a cycle: the clock, the command, the
connection, the driver, and what the client does to the data queue meanwhile.  So a run of a worker is a
list of turns.
-/

namespace AudioStream

/-- What a client does to the data queue. -/
inductive Access where
  | write (bytes : List UInt8)
  | read (count : Nat)

namespace DataQueue

/-- Lets the client at the queue: the queue after it, and the bytes that the client read. -/
def serve (q : DataQueue) : List Access → DataQueue × List UInt8
  | [] => (q, [])
  | .write bytes :: rest => ((q.write bytes).getD q).serve rest
  | .read count :: rest =>
    match q.read count with
    | some (bytes, q) =>
      let (q, more) := q.serve rest
      (q, bytes ++ more)
    | none => q.serve rest

end DataQueue

namespace Notice

/-- The error to report when a client fails to take a notice. -/
def failure (n : Notice) (e : Error) : StreamError := .callback ("on_" ++ n.name ++ ": " ++ e.message)

end Notice

/-- What a worker meets in one cycle. -/
structure Turn where
  begins : Nat
  now : Nat
  /-- The command that comes, unless the wait for one runs out. -/
  heard : Option Command
  /-- Whether a device is connected when the command is read. -/
  connected : Bool
  /-- What the client does to the data queue before the worker looks at it. -/
  before : List Access := []
  /-- What the client does to the data queue after the worker has looked at it. -/
  during : List Access := []
  /-- How the client fails to take a notice, if it does. -/
  refusal : Notice → Option Error := fun _ => none
  control : Control → Timed (Except DriverError Unit)
  transfer : List UInt8 → Nat → Timed TransferAnswer
  /-- How much longer than it has to the worker is busy with a burst for which it does not call the driver. -/
  lag : Nat := 0

structure Bench where
  worker : Worker
  data : DataQueue

structure Cycle where
  /-- The time at which the command is carried out. -/
  ends : Nat
  notice : Option Notice := none
  call : Option DriverCall := none
  reports : List StreamError := []
  reply : Option Reply := none
  stops : Bool := false
  /-- The bytes that the client read from the data queue. -/
  served : List UInt8 := []

/-- A transfer in a cycle: the worker after it, what it moved, its call, and the time when it ends. -/
structure Transferred where
  worker : Worker
  moved : Moved
  call : Option DriverCall
  ends : Nat

namespace Bench

/-- A worker that has just been opened, and an empty data queue. -/
def initial (s : Setup) (data : DataQueue) : Bench := ⟨Worker.initial s, data⟩

/-- Has the first `size` bytes of the buffer moved by the driver, or does without it. -/
def transfer (s : Setup) (t : Turn) (size : Nat) (w : Worker) : Transferred :=
  if t.connected then
    let timed := t.transfer (w.buffer.take size) (s.frames size)
    let (worker, moved) := w.afterTransfer s size timed.answer
    ⟨worker, moved, some (w.transferCall s size), t.now + timed.duration⟩
  else
    let (worker, moved) := w.withoutDevice s size
    ⟨worker, moved, none, t.now + s.silenceTime + t.lag⟩

def capture (s : Setup) (t : Turn) (bytes : Nat) (bench : Bench) : DataQueue × Handled × Cycle :=
  let r := transfer s t (s.captureSize bytes bench.data.writable) bench.worker
  let (data, served) := bench.data.serve t.during
  let finish := r.worker.finishBurst s r.ends ⟨bytes, t.connected⟩ r.moved
  let seen : Cycle := { ends := r.ends, call := r.call, served }
  match data.write (r.worker.movedBytes s r.moved) with
  | some data => (data, finish true, seen)
  | none => (data, finish false, seen)

def playback (s : Setup) (t : Turn) (bytes : Nat) (bench : Bench) : DataQueue × Handled × Cycle :=
  let count := s.playbackTake bench.data.readable
  let (data, served) := bench.data.serve t.during
  match data.read count with
  | some (taken, data) =>
    let r := transfer s t (s.playbackSize bytes count) (bench.worker.fill taken)
    (data, r.worker.finishBurst s r.ends ⟨bytes, t.connected⟩ r.moved true,
      { ends := r.ends, call := r.call, served })
  | none =>
    (data, bench.worker.finishBurst s (t.now + t.lag) ⟨bytes, t.connected⟩ { frames := 0 } false,
      { ends := t.now + t.lag, served })

def burst (s : Setup) (t : Turn) (bytes : Nat) (bench : Bench) : DataQueue × Handled × Cycle :=
  match s.direction with
  | .input => bench.capture s t bytes
  | .output => bench.playback s t bytes

/-- Carries out a command, with what can be seen of it. -/
def handle (s : Setup) (t : Turn) (command : Command) (bench : Bench) : Bench × Cycle :=
  match bench.worker.react s t.now t.connected command with
  | .stop => (bench, { ends := t.now, stops := true })
  | .reply h =>
    (⟨h.worker, bench.data⟩, { ends := t.now, reply := some h.answer, reports := h.report.toList })
  | .control call next =>
    let timed := t.control call
    let ends := t.now + timed.duration
    let h := bench.worker.afterControl ends t.connected call next timed.answer
    (⟨h.worker, bench.data⟩,
      { ends, call := some (.control call), reply := some h.answer, reports := h.report.toList })
  | .burst bytes =>
    let (data, h, seen) := bench.burst s t bytes
    (⟨h.worker, data⟩, { seen with reply := some h.answer, reports := h.report.toList })

def cycle (s : Setup) (bench : Bench) (t : Turn) : Bench × Cycle :=
  let (w, notice) := bench.worker.resolve s t.begins
  let refused := (notice.bind fun n => (t.refusal n).map n.failure).toList
  let (data, served) := bench.data.serve t.before
  let (after, seen) : Bench × Cycle := match t.heard with
    | none => (⟨w, data⟩, { ends := t.begins })
    | some command => handle s t command ⟨w, data⟩
  (after, { seen with notice, reports := refused ++ seen.reports, served := served ++ seen.served })

/-- A run of a worker: the cycles of a list of turns, up to the one in which the worker ends. -/
def run (s : Setup) (bench : Bench) : List Turn → Bench × List Cycle
  | [] => (bench, [])
  | t :: turns =>
    let (after, seen) := bench.cycle s t
    if seen.stops then (after, [seen])
    else
      let (last, cycles) := after.run s turns
      (last, seen :: cycles)

end Bench

end AudioStream
