import AudioStream.Stream.Basic
import AudioStream.Worker.Cycle

/-!
# Steps of the worker

The worker goes through its cycles in steps, and others may get hold of the stream between any two of
them.  A step touches one queue, or the connection flag, or the list of reports.  A step that has to
wait for someone else does not happen.  While the driver is in a call the worker waits for its answer.
-/

namespace AudioStream

/-- When a step happens, and how the client takes a notice. -/
structure Moment where
  now : Nat
  /-- The error of a client that fails to take a notice. -/
  refusal : Notice → Option Error := fun _ => none

namespace Stream

/-- Leaves the worker with a reply to write, and reports what went wrong. -/
def handled (s : Stream) (command : Command) (h : Handled) : Stream :=
  let after := { s with worker := h.worker, stage := .replying command h.answer }
  match h.report with
  | some e => after.report e
  | none => after

def abort (s : Stream) (reason : String) : Stream :=
  { s with worker := { s.worker with state := .error }, stage := .reporting reason }

/-- Begins a cycle: resolves a transient state whose delay has run out, and tells the client. -/
def beginCycle (m : Moment) (s : Stream) : Stream :=
  let (worker, notice) := s.worker.resolve s.setup m.now
  let after := { s with worker, stage := .arming, notices := s.notices ++ notice.toList }
  match notice.bind fun n => (m.refusal n).map n.failure with
  | some e => after.report e
  | none => after

/-- Takes a command, or ends the wait for one when its time has run out. -/
def awaitCommand (m : Moment) (deadline : Option Nat) (s : Stream) : Option Stream :=
  match s.transport.commands.read with
  | .done (command, commands) =>
    some { s with transport := { s.transport with commands }, stage := .sampling command }
  | .failed e => some (s.abort ("reading of command from queue failed: " ++ e.message))
  | .waits =>
    match deadline with
    | some time => if time ≤ m.now then some { s with stage := .fresh } else none
    | none => none

def beginCommand (m : Moment) (command : Command) (s : Stream) : Stream :=
  match s.worker.react s.setup m.now s.connected command with
  | .stop => { s with closed := true, stage := .leaving }
  | .reply h => s.handled command h
  | .control call next => { s with stage := .handling command (.controlling s.connected call next) }
  | .burst bytes => { s with stage := .handling command (.looking ⟨bytes, s.connected⟩) }

/-- Goes on after a transfer: captured bytes are appended, played ones are counted. -/
def afterMoving (m : Moment) (command : Command) (b : Burst) (moved : Worker × Moved) (s : Stream) :
    Stream :=
  match s.setup.direction with
  | .input => { s with worker := moved.1, stage := .handling command (.appending b moved.2) }
  | .output => s.handled command (moved.1.finishBurst s.setup m.now b moved.2 true)

/-- Goes on with the task of a command, unless it has to wait for the driver. -/
def continueTask (m : Moment) (command : Command) (s : Stream) : Task → Option Stream
  | .looking b =>
    match s.setup.direction with
    | .input =>
      let size := s.setup.captureSize b.bytes s.transport.data.writable
      some { s with stage := .handling command (.moving b size) }
    | .output =>
      let count := s.setup.playbackTake s.transport.data.readable
      some { s with stage := .handling command (.taking b count) }
  | .taking b count =>
    match s.transport.data.read count with
    | some (bytes, data) => some { s with
        worker := s.worker.fill bytes
        transport := { s.transport with data }
        stage := .handling command (.moving b (s.setup.playbackSize b.bytes count)) }
    | none => some (s.handled command
        (s.worker.finishBurst s.setup m.now b { frames := 0 } false))
  | .moving b size =>
    if b.connected then none
    else some (s.afterMoving m command b (s.worker.withoutDevice s.setup size))
  | .appending b moved =>
    match s.transport.data.write (s.worker.movedBytes s.setup moved) with
    | some data =>
      let s := { s with transport := { s.transport with data } }
      some (s.handled command (s.worker.finishBurst s.setup m.now b moved true))
    | none => some (s.handled command (s.worker.finishBurst s.setup m.now b moved false))
  | .controlling _ _ _ => none

def writeReply (reply : Reply) (s : Stream) : Option Stream :=
  match s.transport.replies.write reply with
  | .done replies => some { s with transport := { s.transport with replies }, stage := .fresh }
  | .failed e =>
    some (s.abort ("writing of reply " ++ reply.text ++ " to queue failed: " ++ e.message))
  | .waits => none

/-- A step of the worker; nothing if it has to wait, is in a driver call, or has stopped. -/
def step (m : Moment) (s : Stream) : Option Stream :=
  match s.stage with
  | .fresh => some (s.beginCycle m)
  | .arming =>
    some { s with stage := .waiting ((s.worker.timeLeft s.setup m.now).map (m.now + ·)) }
  | .waiting deadline => s.awaitCommand m deadline
  | .sampling command => some (s.beginCommand m command)
  | .handling command task => s.continueTask m command task
  | .replying _ reply => s.writeReply reply
  | .reporting reason => some ({ s with stage := .closingCommands }.report (.queueFailure reason))
  | .closingCommands => some { s.shutdown .command with stage := .closingReplies }
  | .closingReplies => some { s.shutdown .reply with stage := .stopped }
  | .leaving => some { s with stage := .stopped }
  | .stopped => none

/-- The driver call that the worker is in. -/
def call? (s : Stream) : Option DriverCall :=
  match s.stage with
  | .handling _ (.moving b size) =>
    if b.connected then some (s.worker.transferCall s.setup size) else none
  | .handling _ (.controlling _ call _) => some (.control call)
  | _ => none

/-- Whether the worker is about to do without a device. -/
def isSilent (s : Stream) : Bool :=
  match s.stage with
  | .handling _ (.moving b _) => !b.connected
  | _ => false

def answerControl (m : Moment) (result : Except DriverError Unit) (s : Stream) : Option Stream :=
  match s.stage with
  | .handling command (.controlling connected call next) =>
    some (s.handled command (s.worker.afterControl m.now connected call next result))
  | _ => none

def answerTransfer (m : Moment) (answer : TransferAnswer) (s : Stream) : Option Stream :=
  match s.stage with
  | .handling command (.moving b size) =>
    if b.connected then
      some (s.afterMoving m command b (s.worker.afterTransfer s.setup size answer))
    else none
  | _ => none

/-- The driver uses the stream in the midst of a transfer. -/
def use (s : Stream) : DriverUse → Stream
  | .inject bytes => (s.writeData bytes).getD s
  | .connect devices => s.connect devices

end Stream

end AudioStream
