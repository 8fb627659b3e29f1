import AudioStream.Driver.Script
import AudioStream.Stream.Close
import AudioStream.Stream.Step

/-!
# A session on a stream

A session is an open stream with its driver, seen by one client who does one thing after another.  Time
passes only when someone waits: the worker goes on until it can do nothing more, and if the client still
waits the clock moves on to the next thing that is due.
-/

namespace AudioStream

inductive CallRecord where
  | prepare
  | made (call : DriverCall)

/-- What the worker is busy with until some time. -/
inductive Pursuit where
  | control (result : Except DriverError Unit)
  | transfer (answer : TransferAnswer) (uses : List DriverUse)
  | silence

/-- A stream in use by one client. -/
structure Session where
  stream : Stream
  driver : Hardware
  /-- How the client fails to take a notice, if it does. -/
  refusal : Notice → Option Error := fun _ => none
  now : Nat := 0
  /-- What the worker is busy with, and when that ends. -/
  busy : Option (Nat × Pursuit) := none
  /-- Whether the driver is kept from ending its calls. -/
  held : Bool := false
  /-- The calls of the driver that have not been shown, the oldest first. -/
  calls : List CallRecord := []
  unread : Nat := 0
  dropped : Bool := false

/-- A cookie that is none of the given ones. -/
def freshCookie (taken : List Int32) : Int32 :=
  (((List.range (taken.length + 1)).map Int32.ofNat).find? fun c => !taken.contains c).getD 0

namespace Hardware

/-- Whether the calls of a driver are kept on record. -/
def isRecorded : Hardware → Bool
  | stub _ => false
  | script _ => true

def record (d : Hardware) (call : CallRecord) : List CallRecord :=
  if d.isRecorded then [call] else []

end Hardware

namespace Session

def moment (s : Session) : Moment := ⟨s.now, s.refusal⟩

def withStream (s : Session) (stream : Stream) : Session := { s with stream }

/-! ## The worker -/

def placeCall (s : Session) (call : DriverCall) : Session :=
  let calls := s.calls ++ s.driver.record (.made call)
  match call with
  | .control c =>
    let (timed, driver) := Driver.control c s.driver
    { s with driver, calls, busy := some (s.now + timed.duration, .control timed.answer) }
  | .transfer buffer frames =>
    let (timed, driver) := Driver.transfer buffer frames s.driver
    let (answer, uses) := timed.answer
    { s with driver, calls, busy := some (s.now + timed.duration, .transfer answer uses) }

def conclude (s : Session) (pursuit : Pursuit) : Session :=
  let after := match pursuit with
    | .control result => s.stream.answerControl s.moment result
    | .transfer answer uses => (uses.foldl Stream.use s.stream).answerTransfer s.moment answer
    | .silence => s.stream.step s.moment
  { s with busy := none, stream := after.getD s.stream }

/-- The next thing that the worker does at the present moment, if it does anything. -/
def work (s : Session) : Option Session :=
  match s.busy with
  | some (ends, pursuit) => if ends ≤ s.now ∧ !s.held then some (s.conclude pursuit) else none
  | none =>
    match s.stream.call? with
    | some call => some (s.placeCall call)
    | none =>
      if s.stream.isSilent then
        some { s with busy := some (s.now + s.stream.setup.silenceTime, .silence) }
      else (s.stream.step s.moment).map s.withStream

/-- How many steps the worker is given at a single moment; it never needs as many. -/
def stepLimit : Nat := 1000

/-- Lets the worker go on for up to the given number of steps. -/
def workFor : Nat → Session → Session
  | 0, s => s
  | n + 1, s =>
    match s.work with
    | some after => workFor n after
    | none => s

/-- Lets the worker go on until it can do nothing more at the present moment. -/
def settle (s : Session) : Session := workFor stepLimit s

/-! ## Time -/

def nextEvent (s : Session) : Option Nat :=
  match s.busy with
  | some (ends, _) => if s.held then none else some ends
  | none =>
    match s.stream.stage with
    | .waiting deadline => deadline
    | _ => none

/-- Moves the clock on to a time that is not over. -/
def passTo (s : Session) (time : Nat) : Session := { s with now := max s.now time }

/-- Waits for an attempt to come off, until a deadline if there is one.  The attempt is made before the
worker goes on, and again whenever it has. -/
def await {α : Type} (deadline : Option Nat) (attempt : Session → Option (α × Session)) :
    Nat → Session → Option α × Session
  | 0, s => (none, s)
  | n + 1, s =>
    match attempt s with
    | some (a, s) => (some a, s)
    | none =>
      let s := s.settle
      match attempt s with
      | some (a, s) => (some a, s)
      | none =>
        let due := match s.nextEvent, deadline with
          | some t, some d => if t ≤ d then some t else none
          | some t, none => some t
          | none, _ => none
        match due, deadline with
        | some t, _ => await deadline attempt n (s.passTo t)
        | none, some d =>
          let s := (s.passTo d).settle
          match attempt s with
          | some (a, s) => (some a, s)
          | none => (none, s)
        | none, none => (none, s)

/-- How many times the clock moves on in one wait; a wait never needs as many. -/
def eventLimit : Nat := 1000

/-- Waits for an attempt to come off, for some time from now on. -/
def awaitFor {α : Type} (patience : Nat) (attempt : Session → Option (α × Session)) (s : Session) :
    Option α × Session :=
  s.await (some (s.now + patience)) attempt eventLimit

def sleep (s : Session) (time : Nat) : Session :=
  (s.awaitFor time fun _ => (none : Option (Unit × Session))).2

/-- Waits until the worker can do nothing more but for a command to come or a reply to be read. -/
def quiesce (s : Session) : Session :=
  (s.await none (fun s => match s.busy with
    | none =>
      let after := s.settle
      if after.busy.isNone then some ((), after) else none
    | some _ => none) eventLimit).2

/-! ## Sending and closing -/

/-- Until when a client waits that sends a command. -/
def sendDeadline : SendStage → Option Nat
  | .awaiting deadline => some deadline
  | _ => none

/-- Waits for the next step in sending a command. -/
def awaitSend (stage : SendStage) (s : Session) : Option SendStage × Session :=
  let attempt := fun s : Session =>
    (s.stream.sendStep s.now stage).map fun (stage, stream) => (stage, s.withStream stream)
  s.await (sendDeadline stage) attempt eventLimit

/-- Sends a command on from a stage; the result is missing if the client would wait for ever. -/
def sendFrom : Nat → SendStage → Session → Option (Except QueueError Reply) × Session
  | 0, _, s => (none, s)
  | n + 1, stage, s =>
    match stage with
    | .done result => (some result, s)
    | stage =>
      match s.awaitSend stage with
      | (some stage, s) => sendFrom n stage s
      | (none, s) => (none, s)

def send (s : Session) (command : Command) (patience : Nat) :
    Option (Except QueueError Reply) × Session :=
  sendFrom 5 (.writing command patience) s

/-- Waits for the next step in closing the stream. -/
def awaitClose (stage : CloseStage) (s : Session) : Option CloseStage × Session :=
  let attempt := fun s : Session =>
    (s.stream.closeStep stage).map fun (stage, stream) => (stage, s.withStream stream)
  s.await none attempt eventLimit

/-- Closes the stream on from a stage; the result is missing if that takes for ever. -/
def closeFrom : Nat → CloseStage → Session → Option (Except StreamError Unit) × Session
  | 0, _, s => (none, s)
  | n + 1, stage, s =>
    match stage with
    | .done result => (some result, s)
    | stage =>
      match s.awaitClose stage with
      | (some stage, s) => closeFrom n stage s
      | (none, s) => (none, s)

/-- How many stages closing can go through. -/
def closeLimit : Nat := 10

def close (s : Session) : Option (Except StreamError Unit) × Session := closeFrom closeLimit .arriving s

/-- Takes the steps of closing that need no waiting: the stage reached. -/
def closeAhead : Nat → CloseStage → Session → CloseStage × Session
  | 0, stage, s => (stage, s)
  | n + 1, stage, s =>
    match s.stream.closeStep stage with
    | some (stage, stream) => closeAhead n stage (s.withStream stream)
    | none => (stage, s)

/-! ## Opening -/

/-- Opens a session on a transport.  If that fails, the calls made so far come with the error. -/
def start (direction : Direction) (t : Transport) (driver : Hardware) (cookie : Int32)
    (microphones : List (Device × String)) (refusal : Notice → Option Error)
    (devices : Option (List Device)) : Except (Error × List CallRecord) Session :=
  match Stream.mayOpen direction t with
  | .error e => .error (e, [])
  | .ok _ =>
    let calls := driver.record .prepare
    match Driver.prepare driver with
    | (.error e, _) => .error (Stream.preparationFailure e, calls)
    | (.ok _, driver) =>
      let stream := Stream.opened direction t cookie microphones
      let stream := match devices with
        | some devices => stream.connect devices
        | none => stream
      .ok (settle { stream, driver, refusal, calls })

end Session

end AudioStream
