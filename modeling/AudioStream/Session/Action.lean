import AudioStream.Session.Basic

/-!
# What a client does in a session

Each action of the client has an outcome.  After an action the worker goes on as far as it can.  A
client may leave replies unread: the first one lies in the reply queue, the worker is stuck with the
second one, and a third command lies in the command queue.  One more command would wait for ever, so it
is not sent.
-/

namespace AudioStream

namespace Session

/-- What a client can do; times are in milliseconds. -/
inductive Action where
  | send (command : Command) (patience : Nat)
  | post (command : Command)
  | readReply (patience : Nat)
  | tryReadReply
  | write (bytes : List UInt8)
  | read (count : Nat)
  | connect (devices : List Device)
  | devices
  | microphones
  | notifications
  | waitNotification (patience : Nat)
  /-- Takes all reports, after waiting for the first one; if the stream is to come to rest, then waits
  for both message queues to be shut down. -/
  | errors (patience : Nat) (toRest : Bool)
  | checkErrors
  | isClosed
  | prepareToClose
  | close
  /-- Closes the stream while a transfer for a burst is held back. -/
  | closeDuringBurst (bytes : Int32)
  | shutdown (channel : Channel)
  | sleep (time : Nat)
  | drop
  | queues
  | descriptor

structure ClosedDuringBurst where
  /-- What preparing to close gives while the transfer is held back. -/
  prepare : Except StreamError Unit
  second : Except StreamError Unit
  closedMeanwhile : Bool
  first : Except StreamError Unit
  closed : Bool
  third : Except StreamError Unit

inductive Outcome where
  | ok
  | failed (e : Error)
  /-- The action would have to wait for ever, and is not taken. -/
  | wouldBlock
  | gone
  | calls (calls : Option (List CallRecord))
  | reply (reply : Reply) (calls : Option (List CallRecord))
  | noReply
  | wrote (done : Bool) (data : DataQueue)
  /-- The bytes that were read, if all of them were there. -/
  | read (bytes : Option (List UInt8)) (data : DataQueue)
  | connected (devices : List Device)
  | devices (devices : List Device)
  | microphones (microphones : List ActiveMicrophone)
  | notices (notices : List Notice)
  | notice (notice : Option Notice)
  | errors (errors : List StreamError)
  | error (error : Option StreamError)
  | isClosed (closed : Bool)
  | prepared (result : Except StreamError Unit)
  | closed (result : Except StreamError Unit) (calls : List CallRecord) (closed : Bool)
  | closedDuringBurst (seen : ClosedDuringBurst) (calls : List CallRecord)
  | transport (t : Transport)
  | descriptor (d : Descriptor)

/-- The calls made since they were last shown.  They are held back while the worker cannot have come to
rest. -/
def showCalls (s : Session) : Option (List CallRecord) × Session :=
  if s.unread < 2 then (some s.calls, { s with calls := [] }) else (none, s)

def showAllCalls (s : Session) : List CallRecord × Session := (s.calls, { s with calls := [] })

def replied (s : Session) (reply : Reply) : Outcome × Session :=
  let (calls, s) := s.showCalls
  (.reply reply calls, s)

/-- Sends a command.  The reply that comes is the oldest one that has not been read, so the worker may
still be busy with the command; it is let come to rest. -/
def performSend (s : Session) (command : Command) (patience : Nat) : Outcome × Session :=
  match s.send command (patience * millisecond) with
  | (some (.ok reply), after) => after.quiesce.replied reply
  | (some (.error e), after) => (.failed (.queue e), after.settle)
  | (none, _) => (.wouldBlock, s)

def performPost (s : Session) (command : Command) : Outcome × Session :=
  let attempt (s : Session) : Option (Except QueueError Unit × Session) :=
    match s.stream.writeCommand command with
    | .done stream => some (Except.ok (), s.withStream stream)
    | .failed e => some (Except.error e, s)
    | .waits => none
  match s.await none attempt eventLimit with
  | (some (.ok _), after) =>
    let after := { after with unread := after.unread + 1 }.quiesce
    let (calls, after) := after.showCalls
    (.calls calls, after)
  | (some (.error e), after) => (.failed (.queue e), after)
  | (none, _) => (.wouldBlock, s)

def performReadReply (s : Session) (patience : Nat) : Outcome × Session :=
  let attempt (s : Session) : Option (Except QueueError Reply × Session) :=
    match s.stream.readReply with
    | .done (reply, stream) => some (Except.ok reply, s.withStream stream)
    | .failed e => some (Except.error e, s)
    | .waits => none
  match s.awaitFor (patience * millisecond) attempt with
  | (some (.ok reply), after) => { after with unread := after.unread - 1 }.quiesce.replied reply
  | (some (.error e), after) => (.failed (.queue e), after)
  | (none, after) => (.noReply, after)

def performTryReadReply (s : Session) : Outcome × Session :=
  match s.stream.tryReadReply with
  | (some reply, stream) =>
    { s with stream, unread := s.unread - 1 }.quiesce.replied reply
  | (none, _) => (.noReply, s)

def takeNotice (s : Session) : Option (Notice × Session) :=
  match s.stream.notices with
  | [] => none
  | notice :: notices => some (notice, s.withStream { s.stream with notices })

def isAtRest (s : Session) : Bool :=
  !s.stream.transport.commands.isValid && !s.stream.transport.replies.isValid

/-- How long a client waits in milliseconds for the message queues to be shut down. -/
def restPatience : Nat := 2000

/-- Takes all reports after waiting for the first one, and then waits for the message queues to be shut
down if it is to come to rest. -/
def performErrors (s : Session) (patience : Nat) (toRest : Bool) : Outcome × Session :=
  let arrived := fun s : Session => if s.stream.reports.isEmpty then none else some ((), s)
  let rested := fun s : Session => if s.isAtRest then some ((), s) else none
  let s := (s.awaitFor (patience * millisecond) arrived).2
  let taken := s.withStream { s.stream with reports := [] }
  let after := if toRest then (taken.awaitFor (restPatience * millisecond) rested).2 else taken
  (.errors s.stream.reports, after)

def performClose (s : Session) : Outcome × Session :=
  match s.close with
  | (some result, after) =>
    let (calls, after) := after.settle.showAllCalls
    (.closed result calls after.stream.closed, after)
  | (none, _) => (.wouldBlock, s)

/-- Closes the stream while the transfer for a burst is held back.  Someone else tries to close it
meanwhile, and once more when it is closed. -/
def performCloseDuringBurst (s : Session) (bytes : Int32) : Outcome × Session :=
  match s.stream.writeCommand (.burst bytes) with
  | .failed e => (.failed (.queue e), s)
  | .waits => (.wouldBlock, s)
  | .done stream =>
    let s := settle { s with stream, held := true }
    let (stage, s) := s.closeAhead closeLimit .arriving
    let prepare := s.stream.prepareToClose
    let (second, s) := s.close
    let closedMeanwhile := s.stream.closed
    let (first, s) := closeFrom closeLimit stage { s with held := false }
    let closed := s.stream.closed
    let (third, s) := s.close
    match first, second, third with
    | some first, some second, some third =>
      let (calls, s) := s.settle.showAllCalls
      (.closedDuringBurst { prepare, second, closedMeanwhile, first, closed, third } calls, s)
    | _, _, _ => (.wouldBlock, s)

/-- Lets go of the stream, and closes it if nobody has. -/
def performDrop (s : Session) : Outcome × Session :=
  let after := if s.stream.taken then s else s.close.2
  let (calls, after) := after.settle.showCalls
  (.calls calls, { after with dropped := true })

/-- Whether an action is one on the stream itself, rather than on its queues. -/
def Action.needsStream : Action → Bool
  | .connect _ | .devices | .microphones | .errors _ _ | .checkErrors | .isClosed | .prepareToClose
  | .close | .closeDuringBurst _ => true
  | _ => false

def act (s : Session) : Action → Outcome × Session
  | .send command patience => s.performSend command patience
  | .post command => s.performPost command
  | .readReply patience => s.performReadReply patience
  | .tryReadReply => s.performTryReadReply
  | .write bytes =>
    match s.stream.writeData bytes with
    | some stream => (.wrote true stream.transport.data, s.withStream stream)
    | none => (.wrote false s.stream.transport.data, s)
  | .read count =>
    match s.stream.readData count with
    | some (bytes, stream) => (.read (some bytes) stream.transport.data, s.withStream stream)
    | none => (.read none s.stream.transport.data, s)
  | .connect devices => (.connected devices, s.withStream (s.stream.connect devices))
  | .devices => (.devices s.stream.devices, s)
  | .microphones => (.microphones s.stream.activeMicrophones, s)
  | .notifications => (.notices s.stream.notices, s.withStream { s.stream with notices := [] })
  | .waitNotification patience =>
    let (notice, s) := s.awaitFor (patience * millisecond) takeNotice
    (.notice notice, s)
  | .errors patience toRest => s.performErrors patience toRest
  | .checkErrors =>
    let (error, stream) := s.stream.checkErrors
    (.error error, s.withStream stream)
  | .isClosed => (.isClosed s.stream.closed, s)
  | .prepareToClose => (.prepared s.stream.prepareToClose, s)
  | .close => s.performClose
  | .closeDuringBurst bytes => s.performCloseDuringBurst bytes
  | .shutdown channel => (.ok, s.withStream (s.stream.shutdown channel))
  | .sleep time => (.ok, s.sleep (time * millisecond))
  | .drop => s.performDrop
  | .queues => (.transport s.stream.transport, s)
  | .descriptor => (.descriptor s.stream.transport.describe, s)

/-- Takes an action, and lets the worker go on as far as it can. -/
def perform (s : Session) (action : Action) : Outcome × Session :=
  if s.dropped && action.needsStream then (.gone, s)
  else
    let (outcome, s) := s.act action
    (outcome, s.settle)

end Session

end AudioStream
