import AudioStream.Worker.Burst
import AudioStream.Worker.Decision

/-!
# An open stream

An open stream is shared by its worker, its client, the layer that connects it to devices, and whoever
closes it.  This module holds what they share and what each of the last three does to it in one step.
The steps of the worker are in `AudioStream.Stream.Step`, those of closing in `AudioStream.Stream.Close`.
-/

namespace AudioStream

/-- What the worker is about to do for the command that it carries out. -/
inductive Task where
  | looking (b : Burst)
  | taking (b : Burst) (count : Nat)
  /-- Have the first `size` bytes of its buffer moved. -/
  | moving (b : Burst) (size : Nat)
  | appending (b : Burst) (m : Moved)
  /-- Hear from the driver how a control call went. -/
  | controlling (connected : Bool) (call : Control) (next : State)

inductive Stage where
  | fresh
  /-- About to see how long it may wait. -/
  | arming
  /-- Waiting for a command, up to a time if there is a deadline. -/
  | waiting (deadline : Option Nat)
  /-- With a command, about to see whether a device is connected. -/
  | sampling (command : Command)
  | handling (command : Command) (task : Task)
  | replying (command : Command) (reply : Reply)
  | reporting (reason : String)
  | closingCommands
  | closingReplies
  /-- Told to end, with the stream marked as closed. -/
  | leaving
  | stopped

structure Stream where
  setup : Setup
  transport : Transport
  worker : Worker
  stage : Stage := .fresh
  /-- Whether the stream is connected, as the worker sees it. -/
  connected : Bool := false
  devices : List Device := []
  microphones : List (Device × String) := []
  /-- The errors reported by the worker and not yet seen, the oldest first. -/
  reports : List StreamError := []
  /-- The notices given to the client, the oldest first. -/
  notices : List Notice := []
  closed : Bool := false
  taken : Bool := false
  released : Bool := false

namespace Stream

/-- How many reports are kept for the client; more are dropped. -/
def reportCapacity : Nat := 16

/-- Reports an error, unless too many reports are unseen. -/
def report (s : Stream) (e : StreamError) : Stream :=
  if s.reports.length < reportCapacity then { s with reports := s.reports ++ [e] } else s

/-- The oldest report that has not been seen, which is seen then. -/
def checkErrors (s : Stream) : Option StreamError × Stream :=
  match s.reports with
  | [] => (none, s)
  | e :: rest => (some e, { s with reports := rest })

/-! ## Opening -/

def mayOpen (direction : Direction) (t : Transport) : Except Error Unit :=
  if direction = .input ∧ t.notifies then
    .error (.stream (.workerInit "async callbacks are only supported on output streams"))
  else t.validate.mapError Error.transport

def preparationFailure (e : DriverError) : Error :=
  .stream (.workerInit ("failed to initialize the driver: " ++ e.message))

/-- A stream that has just been opened.  Only a capture stream has microphones. -/
def opened (direction : Direction) (t : Transport) (cookie : Int32)
    (microphones : List (Device × String)) : Stream :=
  let setup := Setup.ofTransport t direction cookie
  let microphones := match direction with
    | .input => microphones
    | .output => []
  { setup, transport := t, worker := Worker.initial setup, microphones }

/-! ## Routing -/

def setConnected (s : Stream) (connected : Bool) : Stream := { s with connected }

def setDevices (s : Stream) (devices : List Device) : Stream := { s with devices }

/-- Connects the stream to devices: first the flag, then the list. -/
def connect (s : Stream) (devices : List Device) : Stream :=
  (s.setConnected !devices.isEmpty).setDevices devices

/-- The microphone of a device; the last of equal devices counts. -/
def microphone? (s : Stream) (device : Device) : Option String :=
  s.microphones.reverse.lookup device

def activeMicrophones (s : Stream) : List ActiveMicrophone :=
  (s.devices.filterMap s.microphone?).map fun id =>
    ⟨id, UInt64.ofNat s.transport.geometry.layout.channelCount⟩

/-! ## Queues -/

/-- Writes to the data queue, all of the bytes or none. -/
def writeData (s : Stream) (bytes : List UInt8) : Option Stream :=
  (s.transport.data.write bytes).map fun data => { s with transport := { s.transport with data } }

/-- Reads from the data queue, all of the bytes or none. -/
def readData (s : Stream) (count : Nat) : Option (List UInt8 × Stream) :=
  (s.transport.data.read count).map fun (bytes, data) =>
    (bytes, { s with transport := { s.transport with data } })

def shutdown (s : Stream) (channel : Channel) : Stream :=
  { s with transport := s.transport.shutdown channel }

def writeCommand (s : Stream) (command : Command) : Attempt Stream :=
  match s.transport.commands.write command with
  | .done commands => .done { s with transport := { s.transport with commands } }
  | .failed e => .failed e
  | .waits => .waits

def readReply (s : Stream) : Attempt (Reply × Stream) :=
  match s.transport.replies.read with
  | .done (reply, replies) => .done (reply, { s with transport := { s.transport with replies } })
  | .failed e => .failed e
  | .waits => .waits

def tryReadReply (s : Stream) : Option Reply × Stream :=
  match s.transport.replies.tryRead with
  | (reply, replies) => (reply, { s with transport := { s.transport with replies } })

end Stream

end AudioStream
