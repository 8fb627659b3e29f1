import AudioStream.Coding.Protocol
import AudioStream.Config.Toml
import AudioStream.Driver.Stub
import AudioStream.Json.Printer
import AudioStream.Worker.Cycle

/-!
# Demonstrations

Two scripts show a stream on the stub driver.  The capture script reads what each of its first bursts
brings; the playback script writes silence before each burst and drains the stream in the end.  A burst
moves a quarter of the buffer.  Each command is shown with its reply.  A script fails when a reply takes
too long, or when the stream is still draining after some time; what was shown so far remains.
-/

namespace AudioStream

structure Exchange where
  command : Command
  reply : Reply

instance : Coded Exchange where
  encode x := .record [("command", encode x.command), ("reply", encode x.reply)]
  decode f d := do
    let [command, reply] ← d.fields? f ["command", "reply"] | none
    some ⟨← Datum.required f command, ← Datum.required f reply⟩

/-- An exchange as a line of JSON, with the members of each record in the order of their keys. -/
def Exchange.line (x : Exchange) : String := Json.render (encode x).sorted

inductive DemoFailure where
  | error (cause : Error)
  | stillDraining
  deriving DecidableEq

def DemoFailure.message : DemoFailure → String
  | error cause => cause.message
  | stillDraining => "stream is still draining after 5s"

structure Demo where
  setup : Setup
  bench : Bench
  driver : Stub
  now : Nat := 0
  /-- What the client does to the data queue before its next command. -/
  owed : List Access := []
  /-- The exchanges so far, the first one first. -/
  shown : List Exchange := []

/-- A step of a script.  If it fails, what was shown so far is left. -/
abbrev DemoStep := Demo → Except (DemoFailure × Demo) Demo

structure DemoReport where
  failure : Option DemoFailure
  shown : List Exchange

namespace Demo

def patience : Nat := 5000 * millisecond

/-- How long the playback script waits for a drain to end. -/
def drainPatience : Nat := 5000 * millisecond

/-- The time between two looks at a stream that is draining. -/
def pollInterval : Nat := 5 * millisecond

def initial (direction : Direction) (t : Transport) (seed : UInt32) : Demo :=
  let setup := Setup.ofTransport t direction 0
  { setup, bench := Bench.initial setup t.data, driver := Stub.ofTransport t (direction = .input) seed }

def turn (d : Demo) (command : Command) : Turn where
  begins := d.now
  now := d.now
  heard := some command
  connected := true
  before := d.owed
  control call := (Driver.control call d.driver).1
  transfer buffer frames :=
    let timed := (Driver.transfer buffer frames d.driver).1
    ⟨timed.answer.1, timed.duration⟩

def driverAfter (driver : Stub) : Option DriverCall → Stub
  | some (.control call) => (Driver.control call driver).2
  | some (.transfer buffer frames) => (Driver.transfer buffer frames driver).2
  | none => driver

def send (d : Demo) (command : Command) : Except (DemoFailure × Demo) (Reply × Demo) :=
  let (bench, seen) := d.bench.cycle d.setup (d.turn command)
  let after := { d with bench, driver := driverAfter d.driver seen.call, now := seen.ends, owed := [] }
  match seen.reply with
  | some reply =>
    if seen.ends - d.now < patience then
      .ok (reply, { after with shown := d.shown ++ [⟨command, reply⟩] })
    else .error (.error (.queue .timeout), after)
  | none => .error (.error (.queue .shutDown), after)

/-- Sends a command whose reply does not matter for what follows. -/
def say (command : Command) : DemoStep := fun d => (d.send command).map (·.2)

/-- Sends a command and will read the bytes that it brings. -/
def fetch (command : Command) : DemoStep := fun d => do
  let (reply, d) ← d.send command
  return { d with owed := [.read reply.byteCount.toInt.toNat] }

def feed (bytes : Nat) (command : Command) : DemoStep := fun d =>
  say command { d with owed := d.owed ++ [Access.write (List.replicate bytes 0)] }

def follow (steps : List DemoStep) : DemoStep := fun d =>
  steps.foldlM (fun d step => step d) d

/-- Looks at a stream until it is no longer draining; fails when the deadline has passed.  The first
argument bounds the number of looks. -/
def poll (deadline : Nat) : Nat → DemoStep
  | 0, d => .error (.stillDraining, d)
  | n + 1, d => do
    let (reply, d) ← d.send .getStatus
    if reply.state ≠ .draining then return d
    else if deadline ≤ d.now then .error (.stillDraining, d)
    else poll deadline n { d with now := d.now + pollInterval }

/-- The number of bursts that a script makes at its full speed. -/
def bursts : Nat := 8

/-- The capture script, with bursts of the given size. -/
def captureScript (bytes : Nat) : List DemoStep :=
  let burst : Command := .burst (Int32.ofNat bytes)
  [say .getStatus, say .start] ++ List.replicate bursts (fetch burst)
    ++ [say .pause, say .flush, say .start, say burst, say (.drain .unspecified), say burst,
      say .getStatus]

/-- The playback script up to its end, with bursts of the given size. -/
def playbackScript (bytes : Nat) : List DemoStep :=
  let burst : Command := .burst (Int32.ofNat bytes)
  [feed bytes burst, say .start] ++ List.replicate bursts (feed bytes burst)

/-- Drains a playback stream, waits until it is drained, and puts it on standby. -/
def drainOut : DemoStep := fun d => do
  let (reply, d) ← d.send (.drain .all)
  let d ← if reply.state = .draining then
      poll (d.now + drainPatience) (drainPatience / pollInterval + 2) d
    else pure d
  say .standby d

def play (direction : Direction) (t : Transport) (seed : UInt32) :
    Except (DemoFailure × Demo) Demo :=
  let bytes := t.describe.bufferBytes / 4
  let d := initial direction t seed
  match direction with
  | .input => follow (captureScript bytes) d
  | .output => follow (playbackScript bytes) d >>= drainOut

def run (direction : Direction) (config : Except Error Config) (seed : UInt32) : DemoReport :=
  match config.bind fun c => Transport.configure c.stream c.debug false with
  | .error cause => ⟨some (.error cause), []⟩
  | .ok t =>
    match play direction t seed with
    | .ok d => ⟨none, d.shown⟩
    | .error (failure, d) => ⟨some failure, d.shown⟩

end Demo

end AudioStream
