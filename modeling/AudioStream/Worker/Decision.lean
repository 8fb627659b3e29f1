import AudioStream.Worker.Basic

/-!
# What becomes of a command

The state of a worker and its direction decide what becomes of a command.  Capture knows no transient
states: draining ends with the burst that empties the hardware, or by starting again.  In playback,
draining and transferring resolve after a delay, and each has a paused variant that `start` leads back
from.

| capture | from | to |
|---|---|---|
| start | standby, draining | idle, active |
| burst | idle, active, paused; draining | active; standby |
| drain | active | draining |
| standby | idle | standby |
| pause | active | paused |
| flush | paused | standby |

| playback | from | to |
|---|---|---|
| start | standby, paused, drain paused, transfer paused | idle, active, draining, transferring |
| burst | standby, paused; drain paused; idle, active, draining | see `Worker.afterBurst` |
| drain | active, transferring; transfer paused | draining; drain paused |
| standby | idle | standby |
| pause | active, draining, transferring | paused, drain paused, transfer paused |
| flush | paused, drain paused, transfer paused | idle |
-/

namespace AudioStream

inductive Decision where
  | stop
  /-- The command has a value that it cannot have. -/
  | reject
  /-- The command does not go with the state. -/
  | refuse
  /-- The state is told and kept. -/
  | tell
  /-- The worker enters a state on its own. -/
  | move (next : State)
  /-- The driver is called, and the worker enters a state if the call succeeds. -/
  | control (call : Control) (next : State)
  /-- Up to the given number of bytes are moved. -/
  | burst (bytes : Nat)
  deriving DecidableEq

namespace Decision

def capture (s : Setup) (state : State) : Command → Decision
  | .exit cookie => if cookie = s.cookie then .stop else .reject
  | .getStatus => .tell
  | .start =>
    match state with
    | .standby => .move .idle
    | .draining => .move .active
    | _ => .refuse
  | .burst bytes =>
    if bytes < 0 then .reject
    else
      match state with
      | .idle | .active | .paused | .draining => .burst bytes.toInt.toNat
      | _ => .refuse
  | .drain .unspecified =>
    match state with
    | .active => .control (.drain .unspecified) .draining
    | _ => .refuse
  | .drain _ => .reject
  | .standby =>
    match state with
    | .idle => .control .standby .standby
    | _ => .refuse
  | .pause =>
    match state with
    | .active => .control .pause .paused
    | _ => .refuse
  | .flush =>
    match state with
    | .paused => .control .flush .standby
    | _ => .refuse

def playback (s : Setup) (state : State) : Command → Decision
  | .exit cookie => if cookie = s.cookie then .stop else .reject
  | .getStatus => .tell
  | .start =>
    match state with
    | .standby => .move .idle
    | .paused => .move .active
    | .drainPaused => .move .draining
    | .transferPaused => .move .transferring
    | _ => .refuse
  | .burst bytes =>
    if bytes < 0 then .reject
    else
      match state with
      | .error | .transferring | .transferPaused => .refuse
      | _ => .burst bytes.toInt.toNat
  | .drain .unspecified => .reject
  | .drain mode =>
    match state with
    | .active => .control (.drain mode) (if s.synchronousDrain then .idle else .draining)
    | .transferring => .control (.drain mode) .draining
    | .transferPaused => .move .drainPaused
    | _ => .refuse
  | .standby =>
    match state with
    | .idle => .control .standby .standby
    | _ => .refuse
  | .pause =>
    match state with
    | .active => .control .pause .paused
    | .draining => .control .pause .drainPaused
    | .transferring => .control .pause .transferPaused
    | _ => .refuse
  | .flush =>
    match state with
    | .paused | .drainPaused | .transferPaused => .control .flush .idle
    | _ => .refuse

end Decision

namespace Setup

def decide (s : Setup) (state : State) (command : Command) : Decision :=
  match s.direction with
  | .input => Decision.capture s state command
  | .output => Decision.playback s state command

end Setup

namespace Worker

/-- Resolves a transient state of a playback stream whose delay has run out.  A drain leads to idle and
a transfer to active; a client that is not told knows only drains. -/
def resolve (s : Setup) (now : Nat) (w : Worker) : Worker × Option Notice :=
  if s.direction = .output ∧ w.state.isTransient ∧ s.delay ≤ now - w.since then
    if s.notifies then
      if w.state = .draining then ({ w with state := .idle }, some .drainReady)
      else ({ w with state := .active }, some .transferReady)
    else ({ w with state := .idle }, none)
  else (w, none)

/-- How much longer the transient state of a playback stream lasts. -/
def timeLeft (s : Setup) (now : Nat) (w : Worker) : Option Nat :=
  if s.direction = .output ∧ w.state.isTransient then some (s.delay - (now - w.since)) else none

end Worker

/-- How a worker sets out to carry out a command. -/
inductive Reaction where
  | stop
  /-- The command is carried out already. -/
  | reply (handled : Handled)
  /-- The driver has to be called first. -/
  | control (call : Control) (next : State)
  /-- Bytes have to be moved first. -/
  | burst (bytes : Nat)

namespace Worker

def react (s : Setup) (w : Worker) (now : Nat) (connected : Bool) (command : Command) : Reaction :=
  match s.decide w.state command with
  | .stop => .stop
  | .reject => .reply { worker := w, reply := {} }
  | .refuse => .reply { worker := w, reply := { status := .invalidOperation } }
  | .tell => .reply { worker := w, reply := w.succeed now connected {} }
  | .move next =>
    let after := w.enter now next
    .reply { worker := after, reply := after.succeed now connected {} }
  | .control call next => .control call next
  | .burst bytes => .burst bytes

/-- Carries a command to its end after a control call of the driver. -/
def afterControl (w : Worker) (now : Nat) (connected : Bool) (call : Control) (next : State)
    (result : Except DriverError Unit) : Handled :=
  match result with
  | .ok _ => { worker := w.enter now next, reply := w.succeed now connected {} }
  | .error e =>
    { worker := { w with state := .error }
      reply := {}
      report := some (.driverFailure (call.name ++ " failed: " ++ e.message)) }

end Worker

end AudioStream
