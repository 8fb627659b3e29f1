import AudioStream.Demo
import AudioStream.Proofs.Worker.Accepted
import AudioStream.Proofs.Worker.Insertion
import AudioStream.Proofs.Worker.Timer

/-!
# Scenes of a demonstration

Between two steps of a script a demonstration is at a scene: the worker is in a state and has counted some
frames, and some bytes are in the data queue once the client has done what it owes. A command leads from
one scene to another, and its reply tells of the second. The lemmas here say so for the commands that
move nothing.
-/

namespace AudioStream

namespace DataQueue

/-- The queue grants a client all that it does: each write finds room, and each read finds bytes. -/
def Grants (q : DataQueue) : List Access → Prop
  | [] => True
  | .write bytes :: rest => ∃ r, q.write bytes = some r ∧ r.Grants rest
  | .read count :: rest => ∃ taken, q.read count = some taken ∧ taken.2.Grants rest

theorem grants_append_iff (q : DataQueue) (first second : List Access) :
    q.Grants (first ++ second) ↔ q.Grants first ∧ (q.serve first).1.Grants second := by
  induction first generalizing q with
  | nil => simp [Grants, serve]
  | cons access rest ih =>
    cases access with
    | write bytes =>
      cases hw : q.write bytes with
      | none => simp [Grants, hw]
      | some r => simp [Grants, serve, hw, ih]
    | read count =>
      cases hr : q.read count with
      | none => simp [Grants, hr]
      | some taken => simp [Grants, serve, hr, ih]

theorem grants_read {q : DataQueue} {count : Nat} (h : count ≤ q.readable) :
    q.Grants [.read count] ∧ (q.serve [.read count]).1.readable = q.readable - count := by
  obtain ⟨⟨bytes, r⟩, hr⟩ := Option.isSome_iff_exists.mp (read_isSome_iff.mpr h)
  have hsplit := congrArg List.length (contents_of_read hr)
  rw [List.length_append, length_of_read hr] at hsplit
  refine ⟨⟨_, hr, trivial⟩, ?_⟩
  simp only [serve, hr, readable]
  omega

theorem grants_write {q : DataQueue} {bytes : List UInt8} (h : bytes.length ≤ q.writable) :
    q.Grants [.write bytes] ∧ (q.serve [.write bytes]).1.readable = q.readable + bytes.length := by
  obtain ⟨r, hw⟩ := Option.isSome_iff_exists.mp (write_isSome_iff.mpr h)
  refine ⟨⟨r, hw, trivial⟩, ?_⟩
  simp only [serve, hw, Option.getD_some, readable, contents_of_write hw, List.length_append]

end DataQueue

namespace Transport

/-- A quarter of the buffer in bytes. The bursts of a script ask for so much. -/
def quarter (t : Transport) : Nat := t.data.capacity / 4

/-- The whole frames of a quarter. -/
def quarterFrames (t : Transport) : Nat := t.quarter / t.frameSize

/-- The frames that a playback burst of a quarter plays: all of them, or one less if bursts are short. -/
def playedFrames (t : Transport) : Nat := t.quarterFrames - t.debug.shortBursts.toNat

end Transport

/-- What an exchange is about, without the readings of the clock and the latency. -/
structure Outline where
  command : Command
  status : Status := .ok
  state : State
  /-- The bytes that the command moved. -/
  bytes : Int := 0
  /-- The position that is told. -/
  frames : Int

def Exchange.outline (x : Exchange) : Outline where
  command := x.command
  status := x.reply.status
  state := x.reply.state
  bytes := x.reply.byteCount.toInt
  frames := x.reply.observable.frames.toInt

/-- Where a demonstration is between two steps. -/
structure Scene where
  state : State
  frames : Nat
  /-- The bytes in the data queue once the client has done what it owes. -/
  queued : Nat

namespace Scene

/-- A quarter of the buffer can still be queued, and the frames can be counted. -/
structure Sound (t : Transport) (scene : Scene) : Prop where
  room : scene.queued + t.quarter ≤ t.data.capacity
  countable : scene.frames < 2 ^ 63

/-- The outline of an exchange that leads to a scene: the command succeeds, and moves some bytes. -/
def outline (scene : Scene) (command : Command) (bytes : Nat) : Outline :=
  { command, state := scene.state, bytes, frames := scene.frames }

end Scene

namespace Stub

/-- A stub driver made for a transport, whatever it has done since. -/
structure Serves (t : Transport) (d : Stub) : Prop where
  frameSize : d.frameSize = t.frameSize
  sampleRate : d.sampleRate = t.geometry.sampleRate
  notifies : d.notifies = t.notifies

variable {t : Transport} {d : Stub}

theorem serves_ofTransport (t : Transport) (isInput : Bool) (seed : UInt32) :
    (ofTransport t isInput seed).Serves t := ⟨rfl, rfl, rfl⟩

theorem Serves.transferTime (h : d.Serves t) (isInput : Bool) (seed : UInt32) (frames : Nat) :
    d.transferTime frames = (ofTransport t isInput seed).transferTime frames := by
  unfold Stub.transferTime
  rw [h.sampleRate, h.notifies]
  rfl

theorem Serves.transferred (h : d.Serves t) (buffer : List UInt8) (frames : Nat) :
    (d.transferred buffer frames).2.Serves t := by
  unfold Stub.transferred Stub.answered
  split
  · exact h
  · split
    · exact ⟨h.frameSize, h.sampleRate, h.notifies⟩
    · exact h

theorem Serves.after (h : d.Serves t) (call : Option DriverCall) : (Demo.driverAfter d call).Serves t := by
  cases call with
  | none => exact h
  | some call =>
    cases call with
    | control call => exact h
    | transfer buffer frames => exact h.transferred buffer frames

end Stub

namespace Demo

/-- The demonstration is at a scene, and the data queue grants what the client owes. -/
structure At (t : Transport) (direction : Direction) (scene : Scene) (d : Demo) : Prop where
  setup : d.setup = Setup.ofTransport t direction 0
  driver : d.driver.Serves t
  fits : d.bench.Fits d.setup
  state : d.bench.worker.state = scene.state
  frames : d.bench.worker.frameCount = Int64.ofNat scene.frames
  granted : d.bench.data.Grants d.owed
  queued : (d.bench.data.serve d.owed).1.readable = scene.queued
  sound : scene.Sound t

/-- The demonstration after a command that was answered in time. -/
def answered (d : Demo) (command : Command) (reply : Reply) : Demo :=
  let cycle := d.bench.cycle d.setup (d.turn command)
  { d with
    bench := cycle.1
    driver := driverAfter d.driver cycle.2.call
    now := cycle.2.ends
    owed := []
    shown := d.shown ++ [⟨command, reply⟩] }

variable {t : Transport} {direction : Direction} {a b : Scene} {d : Demo} {command : Command} {reply : Reply}

theorem send_eq (hreply : (d.bench.cycle d.setup (d.turn command)).2.reply = some reply)
    (htime : (d.bench.cycle d.setup (d.turn command)).2.ends - d.now < patience) :
    d.send command = .ok (reply, d.answered command reply) := by
  simp only [send, hreply, if_pos htime]
  rfl

/-- A command that comes to a demonstration at one scene is answered, and leads to another. -/
structure Sends (t : Transport) (direction : Direction) (d : Demo) (command : Command) (bytes : Nat)
    (b : Scene) (reply : Reply) : Prop where
  send : d.send command = .ok (reply, d.answered command reply)
  next : (d.answered command reply).At t direction b
  outline : (Exchange.mk command reply).outline = b.outline command bytes

/-- What the handling of a command leaves behind. -/
theorem answered_eq {after : Bench} {seen : Cycle}
    (hhandle : (d.bench.ready d.setup (d.turn command)).handle d.setup (d.turn command) command = (after, seen))
    (reply : Reply) :
    (d.answered command reply).bench = after ∧ (d.answered command reply).now = seen.ends := by
  have hcycle := Bench.cycle_of_heard (t := d.turn command) d.setup d.bench rfl
  rw [hhandle] at hcycle
  exact ⟨congrArg Prod.fst hcycle, congrArg (fun x => x.2.ends) hcycle⟩

/-- A look at a stream costs no time, and changes nothing but that a state which is due is left. -/
theorem answered_look (d : Demo) (reply : Reply) :
    (d.answered .getStatus reply).bench.worker = (d.bench.worker.resolve d.setup d.now).1 ∧
      (d.answered .getStatus reply).now = d.now := by
  obtain ⟨hbench, hnow⟩ := answered_eq (Bench.handle_of_tell (d.setup.decide_getStatus _)) reply
  exact ⟨congrArg Bench.worker hbench, hnow⟩

namespace At

/-- What the handling of a command has to bring so that the command leads to a scene. -/
theorem sends (h : d.At t direction a) {after : Bench} {seen : Cycle}
    (hhandle : (d.bench.ready d.setup (d.turn command)).handle d.setup (d.turn command) command = (after, seen))
    (hreply : seen.reply = some reply) (htime : seen.ends - d.now < patience)
    (state : after.worker.state = b.state) (frames : after.worker.frameCount = Int64.ofNat b.frames)
    (queued : after.data.readable = b.queued) (sound : b.Sound t) {bytes : Nat} (status : reply.status = .ok)
    (told : reply.state = b.state) (byteCount : reply.byteCount.toInt = bytes)
    (position : reply.observable.frames = Int64.ofNat b.frames) :
    d.Sends t direction command bytes b reply := by
  have hcycle := Bench.cycle_of_heard (t := d.turn command) d.setup d.bench rfl
  rw [hhandle] at hcycle
  obtain ⟨hafter, -⟩ := answered_eq hhandle reply
  refine ⟨send_eq ?reply ?time, ?next, ?outline⟩
  case reply =>
    rw [hcycle]
    exact hreply
  case time =>
    rw [hcycle]
    exact htime
  case next =>
    exact {
      setup := h.setup
      driver := h.driver.after _
      fits := h.fits.cycle (d.turn command)
      state := hafter ▸ state
      frames := hafter ▸ frames
      granted := trivial
      queued := hafter ▸ queued
      sound := sound }
  case outline =>
    simp only [Exchange.outline, Scene.outline, status, told, byteCount, position]
    rw [Int64.toInt_ofNat_of_lt sound.countable]

/-- The clock does not change what a demonstration is at. -/
theorem wait (h : d.At t direction a) (now : Nat) : ({ d with now } : Demo).At t direction a :=
  ⟨h.setup, h.driver, h.fits, h.state, h.frames, h.granted, h.queued, h.sound⟩

/-- A stream can be looked at in any state. If it is due to leave the state, it does. -/
theorem look (h : d.At t direction a) (state : State)
    (hstate : (d.bench.worker.resolve d.setup d.now).1.state = state) :
    ∃ reply, d.Sends t direction .getStatus 0 { a with state } reply := by
  have hframes : (d.bench.worker.resolve d.setup d.now).1.frameCount = Int64.ofNat a.frames :=
    (Bench.frameCount_resolve d.setup d.now d.bench.worker).trans h.frames
  have htime : d.now - d.now < patience := by
    rw [Nat.sub_self]
    decide
  exact ⟨_, h.sends (b := { a with state }) (Bench.handle_of_tell (d.setup.decide_getStatus _)) rfl htime
    hstate hframes h.queued ⟨h.sound.room, h.sound.countable⟩ rfl hstate rfl hframes⟩

/-- A capture stream leaves no state on its own, and a playback stream only the transient ones. -/
theorem not_due (h : d.At t direction a) (hsteady : direction = .input ∨ a.state.isTransient = false)
    (now : Nat) : ¬ d.bench.worker.Due d.setup now := by
  intro hdue
  rcases hsteady with rfl | hstate
  · have hdirection := hdue.output
    rw [h.setup] at hdirection
    cases hdirection
  · have htransient := hdue.transient
    rw [h.state, hstate] at htransient
    cases htransient

section Steady

variable (h : d.At t direction a) (hsteady : direction = .input ∨ a.state.isTransient = false)

include h hsteady

theorem ready (command : Command) :
    d.bench.ready d.setup (d.turn command) = ⟨d.bench.worker, (d.bench.data.serve d.owed).1⟩ := by
  have hresolve := Worker.resolve_of_not_due (h.not_due hsteady d.now)
  simp only [Bench.ready, turn, hresolve]

theorem decide_eq (command : Command) :
    d.setup.decide (d.bench.ready d.setup (d.turn command)).worker.state command =
      (Setup.ofTransport t direction 0).decide a.state command := by
  rw [h.ready hsteady, h.setup, h.state]

theorem look_of_steady : ∃ reply, d.Sends t direction .getStatus 0 a reply :=
  h.look a.state (by rw [Worker.resolve_of_not_due (h.not_due hsteady d.now), h.state])

theorem move {next : State} (hdecide : (Setup.ofTransport t direction 0).decide a.state command = .move next) :
    ∃ reply, d.Sends t direction command 0 { a with state := next } reply := by
  have hframes : ((d.bench.ready d.setup (d.turn command)).worker.enter d.now next).frameCount =
      Int64.ofNat a.frames := by
    rw [h.ready hsteady, Worker.frameCount_enter, h.frames]
  have htime : d.now - d.now < patience := by
    rw [Nat.sub_self]
    decide
  have hstate := (d.bench.ready d.setup (d.turn command)).worker.state_enter d.now next
  exact ⟨_, h.sends (b := { a with state := next })
    (Bench.handle_of_move ((h.decide_eq hsteady command).trans hdecide)) rfl htime hstate hframes h.queued
    ⟨h.sound.room, h.sound.countable⟩ rfl hstate rfl hframes⟩

section Control

variable {call : Control} {next : State}
  (hdecide : (Setup.ofTransport t direction 0).decide a.state command = .control call next)

include hdecide

theorem control : ∃ reply, d.Sends t direction command 0 { a with state := next } reply := by
  have hframes : (d.bench.ready d.setup (d.turn command)).worker.frameCount = Int64.ofNat a.frames := by
    rw [h.ready hsteady, h.frames]
  have htime : d.now + Stub.controlTime - d.now < patience := by
    rw [Nat.add_sub_cancel_left]
    decide
  have hstate := (d.bench.ready d.setup (d.turn command)).worker.state_enter (d.now + Stub.controlTime) next
  have hnext := (d.bench.ready d.setup (d.turn command)).worker.frameCount_enter (d.now + Stub.controlTime) next
  exact ⟨_, h.sends (b := { a with state := next })
    (Bench.handle_of_control ((h.decide_eq hsteady command).trans hdecide)) rfl htime hstate
    (hnext.trans hframes) h.queued ⟨h.sound.room, h.sound.countable⟩ rfl hstate rfl hframes⟩

/-- The state is entered when the driver returns. -/
theorem answered_control (reply : Reply) : (d.answered command reply).bench.worker =
    d.bench.worker.enter (d.answered command reply).now next := by
  obtain ⟨hbench, hnow⟩ :=
    answered_eq (Bench.handle_of_control ((h.decide_eq hsteady command).trans hdecide)) reply
  rw [hbench, hnow, h.ready hsteady]
  rfl

end Control

end Steady

end At

end Demo

end AudioStream
