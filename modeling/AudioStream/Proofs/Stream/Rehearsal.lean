import AudioStream.Proofs.Driver.Stub
import AudioStream.Proofs.Stream.Failure
import AudioStream.Proofs.Stream.Sizes

/-!
# Streams that are rehearsed with a stub driver

A stub driver moves all frames that it is asked for, provided that the buffer can hold them. A worker rounds
the bytes of a burst down to whole frames of the size that its driver goes by, and the part of its buffer that
it hands over is as long as it says. So the proviso is met in every call, whatever the client asks for and
whatever it does to the data queue. A worker whose driver does not fail and whose queues for messages stay
open never gets into the error state.

The main statement is `Rehearsal.never_fails`.
-/

open Relation

namespace AudioStream

/-! ## States other than error -/

/-- No command asks for the error state. -/
theorem Setup.ne_error_of_next {s : Setup} {state next : State} {command : Command}
    (h : (s.decide state command).next? = some next) : next ≠ .error := by
  rintro rfl
  cases command with
  | burst n =>
    cases hd : s.direction <;> by_cases hn : n < 0 <;> cases state <;>
      simp [decide, hd, hn, Decision.capture, Decision.playback, Decision.next?] at h
  | exit cookie =>
    cases hd : s.direction <;> by_cases hc : cookie = s.cookie <;>
      simp [decide, hd, hc, Decision.capture, Decision.playback, Decision.next?] at h
  | drain mode =>
    cases hd : s.direction <;> cases mode <;> cases state <;> cases hs : s.synchronousDrain <;>
      simp [decide, hd, hs, Decision.capture, Decision.playback, Decision.next?] at h
  | _ =>
    cases hd : s.direction <;> cases state <;>
      simp [decide, hd, Decision.capture, Decision.playback, Decision.next?] at h

namespace Worker

variable {s : Setup} {w : Worker}

theorem state_resolve_ne_error (now : Nat) (h : w.state ≠ .error) :
    (w.resolve s now).1.state ≠ .error := by
  fun_cases resolve <;> simp_all

theorem state_react_ne_error {now : Nat} {connected : Bool} {command : Command} {r : Handled}
    (h : w.state ≠ .error) (hreact : w.react s now connected command = .reply r) :
    r.worker.state ≠ .error := by
  unfold react at hreact
  split at hreact <;> cases hreact
  next => exact h
  next => exact h
  next => exact h
  next next hdecide =>
    rw [state_enter]
    exact Setup.ne_error_of_next (congrArg Decision.next? hdecide)

theorem state_afterBurst_ne_error (now asked : Nat) (moved : Int32) (h : w.state ≠ .error) :
    (w.afterBurst s now asked moved).state ≠ .error := by
  unfold afterBurst
  split
  next => simp
  next => simp
  next => simp
  next => cases s.notifies <;> simp
  next => simp
  next => simp
  iterate 3 next => split <;> simp
  next => exact h

theorem state_finishBurst_ne_error (now : Nat) (b : Burst) {m : Moved} (queued : Bool)
    (h : w.state ≠ .error) (hm : m.failure = none) :
    (w.finishBurst s now b m queued).worker.state ≠ .error := by
  cases queued with
  | true =>
    rw [w.worker_finishBurst_of_success s now b m hm]
    exact state_afterBurst_ne_error (w := w.count m.frames) now _ _ h
  | false =>
    rw [w.worker_finishBurst_false_of_success s now b m hm]
    exact state_afterBurst_ne_error now _ _ h

end Worker

namespace Stream

variable {a b s : Stream} {command : Command}

/-- The worker goes on by itself, or with the answer of a driver that has not failed. -/
inductive Succeeds (a : Stream) : Stream → Prop where
  | step {b : Stream} (m : Moment) (h : a.step m = some b) : Succeeds a b
  | control {b : Stream} (m : Moment) (h : a.answerControl m (.ok ()) = some b) : Succeeds a b
  | transfer {b : Stream} (m : Moment) {answer : TransferAnswer} {r : TransferResult}
      (ok : answer.result = .ok r) (h : a.answerTransfer m answer = some b) : Succeeds a b

theorem Succeeds.works (h : a.Succeeds b) : a.Works b := by
  cases h with
  | step m h => exact .step m h
  | control m h => exact .control m _ h
  | transfer m ok h => exact .transfer m _ h

/-- The queues for messages have not been shut down. -/
structure Open (s : Stream) : Prop where
  commands : s.transport.commands.isShutDown = false
  replies : s.transport.replies.isShutDown = false

end Stream

/-- The worker holds no failed transfer, and is not about to give up, to enter the error state or to tell
of it. -/
def Stage.IsHealthy : Stage → Prop
  | .handling _ (.appending _ m) => m.failure = none
  | .handling _ (.controlling _ _ next) => next ≠ .error
  | .replying _ reply => reply.state ≠ .error
  | .reporting _ | .closingCommands | .closingReplies => False
  | _ => True

namespace Stream

variable {a b s : Stream} {command : Command}

/-- Nothing has failed. -/
structure Healthy (s : Stream) : Prop where
  isOpen : s.Open
  state : s.worker.state ≠ .error
  stage : s.stage.IsHealthy
  /-- No reply that the client has not read tells of the error state. -/
  unread : ∀ reply ∈ s.transport.replies.items, reply.state ≠ .error

theorem Healthy.sound (h : s.Healthy) : s.Sound := by
  intro command burst moved hs
  have hstage := h.stage
  rwa [hs] at hstage

/-- The worker goes on, and leaves the queues for messages alone. -/
theorem Healthy.goOn (h : a.Healthy) (commands : b.transport.commands = a.transport.commands)
    (replies : b.transport.replies = a.transport.replies) (state : b.worker.state ≠ .error)
    (stage : b.stage.IsHealthy) : b.Healthy where
  isOpen := ⟨commands ▸ h.isOpen.commands, replies ▸ h.isOpen.replies⟩
  state := state
  stage := stage
  unread := replies ▸ h.unread

theorem Healthy.handled {r : Handled} (h : a.Healthy)
    (commands : s.transport.commands = a.transport.commands)
    (replies : s.transport.replies = a.transport.replies) (state : r.worker.state ≠ .error) :
    (s.handled command r).Healthy := by
  obtain ⟨reports, heq⟩ := s.handled_eq command r
  rw [heq]
  exact h.goOn commands replies state state

theorem Healthy.beginCycle (h : a.Healthy) (m : Moment) : (a.beginCycle m).Healthy := by
  obtain ⟨reports, heq⟩ := a.beginCycle_eq m
  rw [heq]
  exact h.goOn rfl rfl (Worker.state_resolve_ne_error m.now h.state) trivial

theorem Healthy.awaitCommand (h : a.Healthy) {m : Moment} {deadline : Option Nat}
    (hstep : a.awaitCommand m deadline = some b) : b.Healthy := by
  unfold Stream.awaitCommand at hstep
  split at hstep
  next command commands hread =>
    cases hstep
    obtain ⟨-, -, hopen⟩ := MessageQueue.of_read_eq_done hread
    exact ⟨⟨hopen, h.isOpen.replies⟩, h.state, trivial, h.unread⟩
  next hread =>
    have hshut := MessageQueue.of_read_eq_failed hread
    rw [h.isOpen.commands] at hshut
    cases hshut
  next =>
    split at hstep
    next =>
      split at hstep <;> cases hstep
      exact h.goOn rfl rfl h.state trivial
    next => cases hstep

theorem Healthy.beginCommand (h : a.Healthy) (m : Moment) (command : Command) :
    (a.beginCommand m command).Healthy := by
  unfold Stream.beginCommand
  split
  next => exact h.goOn rfl rfl h.state trivial
  next hreact => exact h.handled rfl rfl (Worker.state_react_ne_error h.state hreact)
  next hreact =>
    have hdecide := Worker.decide_of_react_control hreact
    exact h.goOn rfl rfl h.state (Setup.ne_error_of_next (congrArg Decision.next? hdecide))
  next => exact h.goOn rfl rfl h.state trivial

theorem Healthy.afterMoving (h : a.Healthy) (m : Moment) (command : Command) (burst : Burst)
    {moved : Worker × Moved} (hstate : moved.1.state ≠ .error) (hmoved : moved.2.failure = none) :
    (a.afterMoving m command burst moved).Healthy := by
  unfold Stream.afterMoving
  split
  · exact h.goOn rfl rfl hstate hmoved
  · exact h.handled rfl rfl (Worker.state_finishBurst_ne_error m.now burst true hstate hmoved)

theorem Healthy.continueTask (h : a.Healthy) {m : Moment} {task : Task}
    (hs : a.stage = .handling command task) (hstep : a.continueTask m command task = some b) :
    b.Healthy := by
  cases task with
  | looking burst =>
    simp only [Stream.continueTask] at hstep
    split at hstep <;> cases hstep <;> exact h.goOn rfl rfl h.state trivial
  | taking burst count =>
    simp only [Stream.continueTask] at hstep
    split at hstep <;> cases hstep
    · exact h.goOn rfl rfl h.state trivial
    · exact h.handled rfl rfl (Worker.state_finishBurst_ne_error m.now burst false h.state rfl)
  | moving burst size =>
    simp only [Stream.continueTask] at hstep
    split at hstep <;> cases hstep
    next hsilent =>
      have hmoves : a.Moves burst size _ := .silent (Bool.not_eq_true _ ▸ hsilent)
      apply h.afterMoving
      · rw [hmoves.state]
        exact h.state
      · rw [Worker.moved_withoutDevice]
        rfl
  | appending burst moved =>
    have hmoved : moved.failure = none := h.sound command burst moved hs
    simp only [Stream.continueTask] at hstep
    split at hstep <;> cases hstep
    · exact h.handled rfl rfl (Worker.state_finishBurst_ne_error m.now burst true h.state hmoved)
    · exact h.handled rfl rfl (Worker.state_finishBurst_ne_error m.now burst false h.state hmoved)
  | controlling connected call next => cases hstep

theorem Healthy.writeReply (h : a.Healthy) {reply : Reply} (hs : a.stage = .replying command reply)
    (hstep : a.writeReply reply = some b) : b.Healthy := by
  have hreply : reply.state ≠ .error := by
    have hstage := h.stage
    rwa [hs] at hstage
  unfold Stream.writeReply at hstep
  split at hstep <;> cases hstep
  next replies hwrite =>
    obtain ⟨-, hitems, hopen⟩ := MessageQueue.of_write_eq_done hwrite
    refine ⟨⟨h.isOpen.commands, hopen⟩, h.state, trivial, fun r hr => ?_⟩
    rcases List.mem_append.mp (hitems ▸ hr : r ∈ a.transport.replies.items ++ [reply]) with hold | hnew
    · exact h.unread r hold
    · rwa [List.mem_singleton.mp hnew]
  next hwrite =>
    have hshut := MessageQueue.of_write_eq_failed hwrite
    rw [h.isOpen.replies] at hshut
    cases hshut

theorem Healthy.step (h : a.Healthy) {m : Moment} (hstep : a.step m = some b) : b.Healthy := by
  have hstage := h.stage
  unfold Stream.step at hstep
  split at hstep
  next =>
    cases hstep
    exact h.beginCycle m
  next =>
    cases hstep
    exact h.goOn rfl rfl h.state trivial
  next => exact h.awaitCommand hstep
  next command hs =>
    cases hstep
    exact h.beginCommand m command
  next hs => exact h.continueTask hs hstep
  next hs => exact h.writeReply hs hstep
  next hs =>
    rw [hs] at hstage
    exact hstage.elim
  next hs =>
    rw [hs] at hstage
    exact hstage.elim
  next hs =>
    rw [hs] at hstage
    exact hstage.elim
  next =>
    cases hstep
    exact h.goOn rfl rfl h.state trivial
  next => cases hstep

theorem Healthy.succeeds (h : a.Healthy) (hstep : a.Succeeds b) : b.Healthy := by
  cases hstep with
  | step m hstep => exact h.step hstep
  | control m hstep =>
    unfold answerControl at hstep
    split at hstep <;> cases hstep
    next command connected call next hs =>
      have hnext : next ≠ .error := by
        have hstage := h.stage
        rwa [hs] at hstage
      refine h.handled rfl rfl ?_
      simpa only [Worker.afterControl, Worker.state_enter] using hnext
  | transfer m ok hstep =>
    unfold answerTransfer at hstep
    split at hstep
    next hs =>
      split at hstep <;> cases hstep
      apply h.afterMoving
      · exact h.state
      · simp [Worker.afterTransfer, ok, Moved.ofAnswer]
    next => cases hstep

/-- The others change nothing that could fail, as long as they leave the queues open. -/
theorem Healthy.outside (h : a.Healthy) (ho : a.Outside b) (isOpen : b.Open) : b.Healthy where
  isOpen := isOpen
  state := ho.leaves.worker ▸ h.state
  stage := ho.leaves.stage ▸ h.stage
  unread reply hr := h.unread reply (ho.mem_replies hr)

theorem Healthy.not_broken (h : s.Healthy) : ¬ s.Broken := by
  intro hbroken
  unfold Broken at hbroken
  split at hbroken
  next command burst moved hs =>
    rw [h.sound command burst moved hs] at hbroken
    cases hbroken.2
  next => exact hbroken
  next => exact h.state hbroken.1
  next => exact h.state hbroken

theorem Healthy.fares (h : a.Healthy) (healthy : b.Healthy) (hw : a.Works b) : a.Fares b := by
  rcases h.sound.works hw with hfails | hfares
  · exact absurd hfails.broken.1 healthy.not_broken
  · exact hfares

/-- The driver gets the front of the buffer, and is asked for the whole frames of it. -/
theorem Sized.of_call {buffer : List UInt8} {frames : Nat} (h : s.Sized)
    (hcall : s.call? = some (.transfer buffer frames)) :
    buffer.length ≤ s.setup.bufferSize ∧ frames = s.setup.frames buffer.length := by
  unfold call? at hcall
  split at hcall
  next command burst size hs =>
    split at hcall <;> cases hcall
    have hused : size ≤ s.setup.bufferSize := h.used _ _ hs
    have hlength : (s.worker.buffer.take size).length = size := by
      rw [List.length_take, h.buffer, Nat.min_eq_left hused]
    rw [hlength]
    exact ⟨hused, rfl⟩
  next => cases hcall
  next => cases hcall

end Stream

/-! ## Runs -/

/-- A stream whose driver is a stub, and all that has been reported on it since it was opened. -/
structure Rehearsal extends Watch where
  driver : Stub

namespace Rehearsal

def opened (direction : Direction) (t : Transport) (cookie : Int32)
    (microphones : List (Device × String)) (seed : UInt32) : Rehearsal where
  stream := Stream.opened direction t cookie microphones
  driver := Stub.ofTransport t (direction = .input) seed

/-- The worker goes on, at first by itself and in a call when the stub answers, or one of the others does
something that leaves the queues for messages open. -/
inductive Step : Rehearsal → Rehearsal → Prop where
  | work {a b : Stream} {log : List StreamError} {d : Stub} (m : Moment) (h : a.step m = some b) :
      Step ⟨⟨a, log⟩, d⟩ ⟨⟨b, log ++ a.news b⟩, d⟩
  | control {a b : Stream} {log : List StreamError} {d : Stub} (m : Moment) {call : Control}
      (hcall : a.call? = some (.control call))
      (h : a.answerControl m (Driver.control call d).1.answer = some b) :
      Step ⟨⟨a, log⟩, d⟩ ⟨⟨b, log ++ a.news b⟩, (Driver.control call d).2⟩
  | transfer {a b : Stream} {log : List StreamError} {d : Stub} (m : Moment) {buffer : List UInt8}
      {frames : Nat} (hcall : a.call? = some (.transfer buffer frames))
      (h : a.answerTransfer m (Driver.transfer buffer frames d).1.answer.1 = some b) :
      Step ⟨⟨a, log⟩, d⟩ ⟨⟨b, log ++ a.news b⟩, (Driver.transfer buffer frames d).2⟩
  | outside {a b : Stream} {log : List StreamError} {d : Stub} (h : a.Outside b) (isOpen : b.Open) :
      Step ⟨⟨a, log⟩, d⟩ ⟨⟨b, log ++ a.news b⟩, d⟩

/-- The stub goes by the frames of the stream, and nothing has failed. -/
structure Inv (σ : Rehearsal) : Prop where
  healthy : σ.stream.Healthy
  sized : σ.stream.Sized
  frameSize : σ.driver.frameSize = σ.stream.setup.frameSize
  bufferSize_lt : σ.stream.setup.bufferSize < UInt64.size
  untold : ∀ e ∈ σ.reported, e.isDriverFailure = false

variable {σ τ : Rehearsal} {a b : Stream} {log : List StreamError} {d d' : Stub}

theorem Inv.frames_mul_le (h : Inv σ) {buffer : List UInt8} {frames : Nat}
    (hcall : σ.stream.call? = some (.transfer buffer frames)) :
    frames * σ.driver.frameSize ≤ buffer.length := by
  rw [h.frameSize, (h.sized.of_call hcall).2]
  exact σ.stream.setup.frames_mul_le buffer.length

theorem Inv.result_transfer (h : Inv σ) {buffer : List UInt8} {frames : Nat}
    (hcall : σ.stream.call? = some (.transfer buffer frames)) :
    (Driver.transfer buffer frames σ.driver).1.answer.1.result = .ok ⟨frames, nominalLatency⟩ :=
  Stub.result_transferred (h.frames_mul_le hcall)

theorem Inv.goOn (h : Inv ⟨⟨a, log⟩, d⟩) (healthy : b.Healthy) (fares : a.Fares b)
    (hstep : a.Works b ∨ a.Outside b) (frameSize : d'.frameSize = d.frameSize) :
    Inv ⟨⟨b, log ++ a.news b⟩, d'⟩ where
  healthy := healthy
  sized := Stream.sized_step h.sized hstep
  frameSize := by
    have hd : d.frameSize = a.setup.frameSize := h.frameSize
    rw [frameSize, hd, fares.setup]
  bufferSize_lt := by
    rw [fares.setup]
    exact h.bufferSize_lt
  untold e he := by
    rcases List.mem_append.mp he with hold | hnew
    · exact h.untold e hold
    · exact fares.quiet e hnew

theorem Inv.succeeds (h : Inv ⟨⟨a, log⟩, d⟩) (hstep : a.Succeeds b)
    (frameSize : d'.frameSize = d.frameSize) : Inv ⟨⟨b, log ++ a.news b⟩, d'⟩ := by
  have hhealthy : b.Healthy := h.healthy.succeeds hstep
  exact h.goOn hhealthy (h.healthy.fares hhealthy hstep.works) (.inl hstep.works) frameSize

theorem Inv.step (h : Inv σ) (hstep : Step σ τ) : Inv τ := by
  cases hstep with
  | work m hstep => exact h.succeeds (.step m hstep) rfl
  | control m hcall hanswer => exact h.succeeds (.control m hanswer) rfl
  | transfer m hcall hanswer =>
    exact h.succeeds (.transfer m (h.result_transfer hcall) hanswer) (Stub.frameSize_transferred _ _ _)
  | outside ho isOpen =>
    exact h.goOn (h.healthy.outside ho isOpen) (ho.leaves.fares h.healthy.sound) (.inr ho) rfl

theorem inv_opened {config : StreamConfig} {debug : DebugParameters} {notifies : Bool} {t : Transport}
    (ht : Transport.configure config debug notifies = .ok t) (direction : Direction) (cookie : Int32)
    (microphones : List (Device × String)) (seed : UInt32) :
    Inv (opened direction t cookie microphones seed) where
  healthy := by
    have hfresh := Transport.isFresh_of_configure ht
    refine ⟨⟨?_, ?_⟩, nofun, trivial, ?_⟩
    · exact congrArg MessageQueue.isShutDown hfresh.commands_eq
    · exact congrArg MessageQueue.isShutDown hfresh.replies_eq
    · intro reply hr
      have hitems : t.replies.items = [] := congrArg MessageQueue.items hfresh.replies_eq
      exact absurd (hitems ▸ hr) List.not_mem_nil
  sized := Stream.sized_opened direction t cookie microphones
  frameSize := rfl
  bufferSize_lt := by
    have hcapacity : (Setup.ofTransport t direction cookie).bufferSize = t.data.capacity :=
      (Bench.fits_initial t direction cookie).capacity.symm
    calc (Setup.ofTransport t direction cookie).bufferSize = t.data.capacity := hcapacity
      _ ≤ Transport.maximumBytes := (Transport.isFresh_of_configure ht).capacity_le
      _ < UInt64.size := by decide
  untold := nofun

theorem inv_of_reaches (inv : Inv σ) (h : ReflTransGen Step σ τ) : Inv τ := by
  induction h with
  | refl => exact inv
  | tail _ hstep ih => exact ih.step hstep

/-- Whether products are checked makes no difference to a stream: what its stub is asked for is never too much
for a word. -/
theorem attempt_of_reaches {config : StreamConfig} {debug : DebugParameters} {notifies : Bool} {t : Transport}
    (ht : Transport.configure config debug notifies = .ok t) {direction : Direction} {cookie : Int32}
    {microphones : List (Device × String)} {seed : UInt32}
    (h : ReflTransGen Step (opened direction t cookie microphones seed) σ) {buffer : List UInt8} {frames : Nat}
    (hcall : σ.stream.call? = some (.transfer buffer frames)) (o : Overflow) :
    σ.driver.attempt o buffer frames = some (σ.driver.transferred buffer frames) := by
  have inv : Inv σ := inv_of_reaches (inv_opened ht direction cookie microphones seed) h
  apply Stub.attempt_of_lt
  calc frames * σ.driver.frameSize ≤ buffer.length := inv.frames_mul_le hcall
    _ ≤ σ.stream.setup.bufferSize := (inv.sized.of_call hcall).1
    _ < UInt64.size := inv.bufferSize_lt

/-- A stream with a stub driver never fails, whatever its client asks for and does to the data queue, and
however it is connected, as long as nobody shuts its queues for messages down. No reply tells of the error
state, no failure of the driver is reported, and the stub moves all the frames that it is asked for. -/
theorem never_fails {config : StreamConfig} {debug : DebugParameters} {notifies : Bool} {t : Transport}
    (ht : Transport.configure config debug notifies = .ok t) (direction : Direction) (cookie : Int32)
    (microphones : List (Device × String)) (seed : UInt32)
    (h : ReflTransGen Step (opened direction t cookie microphones seed) σ) :
    σ.stream.worker.state ≠ .error ∧
    (∀ command reply, σ.stream.stage = .replying command reply → reply.state ≠ .error) ∧
    (∀ reply ∈ σ.stream.transport.replies.items, reply.state ≠ .error) ∧
    (∀ e ∈ σ.reported, e.isDriverFailure = false) ∧
    ∀ buffer frames, σ.stream.call? = some (.transfer buffer frames) →
      (Driver.transfer buffer frames σ.driver).1.answer.1.result = .ok ⟨frames, nominalLatency⟩ := by
  have inv : Inv σ := inv_of_reaches (inv_opened ht direction cookie microphones seed) h
  refine ⟨inv.healthy.state, ?_, inv.healthy.unread, inv.untold, fun _ _ => inv.result_transfer⟩
  intro command reply hs
  have hstage := inv.healthy.stage
  rwa [hs] at hstage

/-- In a capture burst the stub is asked for two frames. -/
theorem never_fails_captureBurst :
    Transport.configure { bufferFrames := 256 } {} false = .ok .small ∧
    let σ : Rehearsal := ⟨⟨Watch.capturing, []⟩, Stub.ofTransport .small true 5⟩
    ReflTransGen Step (opened .input .small 7 [] 5) σ ∧
      σ.stream.call? = some (.transfer (List.replicate 8 0) 2) ∧
      (Driver.transfer (List.replicate 8 0) 2 σ.driver).1.answer.1.result = .ok ⟨2, nominalLatency⟩ ∧
      σ.stream.worker.state ≠ .error := by
  let m : Moment := ⟨0, fun _ => none⟩
  have opened : ReflTransGen Step (opened .input .small 7 [] 5) (opened .input .small 7 [] 5) := .refl
  have connected := opened.tail (.outside (.stir (.setConnected true)) ⟨rfl, rfl⟩)
  have asked := connected.tail (.outside (.writeCommand .start rfl) ⟨rfl, rfl⟩)
  have heard := ((asked.tail (.work m rfl)).tail (.work m rfl)).tail (.work m rfl)
  have started : ReflTransGen Step (Rehearsal.opened .input .small 7 [] 5)
      ⟨⟨{ Watch.capturing with stage := .fresh }, []⟩, Stub.ofTransport .small true 5⟩ :=
    ((heard.tail (.work m rfl)).tail (.work m rfl)).tail (.outside .tryReadReply ⟨rfl, rfl⟩)
  have asked := started.tail (.outside (.writeCommand (.burst 8) rfl) ⟨rfl, rfl⟩)
  have heard := ((asked.tail (.work m rfl)).tail (.work m rfl)).tail (.work m rfl)
  have called : ReflTransGen Step (Rehearsal.opened .input .small 7 [] 5)
      ⟨⟨Watch.capturing, []⟩, Stub.ofTransport .small true 5⟩ :=
    (heard.tail (.work m rfl)).tail (.work m rfl)
  have hcall : Watch.capturing.call? = some (.transfer (List.replicate 8 0) 2) := rfl
  obtain ⟨hstate, -, -, -, hmoves⟩ := never_fails Transport.configure_small .input 7 [] 5 called
  exact ⟨Transport.configure_small, called, hcall, hmoves _ _ hcall, hstate⟩

end Rehearsal

end AudioStream
