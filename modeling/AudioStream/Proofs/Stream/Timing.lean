import AudioStream.Proofs.Playback.Run
import AudioStream.Proofs.Stream.Reports
import AudioStream.Proofs.Stream.Acts
import AudioStream.Proofs.Worker.Timer

/-!
# When the state of a playback stream changes

The steps of a playback worker are listed here with the moment at which each of them happens, as far as the
state and the time of entry into it are concerned. The state changes when a cycle begins, when a command is
answered, and when the worker gives up; in all other steps it is kept.
-/

namespace AudioStream

/-- The command does not have a value or a state in which it could be carried out. -/
def Reply.Rejects (r : Reply) : Prop := r.status = .badValue ∨ r.status = .invalidOperation

instance (r : Reply) : Decidable r.Rejects := inferInstanceAs (Decidable (_ ∨ _))

/-- What becomes of a state when a command is answered. -/
inductive Mode.Becomes (now : Nat) (command : Command) (reply : Reply) (m : Mode) : Mode → Prop where
  | keep (state : reply.state = m.state) (told : command = .getStatus ∨ reply.Rejects) :
      Becomes now command reply m m
  | enter {next : State} (state : reply.state = next) (accepts : ¬ reply.Rejects)
      (rearms : next.isTransient = true → command.rearms = true) :
      Becomes now command reply m (m.enter now next)
  | fail (state : reply.state = .error) : Becomes now command reply m ⟨.error, m.since⟩

section React

variable {s : Setup} {w : Worker} {now : Nat} {connected : Bool} {command : Command}

theorem Worker.decide_of_react_control {call : Control} {next : State}
    (h : w.react s now connected command = .control call next) :
    s.decide w.state command = .control call next := by
  unfold react at h
  split at h <;> cases h
  assumption

theorem Worker.decide_of_react_burst {bytes : Nat} (h : w.react s now connected command = .burst bytes) :
    s.decide w.state command = .burst bytes := by
  unfold react at h
  split at h <;> cases h
  assumption

end React

namespace Playback

variable {s : Setup} {w : Worker} {now : Nat} {connected : Bool} {command : Command} {next : State}

theorem decide_eq (hd : s.direction = .output) (state : State) (command : Command) :
    s.decide state command = Decision.playback s state command := by
  simp [Setup.decide, hd]

/-- A command that is answered at once. -/
theorem becomes_of_react (hd : s.direction = .output) {h : Handled}
    (hreact : w.react s now connected command = .reply h) :
    w.mode.Becomes now command h.answer h.worker.mode := by
  have hv := verdict s w.state command
  unfold Worker.react at hreact
  rw [decide_eq hd] at hreact
  generalize Decision.playback s w.state command = decision at hv hreact
  cases hv with
  | stop | control | burst => cases hreact
  | reject =>
    cases hreact
    exact .keep rfl (.inr (.inl rfl))
  | refuse =>
    cases hreact
    exact .keep rfl (.inr (.inr rfl))
  | tell told =>
    cases hreact
    exact .keep rfl (.inl told)
  | move _ row =>
    cases hreact
    rw [Worker.mode_enter]
    exact .enter (w.state_enter now _) (by simp [Reply.Rejects, Handled.answer, Worker.succeed])
      (row connected 0).rearms

/-- A command that is answered when the driver has answered a control call. -/
theorem becomes_of_control (hd : s.direction = .output) {call : Control}
    (hdecide : s.decide w.state command = .control call next) (result : Except DriverError Unit) :
    w.mode.Becomes now command (w.afterControl now connected call next result).answer
      (w.afterControl now connected call next result).worker.mode := by
  have hv := verdict s w.state command
  rw [← decide_eq hd, hdecide] at hv
  cases hv with
  | control row =>
    cases result with
    | ok done =>
      simp only [Worker.afterControl]
      rw [Worker.mode_enter]
      exact .enter (w.state_enter now next) (by simp [Reply.Rejects, Handled.answer, Worker.succeed])
        (row connected 0).rearms
    | error e => exact .fail rfl

theorem mode_afterBurst (hd : s.direction = .output) (connected : Bool) {n : Int32} (nonneg : 0 ≤ n)
    (moved : Int32)
    (accepted : w.state ≠ .error ∧ w.state ≠ .transferring ∧ w.state ≠ .transferPaused) :
    ∃ next, (w.afterBurst s now n.toInt.toNat moved).mode = w.mode.enter now next := by
  obtain ⟨next, -, hnext⟩ := afterBurst_row hd connected now nonneg moved accepted
  exact ⟨next, by rw [hnext, Worker.mode_enter]⟩

/-- A burst that has been carried out, whatever became of its bytes. -/
theorem becomes_of_burst (hd : s.direction = .output) {v : Worker} (hmode : v.mode = w.mode) {b : Burst}
    (hdecide : s.decide w.state command = .burst b.bytes) (m : Moved) (queued : Bool) :
    w.mode.Becomes now command (v.finishBurst s now b m queued).answer
      (v.finishBurst s now b m queued).worker.mode := by
  obtain ⟨n, rfl, nonneg, hmoves, hbytes⟩ := s.decide_eq_burst_iff.mp hdecide
  have hstate : v.state = w.state := congrArg Mode.state hmode
  have accepted : v.state ≠ .error ∧ v.state ≠ .transferring ∧ v.state ≠ .transferPaused := by
    rw [hstate]
    refine ⟨?_, ?_, ?_⟩ <;>
    · intro hs
      simp [Setup.moves, hd, hs] at hmoves
  have accepts : ¬ (v.finishBurst s now b m queued).answer.Rejects := by
    rw [Reply.Rejects, Handled.answer, v.status_finishBurst]
    cases queued <;> simp
  cases hf : m.failure with
  | some e =>
    have hworker := v.mode_finishBurst_of_failure s now b m hf queued
    rw [hworker]
    have hsince : v.since = w.since := congrArg Mode.since hmode
    rw [hsince]
    exact .fail (congrArg Mode.state hworker)
  | none =>
    have hworker : ∃ next, (v.finishBurst s now b m queued).worker.mode = w.mode.enter now next := by
      rw [← hmode]
      cases queued with
      | true =>
        rw [v.worker_finishBurst_of_success s now b m hf, ← hbytes]
        exact mode_afterBurst (w := v.count m.frames) hd b.connected nonneg _ accepted
      | false =>
        rw [v.worker_finishBurst_false_of_success s now b m hf, ← hbytes]
        exact mode_afterBurst hd b.connected nonneg 0 accepted
    obtain ⟨next, hworker⟩ := hworker
    rw [hworker]
    exact .enter (congrArg Mode.state hworker) accepts fun _ => rfl

end Playback

/-! ## Steps -/

/-- What was decided about the command that is carried out. -/
def Task.decision : Task → Decision
  | controlling _ call next => .control call next
  | looking b | taking b _ | moving b _ | appending b _ => .burst b.bytes

namespace Stage

/-- The worker has a command and no reply to it yet. -/
def isBusy : Stage → Bool
  | sampling _ | handling _ _ => true
  | _ => false

/-- The worker hears no more commands, and has nothing more to report. -/
def isEnding : Stage → Bool
  | closingCommands | closingReplies | leaving | stopped => true
  | _ => false

end Stage

namespace Stream

/-- The worker does something at a moment: it takes a step, or the driver answers its call. -/
inductive WorksAt (m : Moment) (a : Stream) : Stream → Prop where
  | step {b : Stream} (h : a.step m = some b) : WorksAt m a b
  | control {b : Stream} (result : Except DriverError Unit) (h : a.answerControl m result = some b) :
      WorksAt m a b
  | transfer {b : Stream} (answer : TransferAnswer) (h : a.answerTransfer m answer = some b) :
      WorksAt m a b

/-- What a worker carries out is what the state and the command lead to. -/
def Decided (s : Stream) : Prop :=
  ∀ command task, s.stage = .handling command task →
    s.setup.decide s.worker.state command = task.decision

/-- What a playback worker does in a step at a time, as far as its state is concerned. -/
inductive Ticks (now : Nat) (a b : Stream) : Prop where
  | begin (stage : a.stage = .fresh) (next : b.stage = .arming)
      (mode : b.worker.mode = (a.worker.resolve a.setup now).1.mode)
  | arm (stage : a.stage = .arming)
      (next : b.stage = .waiting ((a.worker.timeLeft a.setup now).map (now + ·)))
      (mode : b.worker.mode = a.worker.mode)
  | take {deadline : Option Nat} {command : Command} (stage : a.stage = .waiting deadline)
      (next : b.stage = .sampling command) (mode : b.worker.mode = a.worker.mode)
  | timeOut {deadline : Nat} (stage : a.stage = .waiting (some deadline)) (passed : deadline ≤ now)
      (next : b.stage = .fresh) (mode : b.worker.mode = a.worker.mode)
  | carry {command : Command} {task : Task} (stage : a.stage.isBusy = true)
      (next : b.stage = .handling command task)
      (decided : a.setup.decide a.worker.state command = task.decision)
      (mode : b.worker.mode = a.worker.mode)
  | answer {command : Command} {reply : Reply} (stage : a.stage.isBusy = true)
      (next : b.stage = .replying command reply)
      (becomes : a.worker.mode.Becomes now command reply b.worker.mode)
  | reply {command : Command} {reply : Reply} (stage : a.stage = .replying command reply)
      (next : b.stage = .fresh) (mode : b.worker.mode = a.worker.mode)
  | abort {reason : String} (stage : a.stage ≠ .fresh) (next : b.stage = .reporting reason)
      (mode : b.worker.mode = ⟨.error, a.worker.since⟩)
  | finish (stage : a.stage ≠ .fresh) (next : b.stage.isEnding = true)
      (mode : b.worker.mode = a.worker.mode)

variable {a b : Stream} {m : Moment} {command : Command}

theorem WorksAt.works (h : a.WorksAt m b) : a.Works b := by
  cases h with
  | step h => exact .step m h
  | control result h => exact .control m result h
  | transfer answer h => exact .transfer m answer h

theorem WorksAt.step_of_not_handling (h : a.WorksAt m b)
    (hs : ∀ command task, a.stage ≠ .handling command task) : a.step m = some b := by
  cases h with
  | step h => exact h
  | control result h =>
    rw [answerControl_of_not_handling hs] at h
    cases h
  | transfer answer h =>
    rw [answerTransfer_of_not_handling hs] at h
    cases h

@[simp] theorem setup_report (s : Stream) (e : StreamError) : (s.report e).setup = s.setup := by
  obtain ⟨reports, h⟩ := s.report_eq e
  rw [h]

@[simp] theorem worker_report (s : Stream) (e : StreamError) : (s.report e).worker = s.worker := by
  obtain ⟨reports, h⟩ := s.report_eq e
  rw [h]

theorem setup_handled (s : Stream) (command : Command) (h : Handled) :
    (s.handled command h).setup = s.setup := by
  obtain ⟨reports, heq⟩ := s.handled_eq command h
  rw [heq]

theorem setup_beginCycle (m : Moment) (s : Stream) : (s.beginCycle m).setup = s.setup := by
  obtain ⟨reports, heq⟩ := s.beginCycle_eq m
  rw [heq]

theorem Acts.setup (h : a.Acts b) : b.setup = a.setup := by
  cases h with
  | resolve => exact setup_beginCycle _ _
  | tell | starve | play | append | overflow | control => exact setup_handled _ _ _
  | giveUp => exact setup_report _ _
  | _ => rfl

theorem ticks_handled {h : Handled} (stage : a.stage.isBusy = true)
    (becomes : a.worker.mode.Becomes m.now command h.answer h.worker.mode) (s : Stream) :
    a.Ticks m.now (s.handled command h) := by
  obtain ⟨reports, heq⟩ := s.handled_eq command h
  rw [heq]
  exact .answer stage rfl becomes

theorem ticks_beginCycle (m : Moment) (hs : a.stage = .fresh) : a.Ticks m.now (a.beginCycle m) := by
  obtain ⟨reports, heq⟩ := a.beginCycle_eq m
  rw [heq]
  exact .begin hs rfl rfl

theorem ticks_awaitCommand {deadline : Option Nat} (hs : a.stage = .waiting deadline)
    (h : a.awaitCommand m deadline = some b) : a.Ticks m.now b := by
  unfold awaitCommand at h
  split at h
  next =>
    cases h
    exact .take hs rfl rfl
  next =>
    cases h
    exact .abort (by simp [hs]) rfl rfl
  next =>
    split at h
    next =>
      split at h
      next hover =>
        cases h
        exact .timeOut hs hover rfl rfl
      next => cases h
    next => cases h

theorem ticks_beginCommand (hd : a.setup.direction = .output) (hs : a.stage = .sampling command) :
    a.Ticks m.now (a.beginCommand m command) := by
  have hbusy : a.stage.isBusy = true := by rw [hs]; rfl
  unfold beginCommand
  split
  next => exact .finish (by simp [hs]) rfl rfl
  next hreact => exact ticks_handled hbusy (Playback.becomes_of_react hd hreact) a
  next hreact => exact .carry hbusy rfl (Worker.decide_of_react_control hreact) rfl
  next hreact => exact .carry hbusy rfl (Worker.decide_of_react_burst hreact) rfl

theorem ticks_afterMoving (hd : a.setup.direction = .output) {burst : Burst} {size : Nat}
    (hs : a.stage = .handling command (.moving burst size)) (decided : a.Decided)
    {moved : Worker × Moved} (hmode : moved.1.mode = a.worker.mode) :
    a.Ticks m.now (a.afterMoving m command burst moved) := by
  have hbusy : a.stage.isBusy = true := by rw [hs]; rfl
  simp only [afterMoving, hd]
  exact ticks_handled hbusy
    (Playback.becomes_of_burst hd hmode (decided _ _ hs) moved.2 true) a

theorem ticks_continueTask (hd : a.setup.direction = .output) {task : Task}
    (hs : a.stage = .handling command task) (decided : a.Decided)
    (h : a.continueTask m command task = some b) : a.Ticks m.now b := by
  have hbusy : a.stage.isBusy = true := by rw [hs]; rfl
  have hdecide := decided _ _ hs
  cases task with
  | looking burst =>
    simp only [continueTask, hd] at h
    cases h
    exact .carry hbusy rfl hdecide rfl
  | taking burst count =>
    simp only [continueTask] at h
    split at h <;> cases h
    next => exact .carry hbusy rfl hdecide rfl
    next =>
      exact ticks_handled hbusy
        (Playback.becomes_of_burst hd rfl hdecide _ false) a
  | moving burst size =>
    simp only [continueTask] at h
    split at h <;> cases h
    exact ticks_afterMoving hd hs decided (a.worker.mode_withoutDevice a.setup size)
  | appending burst moved =>
    simp only [continueTask] at h
    split at h <;> cases h
    next =>
      exact ticks_handled hbusy
        (Playback.becomes_of_burst hd rfl hdecide _ true) _
    next =>
      exact ticks_handled hbusy
        (Playback.becomes_of_burst hd rfl hdecide _ false) a
  | controlling connected call next => cases h

theorem ticks_writeReply {reply : Reply} (hs : a.stage = .replying command reply)
    (h : a.writeReply reply = some b) : a.Ticks m.now b := by
  unfold writeReply at h
  split at h <;> cases h
  next => exact .reply hs rfl rfl
  next => exact .abort (by simp [hs]) rfl rfl

theorem ticks_of_step (hd : a.setup.direction = .output) (decided : a.Decided)
    (h : a.step m = some b) : a.Ticks m.now b := by
  cases hs : a.stage with
  | fresh =>
    simp only [step, hs] at h
    cases h
    exact ticks_beginCycle m hs
  | arming =>
    simp only [step, hs] at h
    cases h
    exact .arm hs rfl rfl
  | waiting deadline =>
    simp only [step, hs] at h
    exact ticks_awaitCommand hs h
  | sampling command =>
    simp only [step, hs] at h
    cases h
    exact ticks_beginCommand hd hs
  | handling command task =>
    simp only [step, hs] at h
    exact ticks_continueTask hd hs decided h
  | replying command reply =>
    simp only [step, hs] at h
    exact ticks_writeReply hs h
  | reporting reason =>
    simp only [step, hs] at h
    cases h
    exact .finish (by simp [hs]) (by rw [stage_report]; rfl) (by rw [worker_report])
  | closingCommands | closingReplies | leaving =>
    simp only [step, hs] at h
    cases h
    exact .finish (by simp [hs]) rfl rfl
  | stopped => simp [step, hs] at h

/-- A playback worker that does something does what is listed. -/
theorem ticks_of_worksAt (hd : a.setup.direction = .output) (decided : a.Decided)
    (h : a.WorksAt m b) : a.Ticks m.now b := by
  cases h with
  | step h => exact ticks_of_step hd decided h
  | control result h =>
    unfold answerControl at h
    split at h <;> cases h
    next hs =>
      exact ticks_handled (by rw [hs]; rfl)
        (Playback.becomes_of_control hd (decided _ _ hs) result) a
  | transfer answer h =>
    unfold answerTransfer at h
    split at h
    next hs =>
      split at h <;> cases h
      exact ticks_afterMoving hd hs decided rfl
    next => cases h

end Stream

end AudioStream
