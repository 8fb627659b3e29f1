import AudioStream.Proofs.Stream.Skeleton
import AudioStream.Proofs.Worker.Cycle

/-!
# What a worker does to the skeleton

Each step of a worker is one of the steps `Skeleton.Works` of the skeleton. Steps that do not happen are
the subject of `Stream.canGoOn_or`: a worker that cannot go on waits for a message queue, or has stopped.
-/

namespace AudioStream

namespace Stream

variable {s s' : Stream} {m : Moment}

@[simp] theorem skeleton_report (s : Stream) (e : StreamError) :
    (s.report e).skeleton = s.skeleton := by
  unfold report
  split <;> rfl

@[simp] theorem skeleton_handled (s : Stream) (command : Command) (h : Handled) :
    (s.handled command h).skeleton = { s.skeleton with duty := .answering command h.answer } := by
  unfold handled
  dsimp only
  split
  · rw [skeleton_report]
    rfl
  · rfl

theorem skeleton_beginCycle (h : s.stage = .fresh) : (s.beginCycle m).skeleton = s.skeleton := by
  unfold beginCycle
  dsimp only
  split
  · rw [skeleton_report]
    simp [skeleton, h, Stage.duty]
  · simp [skeleton, h, Stage.duty]

theorem skeleton_awaitCommand {deadline : Option Nat} (hs : s.stage = .waiting deadline)
    (h : s.awaitCommand m deadline = some s') : s.skeleton.Works s'.skeleton := by
  have hduty : s.skeleton.duty = .listening := by simp [skeleton, hs, Stage.duty]
  unfold awaitCommand at h
  split at h
  next command commands hread =>
    cases h
    exact .take hduty hread
  next e hread =>
    cases h
    exact .failToRead hduty (MessageQueue.of_read_eq_failed hread)
  next =>
    split at h
    · split at h
      · cases h
        have hsame : { s with stage := Stage.fresh }.skeleton = s.skeleton := by
          simp [skeleton, hs, Stage.duty]
        rw [hsame]
        exact .stay
      · cases h
    · cases h

theorem skeleton_beginCommand {command : Command} (hs : s.stage = .sampling command) :
    s.skeleton.Works (s.beginCommand m command).skeleton := by
  have hduty : s.skeleton.duty = .holding command := by simp [skeleton, hs, Stage.duty]
  have hstop : s.setup.decide s.worker.state command = .stop ↔ command = .exit s.setup.cookie :=
    s.setup.decide_eq_stop_iff
  unfold beginCommand
  cases hd : s.setup.decide s.worker.state command with
  | stop =>
    obtain rfl := hstop.mp hd
    simp only [Worker.react, hd]
    exact .leave hduty
  | reject | refuse | tell | move =>
    have hother : command ≠ .exit s.setup.cookie := fun he => by simp [hstop.mpr he] at hd
    simp only [Worker.react, hd, skeleton_handled]
    exact .reply hduty hother
  | control | burst =>
    have hother : command ≠ .exit s.setup.cookie := fun he => by simp [hstop.mpr he] at hd
    simp only [Worker.react, hd]
    exact .carry hduty hother

theorem skeleton_afterMoving {command : Command} (b : Burst) (moved : Worker × Moved)
    (hs : s.skeleton.duty = .carrying command) :
    s.skeleton.Works (s.afterMoving m command b moved).skeleton := by
  unfold afterMoving
  split
  · have hsame : { s with worker := moved.1, stage := .handling command (.appending b moved.2) }.skeleton
        = s.skeleton := by
      simp only [skeleton] at hs ⊢
      rw [hs]
      rfl
    rw [hsame]
    exact .stay
  · rw [skeleton_handled]
    exact .finish hs

theorem skeleton_continueTask {command : Command} {task : Task} (hs : s.stage = .handling command task)
    (h : s.continueTask m command task = some s') : s.skeleton.Works s'.skeleton := by
  have hduty : s.skeleton.duty = .carrying command := by simp [skeleton, hs, Stage.duty]
  -- Whatever it does next, a worker that goes on with the task still carries the command.
  have hstay {t : Stream} (ht : t.skeleton = { s.skeleton with duty := .carrying command }) :
      s.skeleton.Works t.skeleton := by
    rw [ht, ← hduty]
    exact .stay
  cases task with
  | looking b =>
    simp only [continueTask] at h
    split at h <;> cases h <;> exact hstay rfl
  | taking b count =>
    simp only [continueTask] at h
    split at h <;> cases h
    · exact hstay rfl
    · rw [skeleton_handled]
      exact .finish hduty
  | moving b size =>
    simp only [continueTask] at h
    split at h <;> cases h
    exact skeleton_afterMoving b _ hduty
  | appending b moved =>
    simp only [continueTask] at h
    split at h <;> cases h <;> rw [skeleton_handled] <;> exact .finish hduty
  | controlling connected call next => cases h

theorem skeleton_writeReply {command : Command} {reply : Reply}
    (hs : s.stage = .replying command reply) (h : s.writeReply reply = some s') :
    s.skeleton.Works s'.skeleton := by
  have hduty : s.skeleton.duty = .answering command reply := by simp [skeleton, hs, Stage.duty]
  unfold writeReply at h
  split at h
  next replies hwrite =>
    cases h
    exact .write hduty hwrite
  next e hwrite =>
    cases h
    exact .failToWrite hduty (MessageQueue.of_write_eq_failed hwrite)
  next => cases h

theorem skeleton_step (h : s.step m = some s') : s.skeleton.Works s'.skeleton := by
  have hduty : s.skeleton.duty = s.stage.duty := rfl
  cases hs : s.stage with
  | fresh =>
    simp only [step, hs] at h
    cases h
    rw [skeleton_beginCycle hs]
    exact .stay
  | arming =>
    simp only [step, hs] at h
    cases h
    have hsame (deadline : Option Nat) :
        { s with stage := .waiting deadline }.skeleton = s.skeleton := by
      simp [skeleton, hs, Stage.duty]
    rw [hsame]
    exact .stay
  | waiting deadline =>
    simp only [step, hs] at h
    exact skeleton_awaitCommand hs h
  | sampling command =>
    simp only [step, hs] at h
    cases h
    exact skeleton_beginCommand hs
  | handling command task =>
    simp only [step, hs] at h
    exact skeleton_continueTask hs h
  | replying command reply =>
    simp only [step, hs] at h
    exact skeleton_writeReply hs h
  | reporting reason =>
    simp only [step, hs] at h
    cases h
    rw [skeleton_report]
    have hsame : { s with stage := .closingCommands }.skeleton = s.skeleton := by
      simp [skeleton, hs, Stage.duty]
    rw [hsame]
    exact .stay
  | closingCommands =>
    simp only [step, hs] at h
    cases h
    exact .shutCommands (by rw [hduty, hs]; rfl)
  | closingReplies =>
    simp only [step, hs] at h
    cases h
    exact .shutReplies (by rw [hduty, hs]; rfl)
  | leaving =>
    simp only [step, hs] at h
    cases h
    exact .stop (by rw [hduty, hs]; rfl)
  | stopped => simp [step, hs] at h

theorem skeleton_answerControl {result : Except DriverError Unit}
    (h : s.answerControl m result = some s') : s.skeleton.Works s'.skeleton := by
  unfold answerControl at h
  split at h
  next command connected call next hs =>
    cases h
    rw [skeleton_handled]
    exact .finish (by simp [skeleton, hs, Stage.duty])
  next => cases h

theorem skeleton_answerTransfer {answer : TransferAnswer}
    (h : s.answerTransfer m answer = some s') : s.skeleton.Works s'.skeleton := by
  unfold answerTransfer at h
  split at h
  next command b size hs =>
    split at h <;> cases h
    exact skeleton_afterMoving b _ (by simp [skeleton, hs, Stage.duty])
  next => cases h

theorem answerControl_of_not_handling (hs : ∀ command task, s.stage ≠ .handling command task)
    (m : Moment) (result : Except DriverError Unit) : s.answerControl m result = none := by
  unfold answerControl
  split
  next hcall => exact absurd hcall (hs _ _)
  next => rfl

theorem answerTransfer_of_not_handling (hs : ∀ command task, s.stage ≠ .handling command task)
    (m : Moment) (answer : TransferAnswer) : s.answerTransfer m answer = none := by
  unfold answerTransfer
  split
  next hcall => exact absurd hcall (hs _ _)
  next => rfl

/-- The worker does something: it takes a step, or the driver answers its call. -/
inductive Works (a : Stream) : Stream → Prop where
  | step {b : Stream} (m : Moment) (h : a.step m = some b) : Works a b
  | control {b : Stream} (m : Moment) (result : Except DriverError Unit)
      (h : a.answerControl m result = some b) : Works a b
  | transfer {b : Stream} (m : Moment) (answer : TransferAnswer)
      (h : a.answerTransfer m answer = some b) : Works a b

theorem Works.skeleton (h : s.Works s') : s.skeleton.Works s'.skeleton := by
  cases h with
  | step m h => exact skeleton_step h
  | control m result h => exact skeleton_answerControl h
  | transfer m answer h => exact skeleton_answerTransfer h

/-- Between two commands, and while it waits for one, a worker hears nothing from the driver. -/
theorem Works.step_of_not_handling (h : s.Works s')
    (hs : ∀ command task, s.stage ≠ .handling command task) : ∃ m, s.step m = some s' := by
  cases h with
  | step m h => exact ⟨m, h⟩
  | control m result h =>
    rw [answerControl_of_not_handling hs] at h
    cases h
  | transfer m answer h =>
    rw [answerTransfer_of_not_handling hs] at h
    cases h

/-- The worker can go on at a moment, with the answer of the driver if it is in a call. -/
def CanGoOn (m : Moment) (s : Stream) : Prop :=
  (s.step m).isSome ∨ (∀ result, (s.answerControl m result).isSome) ∨
    ∀ answer, (s.answerTransfer m answer).isSome

/-- A worker that cannot go on waits for a command or for room for its reply, or has stopped. -/
theorem canGoOn_or (m : Moment) (s : Stream) : s.CanGoOn m ∨
    (s.skeleton.duty = .listening ∧ s.skeleton.commands.isShutDown = false ∧
      s.skeleton.commands.items = []) ∨
    (s.skeleton.replies.isShutDown = false ∧ s.skeleton.replies.items ≠ []) ∨
    s.skeleton.duty = .stopped := by
  cases hs : s.stage with
  | fresh | arming | sampling | reporting | closingCommands | closingReplies | leaving =>
    exact .inl (.inl (by simp [step, hs]))
  | waiting deadline =>
    cases hread : s.transport.commands.read with
    | done taken => exact .inl (.inl (by simp [step, hs, awaitCommand, hread]))
    | failed e => exact .inl (.inl (by simp [step, hs, awaitCommand, hread]))
    | waits =>
      exact .inr (.inl ⟨by simp [skeleton, hs, Stage.duty], MessageQueue.of_read_eq_waits hread⟩)
  | handling command task =>
    cases task with
    | looking b => exact .inl (.inl (by simp only [step, hs, continueTask]; split <;> rfl))
    | taking b count => exact .inl (.inl (by simp only [step, hs, continueTask]; split <;> rfl))
    | appending b moved => exact .inl (.inl (by simp only [step, hs, continueTask]; split <;> rfl))
    | moving b size =>
      cases hb : b.connected with
      | true => exact .inl (.inr (.inr fun answer => by simp [answerTransfer, hs, hb]))
      | false => exact .inl (.inl (by simp [step, hs, continueTask, hb]))
    | controlling connected call next =>
      exact .inl (.inr (.inl fun result => by simp [answerControl, hs]))
  | replying command reply =>
    cases hwrite : s.transport.replies.write reply with
    | done queue => exact .inl (.inl (by simp [step, hs, writeReply, hwrite]))
    | failed e => exact .inl (.inl (by simp [step, hs, writeReply, hwrite]))
    | waits => exact .inr (.inr (.inl (MessageQueue.of_write_eq_waits hwrite)))
  | stopped => exact .inr (.inr (.inr (by simp [skeleton, hs, Stage.duty])))

end Stream

end AudioStream
