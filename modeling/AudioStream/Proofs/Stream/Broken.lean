import AudioStream.Proofs.Queue.Data
import AudioStream.Proofs.Stream.Reports

/-!
# A stream whose driver has failed

When the driver fails in a call the worker enters the error state, and from then on it refuses whatever
would move it out of this state, call the driver or touch the data queue. Only a capture burst is not over
at once: the worker still finds that there is nothing to append before it reports the failure and answers.

The lemmas here are about single steps: `Fails.broken` about the one in which the driver fails, and
`Broken.works` about those of the worker after it.
-/

namespace AudioStream

/-- Whether a drain mode is one of those of a direction. -/
def Direction.knows : Direction → DrainMode → Bool
  | .input, mode => mode = .unspecified
  | .output, mode => mode ≠ .unspecified

/-- The status of the reply to a command that comes after the driver has failed. An exit command that gets
a reply has a foreign cookie. -/
def Direction.statusInError (d : Direction) : Command → Status
  | .getStatus => .ok
  | .exit _ => .badValue
  | .burst n => if n < 0 then .badValue else .invalidOperation
  | .drain mode => if d.knows mode then .invalidOperation else .badValue
  | .start | .standby | .pause | .flush => .invalidOperation

/-- Whether the worker carries out a command. -/
def Stage.isHandling : Stage → Bool
  | .handling _ _ => true
  | _ => false

namespace Worker

theorem react_of_error {s : Setup} {w : Worker} (hw : w.state = .error) (now : Nat) (connected : Bool)
    {command : Command} (other : command ≠ .exit s.cookie) :
    ∃ reply, w.react s now connected command = .reply { worker := w, reply } ∧
      reply.status = s.direction.statusInError command := by
  cases hd : s.direction <;> cases command with
  | exit cookie =>
    have hcookie : cookie ≠ s.cookie := fun h => other (by rw [h])
    simp [react, Setup.decide, hd, Decision.capture, Decision.playback, hcookie,
      Direction.statusInError]
  | burst n =>
    by_cases hn : n < 0 <;>
      simp [react, Setup.decide, hd, hw, hn, Decision.capture, Decision.playback,
        Direction.statusInError]
  | drain mode =>
    cases mode <;>
      simp [react, Setup.decide, hd, hw, Decision.capture, Decision.playback, Direction.statusInError,
        Direction.knows]
  | _ =>
    simp [react, Setup.decide, hd, hw, Decision.capture, Decision.playback, Direction.statusInError,
      succeed]

theorem resolve_of_error (s : Setup) {w : Worker} (hw : w.state = .error) (now : Nat) :
    w.resolve s now = (w, none) := by
  simp [resolve, hw, State.isTransient]

/-- A burst that fails counts nothing. -/
theorem finishBurst_of_failure (s : Setup) (now : Nat) (b : Burst) {m : Moved} (w : Worker)
    {e : DriverError} (h : m.failure = some e) (hnothing : m.frames = 0) :
    (w.finishBurst s now b m true).worker = { w with state := .error } ∧
      ∃ reason, (w.finishBurst s now b m true).report = some (.driverFailure reason) := by
  constructor
  · rw [worker_finishBurst_of_failure s now b m w h]
    simp [count, hnothing]
  · cases hd : s.direction <;> simp [finishBurst, h, transferFailure, hd]

end Worker

namespace Stream

variable {a b s : Stream}

/-- The driver has failed. The worker knows it, or holds a failed transfer of which nothing is left to do
but to append no bytes. -/
def Broken (s : Stream) : Prop :=
  match s.stage with
  | .handling _ (.appending _ m) => m.frames = 0 ∧ m.failure.isSome = true
  | .handling _ _ => False
  | .replying _ reply => s.worker.state = .error ∧ reply.state = .error
  | _ => s.worker.state = .error

/-- Nothing is counted, and no notice is given. -/
structure Stands (a b : Stream) : Prop where
  setup : b.setup = a.setup
  frameCount : b.worker.frameCount = a.worker.frameCount
  notices : b.notices = a.notices

/-- Besides, the data queue is as it was. -/
structure Rests (a b : Stream) : Prop extends a.Stands b where
  data : b.transport.data = a.transport.data

/-- The worker has done with a command, and reports a failure of the driver before it writes the reply. -/
def Confesses (a b : Stream) : Prop :=
  ∃ command task reply reason, a.stage = .handling command task ∧ b.stage = .replying command reply ∧
    b.reports = (a.report (.driverFailure reason)).reports ∧
    b.transport.replies = a.transport.replies

/-! ## The failure -/

theorem Stands.refl (a : Stream) : a.Stands a := ⟨rfl, rfl, rfl⟩

theorem Stands.trans {c : Stream} (h : a.Stands b) (h' : b.Stands c) : a.Stands c where
  setup := h'.setup.trans h.setup
  frameCount := h'.frameCount.trans h.frameCount
  notices := h'.notices.trans h.notices

theorem broken_handled {command : Command} {h : Handled} (hw : h.worker.state = .error) :
    (s.handled command h).Broken := by
  obtain ⟨reports, heq⟩ := s.handled_eq command h
  rw [heq]
  exact ⟨hw, hw⟩

theorem rests_handled {command : Command} {h : Handled}
    (hw : h.worker.frameCount = s.worker.frameCount) : s.Rests (s.handled command h) := by
  obtain ⟨reports, heq⟩ := s.handled_eq command h
  rw [heq]
  exact ⟨⟨rfl, hw, rfl⟩, rfl⟩

theorem confesses_handled {command : Command} {task : Task} {h : Handled} {reason : String}
    (hs : s.stage = .handling command task) (he : h.report = some (.driverFailure reason)) :
    s.Confesses (s.handled command h) := by
  have hreports : (s.handled command h).reports = (s.report (.driverFailure reason)).reports :=
    reports_handled_of_some he
  obtain ⟨reports, heq⟩ := s.handled_eq command h
  rw [heq] at hreports ⊢
  exact ⟨command, task, h.answer, reason, hs, rfl, hreports, rfl⟩

/-- Carrying a failed burst to its end. -/
theorem broken_finishBurst {command : Command} {task : Task} (hs : s.stage = .handling command task)
    (m : Moment) (burst : Burst) (moved : Moved) (w : Worker)
    (hw : w.frameCount = s.worker.frameCount) (hfailed : moved.failure.isSome = true)
    (hnothing : moved.frames = 0) :
    (s.handled command (w.finishBurst s.setup m.now burst moved true)).Broken ∧
      s.Rests (s.handled command (w.finishBurst s.setup m.now burst moved true)) ∧
      s.Confesses (s.handled command (w.finishBurst s.setup m.now burst moved true)) := by
  obtain ⟨e, he⟩ := Option.isSome_iff_exists.mp hfailed
  obtain ⟨hworker, reason, hreason⟩ :=
    Worker.finishBurst_of_failure s.setup m.now burst w he hnothing
  refine ⟨broken_handled ?_, rests_handled ?_, confesses_handled hs hreason⟩
  · rw [hworker]
  · rw [hworker]
    exact hw

/-- When the driver fails, the failure is reported at once or, in capture, with the end of the burst. -/
theorem Fails.broken (h : a.Fails b) : b.Broken ∧ a.Rests b ∧
    (a.Confesses b ∨ b.reports = a.reports ∧
      ∃ command burst moved, b.stage = .handling command (.appending burst moved)) := by
  cases h with
  | control m e h =>
    unfold answerControl at h
    split at h
    next command connected call next hs =>
      cases h
      exact ⟨broken_handled rfl, rests_handled rfl, .inl (confesses_handled hs rfl)⟩
    next => cases h
  | transfer m answer e failed h =>
    unfold answerTransfer at h
    split at h
    next command burst size hs =>
      split at h
      next =>
        cases h
        have hmoved : Moved.ofAnswer (a.setup.frames size) answer.result =
            { frames := 0, failure := some e } := by
          rw [failed, Moved.ofAnswer]
        unfold afterMoving
        split
        · refine ⟨?_, ⟨⟨rfl, rfl, rfl⟩, rfl⟩, .inr ⟨rfl, command, burst, _, rfl⟩⟩
          simp [Broken, Worker.afterTransfer, hmoved]
        · obtain ⟨hbroken, hrests, hconfesses⟩ := broken_finishBurst hs m burst
            (a.worker.afterTransfer a.setup size answer).2
            (a.worker.afterTransfer a.setup size answer).1
            (Worker.frameCount_fill _ _) (by simp [Worker.afterTransfer, hmoved])
            (by simp [Worker.afterTransfer, hmoved])
          exact ⟨hbroken, hrests, .inl hconfesses⟩
      next => cases h
    next => cases h

/-! ## What comes after -/

theorem broken_awaitCommand {m : Moment} {deadline : Option Nat} (h : s.worker.state = .error)
    (hstep : s.awaitCommand m deadline = some b) :
    b.Broken ∧ s.Rests b ∧ b.stage.isHandling = false := by
  unfold awaitCommand at hstep
  split at hstep
  next command commands hread =>
    cases hstep
    exact ⟨h, ⟨⟨rfl, rfl, rfl⟩, rfl⟩, rfl⟩
  next e hread =>
    cases hstep
    exact ⟨rfl, ⟨⟨rfl, rfl, rfl⟩, rfl⟩, rfl⟩
  next =>
    split at hstep
    next time =>
      split at hstep
      next =>
        cases hstep
        exact ⟨h, ⟨⟨rfl, rfl, rfl⟩, rfl⟩, rfl⟩
      next => cases hstep
    next => cases hstep

/-- A command that comes after the driver has failed is answered at once, unless it ends the worker. -/
theorem beginCommand_of_error (m : Moment) {command : Command} (h : s.worker.state = .error)
    (other : command ≠ .exit s.setup.cookie) :
    ∃ reply, s.beginCommand m command = { s with stage := .replying command reply } ∧
      reply.state = .error ∧ reply.status = s.setup.direction.statusInError command := by
  obtain ⟨reply, hreact, hstatus⟩ := Worker.react_of_error h m.now s.connected other
  refine ⟨{ reply with state := .error }, ?_, rfl, hstatus⟩
  simp [beginCommand, hreact, handled, Handled.answer, h]

theorem broken_beginCommand (m : Moment) (command : Command) (h : s.worker.state = .error) :
    (s.beginCommand m command).Broken ∧ s.Rests (s.beginCommand m command) ∧
      (s.beginCommand m command).stage.isHandling = false := by
  by_cases hexit : command = .exit s.setup.cookie
  · have hstop : s.setup.decide s.worker.state command = .stop :=
      s.setup.decide_eq_stop_iff.mpr hexit
    have heq : s.beginCommand m command = { s with closed := true, stage := .leaving } := by
      simp [beginCommand, Worker.react, hstop]
    rw [heq]
    exact ⟨h, ⟨⟨rfl, rfl, rfl⟩, rfl⟩, rfl⟩
  · obtain ⟨reply, heq, hreply, -⟩ := beginCommand_of_error m h hexit
    rw [heq]
    exact ⟨⟨h, hreply⟩, ⟨⟨rfl, rfl, rfl⟩, rfl⟩, rfl⟩

theorem broken_writeReply {reply : Reply} (h : s.worker.state = .error)
    (hstep : s.writeReply reply = some b) : b.Broken ∧ s.Rests b ∧ b.stage.isHandling = false := by
  unfold writeReply at hstep
  split at hstep
  next replies hwrite =>
    cases hstep
    exact ⟨h, ⟨⟨rfl, rfl, rfl⟩, rfl⟩, rfl⟩
  next e hwrite =>
    cases hstep
    exact ⟨rfl, ⟨⟨rfl, rfl, rfl⟩, rfl⟩, rfl⟩
  next => cases hstep

/-- Between commands, and with a command that has not begun, the worker stays in the error state. -/
theorem Broken.idle {m : Moment} (h : a.Broken) (ha : a.stage.isHandling = false)
    (hstep : a.step m = some b) : b.Broken ∧ a.Rests b ∧ b.stage.isHandling = false := by
  cases hs : a.stage with
  | fresh =>
    simp only [Broken, hs] at h
    simp only [Stream.step, hs] at hstep
    cases hstep
    have heq : a.beginCycle m = { a with stage := .arming } := by
      simp [beginCycle, a.worker.resolve_of_error a.setup h]
    rw [heq]
    exact ⟨h, ⟨⟨rfl, rfl, rfl⟩, rfl⟩, rfl⟩
  | waiting deadline =>
    simp only [Broken, hs] at h
    simp only [Stream.step, hs] at hstep
    exact broken_awaitCommand h hstep
  | sampling command =>
    simp only [Broken, hs] at h
    simp only [Stream.step, hs] at hstep
    cases hstep
    exact broken_beginCommand m command h
  | handling command task => simp [hs, Stage.isHandling] at ha
  | replying command reply =>
    simp only [Broken, hs] at h
    simp only [Stream.step, hs] at hstep
    exact broken_writeReply h.1 hstep
  | reporting reason =>
    simp only [Broken, hs] at h
    simp only [Stream.step, hs] at hstep
    cases hstep
    obtain ⟨reports, heq⟩ := report_eq { a with stage := .closingCommands } (.queueFailure reason)
    rw [heq]
    exact ⟨h, ⟨⟨rfl, rfl, rfl⟩, rfl⟩, rfl⟩
  | arming | closingCommands | closingReplies | leaving =>
    simp only [Broken, hs] at h
    simp only [Stream.step, hs] at hstep
    cases hstep
    exact ⟨h, ⟨⟨rfl, rfl, rfl⟩, rfl⟩, rfl⟩
  | stopped => simp [Stream.step, hs] at hstep

theorem broken_appending {m : Moment} {command : Command} {burst : Burst} {moved : Moved}
    (hs : s.stage = .handling command (.appending burst moved))
    (hnothing : moved.frames = 0) (hfailed : moved.failure.isSome = true)
    (hstep : s.continueTask m command (.appending burst moved) = some b) :
    b.Broken ∧ s.Rests b ∧ s.Confesses b := by
  have hempty : s.worker.movedBytes s.setup moved = [] := by simp [Worker.movedBytes, hnothing]
  simp only [continueTask, hempty, DataQueue.write_nil] at hstep
  cases hstep
  exact broken_finishBurst hs m burst moved s.worker rfl hfailed hnothing

/-- The worker has nothing to do with the driver, and reports no failure of it. -/
structure Idles (a b : Stream) : Prop where
  before : a.stage.isHandling = false
  after : b.stage.isHandling = false
  quiet : a.Quiet b

theorem Broken.step {m : Moment} (h : a.Broken) (hstep : a.step m = some b) :
    b.Broken ∧ a.Rests b ∧ (a.Confesses b ∨ a.Idles b) := by
  cases hs : a.stage with
  | handling command task =>
    simp only [Stream.step, hs] at hstep
    cases task with
    | appending burst moved =>
      simp only [Broken, hs] at h
      obtain ⟨hbroken, hrests, hconfesses⟩ := broken_appending hs h.1 h.2 hstep
      exact ⟨hbroken, hrests, .inl hconfesses⟩
    | _ => simp [Broken, hs] at h
  | _ =>
    have ha : a.stage.isHandling = false := by rw [hs]; rfl
    have hsound : a.Sound := sound_of_isAppending (by rw [hs]; rfl)
    obtain ⟨hbroken, hrests, hb⟩ := h.idle ha hstep
    exact ⟨hbroken, hrests, .inr ⟨ha, hb, (hsound.step hstep).quiet⟩⟩

theorem Broken.answerControl_eq_none (h : s.Broken) (m : Moment) (result : Except DriverError Unit) :
    s.answerControl m result = none := by
  unfold answerControl
  split
  next hs => simp [Broken, hs] at h
  next => rfl

theorem Broken.answerTransfer_eq_none (h : s.Broken) (m : Moment) (answer : TransferAnswer) :
    s.answerTransfer m answer = none := by
  unfold answerTransfer
  split
  next hs => simp [Broken, hs] at h
  next => rfl

/-- After a failure the worker is in no call of the driver. -/
theorem Broken.call?_eq_none (h : s.Broken) : s.call? = none := by
  unfold Broken at h
  unfold call?
  split at h <;> simp_all

theorem Broken.not_fails (h : a.Broken) : ¬ a.Fails b := by
  intro hfails
  cases hfails with
  | control m e hanswer => simp [h.answerControl_eq_none] at hanswer
  | transfer m answer e failed hanswer => simp [h.answerTransfer_eq_none] at hanswer

/-- After a failure the worker neither leaves the error state nor touches the data queue, and it tells of
the failure once. -/
theorem Broken.works (h : a.Broken) (hw : a.Works b) :
    b.Broken ∧ a.Rests b ∧ (a.Confesses b ∨ a.Idles b) := by
  cases hw with
  | step m hstep => exact h.step hstep
  | control m result hanswer => simp [h.answerControl_eq_none] at hanswer
  | transfer m answer hanswer => simp [h.answerTransfer_eq_none] at hanswer

end Stream

end AudioStream
