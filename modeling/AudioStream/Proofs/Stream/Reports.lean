import AudioStream.Proofs.Stream.Working
import AudioStream.Proofs.Worker.Burst

/-!
# What a worker reports

A worker reports failures of the driver and of the queues for messages, and clients that fail to take a
notice. As long as it holds no failed transfer, it reports a failure of the driver only in the step in
which the driver fails. This is `Sound.works`.
-/

namespace AudioStream

/-- Whether an error tells of a failure of the driver. -/
def StreamError.isDriverFailure : StreamError → Bool
  | .driverFailure _ => true
  | _ => false

/-- Whether the worker is about to append what was captured. -/
def Stage.isAppending : Stage → Bool
  | .handling _ (.appending _ _) => true
  | _ => false

namespace Stream

variable {a b s : Stream}

/-- What has been reported since an earlier moment, if the client has not looked at the reports
meanwhile. -/
def news (a b : Stream) : List StreamError := b.reports.drop a.reports.length

/-- No failure of the driver is reported. -/
def Quiet (a b : Stream) : Prop := ∀ e ∈ a.news b, e.isDriverFailure = false

/-- The driver fails in a call. -/
inductive Fails (a : Stream) : Stream → Prop where
  | control {b : Stream} (m : Moment) (e : DriverError) (h : a.answerControl m (.error e) = some b) :
      Fails a b
  | transfer {b : Stream} (m : Moment) (answer : TransferAnswer) (e : DriverError)
      (failed : answer.result = .error e) (h : a.answerTransfer m answer = some b) : Fails a b

/-! ## Reports -/

/-- To report something changes nothing but the reports. -/
theorem report_eq (s : Stream) (e : StreamError) : ∃ reports, s.report e = { s with reports } := by
  unfold report
  split
  · exact ⟨_, rfl⟩
  · exact ⟨s.reports, rfl⟩

@[simp] theorem stage_report (s : Stream) (e : StreamError) : (s.report e).stage = s.stage := by
  unfold report
  split <;> rfl

theorem reports_report_congr (h : b.reports = a.reports) (e : StreamError) :
    (b.report e).reports = (a.report e).reports := by
  unfold report
  rw [h]
  split
  · rfl
  · exact h

theorem handled_eq (s : Stream) (command : Command) (h : Handled) :
    ∃ reports, s.handled command h =
      { s with worker := h.worker, stage := .replying command h.answer, reports } := by
  unfold handled
  cases h.report with
  | none => exact ⟨s.reports, rfl⟩
  | some e => exact report_eq _ e

theorem stage_handled (s : Stream) (command : Command) (h : Handled) :
    (s.handled command h).stage = .replying command h.answer := by
  obtain ⟨reports, heq⟩ := s.handled_eq command h
  rw [heq]

theorem beginCycle_eq (m : Moment) (s : Stream) :
    ∃ reports, s.beginCycle m =
      { s with
        worker := (s.worker.resolve s.setup m.now).1
        stage := .arming
        notices := s.notices ++ (s.worker.resolve s.setup m.now).2.toList
        reports } := by
  unfold beginCycle
  dsimp only
  split
  · exact report_eq _ _
  · exact ⟨s.reports, rfl⟩

theorem reports_handled_of_some {command : Command} {h : Handled} {e : StreamError}
    (he : h.report = some e) : (s.handled command h).reports = (s.report e).reports := by
  simp only [handled, he]
  apply reports_report_congr
  rfl

theorem reports_handled_of_none {command : Command} {h : Handled} (he : h.report = none) :
    (s.handled command h).reports = s.reports := by
  simp only [handled, he]

theorem news_of_report {e : StreamError} (h : b.reports = (a.report e).reports) :
    a.news b = [e] ∨ a.news b = [] := by
  rw [news, h]
  unfold report
  split
  · exact .inl List.drop_left
  · exact .inr List.drop_length

theorem quiet_of_le (h : b.reports.length ≤ a.reports.length) : a.Quiet b := by
  intro e he
  rw [news, List.drop_of_length_le h] at he
  cases he

theorem quiet_of_eq (h : b.reports = a.reports) : a.Quiet b :=
  quiet_of_le (Nat.le_of_eq (congrArg List.length h))

theorem quiet_of_report {e : StreamError} (h : b.reports = (a.report e).reports)
    (other : e.isDriverFailure = false) : a.Quiet b := by
  intro x hx
  rcases news_of_report h with hnews | hnews
  · rw [hnews, List.mem_singleton] at hx
    rw [hx]
    exact other
  · rw [hnews] at hx
    cases hx

/-! ## Steps without a failure -/

/-- The worker holds no failed transfer. -/
def Sound (s : Stream) : Prop :=
  ∀ command burst moved, s.stage = .handling command (.appending burst moved) → moved.failure = none

/-- The worker goes on and holds no failed transfer, and it reports no failure of the driver. -/
structure Fares (a b : Stream) : Prop where
  setup : b.setup = a.setup
  sound : b.Sound
  quiet : a.Quiet b

theorem sound_of_isAppending (h : s.stage.isAppending = false) : s.Sound := by
  intro command burst moved hs
  rw [hs] at h
  cases h

theorem fares_of_eq (hb : b.stage.isAppending = false) (hsetup : b.setup = a.setup)
    (h : b.reports = a.reports) : a.Fares b :=
  ⟨hsetup, sound_of_isAppending hb, quiet_of_eq h⟩

theorem fares_report {e : StreamError} (hs : s.stage.isAppending = false)
    (hsetup : s.setup = a.setup) (h : s.reports = a.reports) (other : e.isDriverFailure = false) :
    a.Fares (s.report e) where
  setup := by
    obtain ⟨reports, heq⟩ := s.report_eq e
    rw [heq]
    exact hsetup
  sound := sound_of_isAppending (by rwa [stage_report])
  quiet := quiet_of_report (reports_report_congr h e) other

/-- An answer to the command, with nothing to report. -/
theorem fares_handled {command : Command} {h : Handled} (hsetup : s.setup = a.setup)
    (hs : s.reports = a.reports) (hnone : h.report = none) : a.Fares (s.handled command h) := by
  have hreports : (s.handled command h).reports = s.reports := reports_handled_of_none hnone
  obtain ⟨reports, heq⟩ := s.handled_eq command h
  rw [heq] at hreports ⊢
  exact fares_of_eq rfl hsetup (hreports.trans hs)

theorem report_finishBurst (s : Setup) (now : Nat) (burst : Burst) {moved : Moved} (queued : Bool)
    (w : Worker) (h : moved.failure = none) : (w.finishBurst s now burst moved queued).report = none := by
  simp [Worker.finishBurst, h]

theorem report_react {s : Setup} {w : Worker} {now : Nat} {connected : Bool} {command : Command}
    {h : Handled} (hreact : w.react s now connected command = .reply h) : h.report = none := by
  unfold Worker.react at hreact
  split at hreact <;> cases hreact <;> rfl

theorem fares_beginCycle (m : Moment) (s : Stream) : s.Fares (s.beginCycle m) := by
  unfold beginCycle
  dsimp only
  split
  next e he =>
    have hother : e.isDriverFailure = false := by
      obtain ⟨n, -, hn⟩ := Option.bind_eq_some_iff.mp he
      obtain ⟨error, -, rfl⟩ := Option.map_eq_some_iff.mp hn
      rfl
    exact fares_report rfl rfl rfl hother
  next => exact fares_of_eq rfl rfl rfl

theorem fares_awaitCommand {m : Moment} {deadline : Option Nat}
    (h : s.awaitCommand m deadline = some b) : s.Fares b := by
  unfold awaitCommand at h
  split at h
  next =>
    cases h
    exact fares_of_eq rfl rfl rfl
  next =>
    cases h
    exact fares_of_eq rfl rfl rfl
  next =>
    split at h
    next =>
      split at h
      next =>
        cases h
        exact fares_of_eq rfl rfl rfl
      next => cases h
    next => cases h

theorem fares_beginCommand (m : Moment) (command : Command) (s : Stream) :
    s.Fares (s.beginCommand m command) := by
  unfold beginCommand
  split
  next => exact fares_of_eq rfl rfl rfl
  next done hreact => exact fares_handled rfl rfl (report_react hreact)
  next => exact fares_of_eq rfl rfl rfl
  next => exact fares_of_eq rfl rfl rfl

theorem fares_afterMoving (m : Moment) (command : Command) (burst : Burst) (moved : Worker × Moved)
    (s : Stream) (h : moved.2.failure = none) : s.Fares (s.afterMoving m command burst moved) := by
  unfold afterMoving
  split
  · refine ⟨rfl, fun _ _ _ hs => ?_, quiet_of_eq rfl⟩
    cases hs
    exact h
  · exact fares_handled rfl rfl (report_finishBurst _ _ _ _ _ h)

theorem fares_continueTask {m : Moment} {command : Command} {task : Task}
    (hsound : s.Sound) (hs : s.stage = .handling command task)
    (h : s.continueTask m command task = some b) : s.Fares b := by
  cases task with
  | looking burst =>
    simp only [continueTask] at h
    split at h <;> cases h <;> exact fares_of_eq rfl rfl rfl
  | taking burst count =>
    simp only [continueTask] at h
    split at h <;> cases h
    · exact fares_of_eq rfl rfl rfl
    · exact fares_handled rfl rfl (report_finishBurst _ _ _ _ _ rfl)
  | moving burst size =>
    simp only [continueTask] at h
    split at h <;> cases h
    apply fares_afterMoving
    rw [Worker.moved_withoutDevice]
    rfl
  | appending burst moved =>
    have hmoved := hsound command burst moved hs
    simp only [continueTask] at h
    split at h <;> cases h <;> exact fares_handled rfl rfl (report_finishBurst _ _ _ _ _ hmoved)
  | controlling connected call next => cases h

theorem fares_writeReply {reply : Reply} (h : s.writeReply reply = some b) : s.Fares b := by
  unfold writeReply at h
  split at h <;> cases h <;> exact fares_of_eq rfl rfl rfl

theorem Sound.step {m : Moment} (h : a.Sound) (hstep : a.step m = some b) : a.Fares b := by
  cases hs : a.stage with
  | fresh =>
    simp only [Stream.step, hs] at hstep
    cases hstep
    exact fares_beginCycle m a
  | waiting deadline =>
    simp only [Stream.step, hs] at hstep
    exact fares_awaitCommand hstep
  | sampling command =>
    simp only [Stream.step, hs] at hstep
    cases hstep
    exact fares_beginCommand m command a
  | handling command task =>
    simp only [Stream.step, hs] at hstep
    exact fares_continueTask h hs hstep
  | replying command reply =>
    simp only [Stream.step, hs] at hstep
    exact fares_writeReply hstep
  | reporting reason =>
    simp only [Stream.step, hs] at hstep
    cases hstep
    exact fares_report rfl rfl rfl rfl
  | arming | closingCommands | closingReplies | leaving =>
    simp only [Stream.step, hs] at hstep
    cases hstep
    exact fares_of_eq rfl rfl rfl
  | stopped => simp [Stream.step, hs] at hstep

/-- As long as the driver does not fail, the worker has no failure of it to report. -/
theorem Sound.works (h : a.Sound) (hw : a.Works b) : a.Fails b ∨ a.Fares b := by
  cases hw with
  | step m hstep => exact .inr (h.step hstep)
  | control m result hanswer =>
    cases result with
    | error e => exact .inl (.control m e hanswer)
    | ok done =>
      unfold answerControl at hanswer
      split at hanswer <;> cases hanswer
      exact .inr (fares_handled rfl rfl rfl)
  | transfer m answer hanswer =>
    cases hr : answer.result with
    | error e => exact .inl (.transfer m answer e hr hanswer)
    | ok r =>
      unfold answerTransfer at hanswer
      split at hanswer
      next =>
        split at hanswer <;> cases hanswer
        refine .inr (fares_afterMoving _ _ _ _ _ ?_)
        simp [Worker.afterTransfer, hr, Moved.ofAnswer]
      next => cases hanswer

end Stream

end AudioStream
