import AudioStream.Proofs.Stream.Chronicle
import Mathlib.Logic.Relation

/-!
# Notices that have been taken

Nothing that is done to a stream depends on the notices that lie there for the client. So it makes no
difference when the client takes them: with those put back that have been taken, what is on record of a stream
is a schedule.

The main statement is `Chronicle.exists_follow_of_reaches`.
-/

open Relation

namespace AudioStream

namespace Stream

variable (s : Stream) (past : List Notice)

/-- The stream with the notices put back that have been taken. -/
def withPast : Stream := { s with notices := past ++ s.notices }

@[simp] theorem setup_withPast : (s.withPast past).setup = s.setup := rfl

@[simp] theorem transport_withPast : (s.withPast past).transport = s.transport := rfl

@[simp] theorem worker_withPast : (s.withPast past).worker = s.worker := rfl

@[simp] theorem stage_withPast : (s.withPast past).stage = s.stage := rfl

@[simp] theorem connected_withPast : (s.withPast past).connected = s.connected := rfl

@[simp] theorem reports_withPast : (s.withPast past).reports = s.reports := rfl

/-! ## Deeds -/

theorem report_withPast (e : StreamError) : (s.withPast past).report e = (s.report e).withPast past := by
  rw [report, report, reports_withPast]
  by_cases room : s.reports.length < reportCapacity
  · rw [if_pos room, if_pos room]
    rfl
  · rw [if_neg room, if_neg room]

theorem handled_withPast (command : Command) (h : Handled) :
    (s.withPast past).handled command h = (s.handled command h).withPast past := by
  simp only [handled]
  cases h.report with
  | none => rfl
  | some e => exact report_withPast { s with worker := h.worker, stage := .replying command h.answer } past e

theorem beginCycle_withPast (m : Moment) :
    (s.withPast past).beginCycle m = (s.beginCycle m).withPast past := by
  have hnotices (notice : Option Notice) :
      (s.withPast past).notices ++ notice.toList = past ++ (s.notices ++ notice.toList) :=
    List.append_assoc past s.notices notice.toList
  simp only [beginCycle, setup_withPast, worker_withPast, hnotices]
  cases (s.worker.resolve s.setup m.now).2.bind fun n => (m.refusal n).map n.failure with
  | none => rfl
  | some e =>
    exact report_withPast
      { s with
        worker := (s.worker.resolve s.setup m.now).1
        stage := .arming
        notices := s.notices ++ (s.worker.resolve s.setup m.now).2.toList } past e

theorem beginCommand_withPast (m : Moment) (command : Command) :
    (s.withPast past).beginCommand m command = (s.beginCommand m command).withPast past := by
  simp only [beginCommand, setup_withPast, worker_withPast, connected_withPast]
  cases s.worker.react s.setup m.now s.connected command with
  | reply h => exact handled_withPast s past command h
  | _ => rfl

theorem afterMoving_withPast (m : Moment) (command : Command) (burst : Burst) (moved : Worker × Moved) :
    (s.withPast past).afterMoving m command burst moved =
      (s.afterMoving m command burst moved).withPast past := by
  simp only [afterMoving, setup_withPast]
  cases s.setup.direction with
  | input => rfl
  | output => exact handled_withPast s past command _

theorem awaitCommand_withPast (m : Moment) (deadline : Option Nat) :
    (s.withPast past).awaitCommand m deadline = (s.awaitCommand m deadline).map (·.withPast past) := by
  simp only [awaitCommand, transport_withPast]
  cases s.transport.commands.read with
  | done _ | failed _ => rfl
  | waits =>
    cases deadline with
    | none => rfl
    | some time =>
      dsimp only
      split <;> rfl

theorem continueTask_withPast (m : Moment) (command : Command) (task : Task) :
    (s.withPast past).continueTask m command task =
      (s.continueTask m command task).map (·.withPast past) := by
  cases task with
  | looking burst =>
    simp only [continueTask, setup_withPast]
    cases s.setup.direction <;> rfl
  | taking burst count =>
    simp only [continueTask, transport_withPast, setup_withPast, worker_withPast]
    cases s.transport.data.read count with
    | some _ => rfl
    | none => exact congrArg some (handled_withPast s past command _)
  | moving burst size =>
    simp only [continueTask, setup_withPast, worker_withPast]
    cases burst.connected with
    | true => rfl
    | false => exact congrArg some (afterMoving_withPast s past m command burst _)
  | appending burst moved =>
    simp only [continueTask, transport_withPast, setup_withPast, worker_withPast]
    cases s.transport.data.write (s.worker.movedBytes s.setup moved) with
    | some data =>
      exact congrArg some
        (handled_withPast { s with transport := { s.transport with data } } past command _)
    | none => exact congrArg some (handled_withPast s past command _)
  | controlling => rfl

theorem step_withPast (m : Moment) : (s.withPast past).step m = (s.step m).map (·.withPast past) := by
  simp only [step, stage_withPast]
  cases s.stage with
  | fresh => exact congrArg some (s.beginCycle_withPast past m)
  | waiting deadline => exact s.awaitCommand_withPast past m deadline
  | sampling command => exact congrArg some (s.beginCommand_withPast past m command)
  | handling command task => exact s.continueTask_withPast past m command task
  | replying command reply =>
    simp only [writeReply, transport_withPast]
    cases s.transport.replies.write reply <;> rfl
  | reporting reason =>
    exact congrArg some (report_withPast { s with stage := .closingCommands } past (.queueFailure reason))
  | arming | closingCommands | closingReplies | leaving | stopped => rfl

theorem perform_withPast (d : Deed) :
    (s.withPast past).perform d = (s.perform d).map (·.withPast past) := by
  cases d with
  | work m => exact s.step_withPast past m
  | endControl m result =>
    simp only [perform, answerControl, stage_withPast]
    split
    next => exact congrArg some (handled_withPast s past _ _)
    next => rfl
  | endTransfer m answer =>
    simp only [perform, answerTransfer, stage_withPast]
    split
    next command burst size _ =>
      cases burst.connected with
      | true => exact congrArg some (afterMoving_withPast s past m command burst _)
      | false => rfl
    next => rfl
  | writeData bytes =>
    simp only [perform, writeData, transport_withPast]
    cases s.transport.data.write bytes <;> rfl
  | readData count =>
    simp only [perform, readData, transport_withPast]
    cases s.transport.data.read count <;> rfl
  | checkErrors =>
    simp only [perform, checkErrors, reports_withPast]
    cases s.reports <;> rfl
  | post command =>
    simp only [perform, writeCommand, transport_withPast]
    cases s.transport.commands.write command <;> rfl
  | readReply =>
    simp only [perform, readReply, transport_withPast]
    cases s.transport.replies.read <;> rfl
  | close stage =>
    cases stage with
    | arriving =>
      have htaken : (s.withPast past).taken = s.taken := rfl
      simp only [perform, closeStep, htaken]
      cases s.taken <;> rfl
    | dismissing =>
      simp only [perform, closeStep, writeCommand, transport_withPast, setup_withPast]
      cases s.transport.commands.write (.exit s.setup.cookie) <;> rfl
    | joining =>
      simp only [perform, closeStep, stage_withPast]
      cases s.stage <;> rfl
    | _ => rfl
  | setConnected | setDevices | tryReadReply | shutdown => rfl

end Stream

namespace Chronicle

/-- What a chronicle tells of a stream has been a schedule, but for the notices that have been taken. -/
theorem exists_follow_of_reaches {a : Stream} {σ : Chronicle} (h : ReflTransGen Step { stream := a } σ) :
    ∃ deeds past, a.follow deeds = some (σ.stream.withPast past) := by
  induction h with
  | refl => exact ⟨[], [], rfl⟩
  | @tail σ τ _ hstep ih =>
    obtain ⟨deeds, past, hfollow⟩ := ih
    cases hstep with
    | deed d h timely =>
      refine ⟨deeds ++ [d], past, Stream.follow_concat deeds d hfollow ?_⟩
      rw [Stream.perform_withPast, h, stream_note]
      rfl
    | takeNotices count =>
      refine ⟨deeds, past ++ σ.stream.notices.take count, hfollow.trans ?_⟩
      simp only [Stream.withPast, List.append_assoc, List.take_append_drop]

end Chronicle

end AudioStream
