import AudioStream.Proofs.Worker.Burst

/-!
# Commands and the rows of a table

What a cycle shows of a command follows from what the worker decides about it, and the decisions are the
same for all tables. So to compare a worker with a table one has to say which rows the decisions fall on.
-/

namespace AudioStream

namespace Table

variable {T : Table} {t : Turn} {bench : Bench} {command : Command}

/-- The handling of a command shows what the table says, and the worker goes on. -/
structure Handles (T : Table) (t : Turn) (bench : Bench) (command : Command) : Prop where
  answers : T.Answers t (bench.handle T.setup t command).2 bench.worker.mode command
    (bench.handle T.setup t command).1.worker.mode
  stays : (bench.handle T.setup t command).2.stops = false

/-- What was carried out with a call of the driver answers its row. Whether the row is accepted or fails
depends on what became of the call. -/
theorem answers_of_row {c : Cycle} {w : Worker} {h : Handled} {failure : Option DriverError}
    {kind : Option DriverCall.Kind} {next : State} (reply : c.reply = some h.answer)
    (row : T.Row t.connected h.reply.byteCount w.state command kind next)
    (call : c.call.map DriverCall.kind = kind)
    (made : (∃ e, failure = some e) ↔ ∃ made, c.call = some made ∧ t.Fails made)
    (time : c.ends = t.overAt T.setup command c.call) (fine : failure = none → T.Fine h.answer)
    (of_success : failure = none → h.worker.mode = w.mode.enter c.ends next)
    (of_failure : ∀ e, failure = some e → h.worker.mode = ⟨.error, w.since⟩) :
    T.Answers t c w.mode command h.worker.mode := by
  cases hf : failure with
  | none =>
    have hmode := of_success hf
    rw [hmode]
    refine .accept reply row call ?_ time (fine hf) (congrArg Mode.state hmode)
    intro call hcall hfails
    obtain ⟨e, he⟩ := made.mpr ⟨call, hcall, hfails⟩
    cases hf.symm.trans he
  | some e =>
    have hmode := of_failure e hf
    obtain ⟨call', hcall, hfails⟩ := made.mp ⟨e, hf⟩
    rw [hmode]
    exact .fail reply row call hcall hfails (congrArg Mode.state hmode)

theorem handles_of_reject (hd : T.setup.decide bench.worker.state command = .reject)
    (malformed : T.Malformed command) : T.Handles t bench command := by
  constructor <;> rw [Bench.handle_of_reject hd]
  exact .reject malformed rfl rfl rfl rfl

theorem handles_of_refuse (hd : T.setup.decide bench.worker.state command = .refuse)
    (wellFormed : ¬ T.Malformed command)
    (noRow : ∀ connected moved kind next,
      ¬ T.Row connected moved bench.worker.state command kind next) : T.Handles t bench command := by
  have notTold : command ≠ .getStatus := by
    rintro rfl
    cases hdir : T.setup.direction <;>
      simp [Setup.decide, hdir, Decision.capture, Decision.playback] at hd
  have notExit : command ≠ .exit T.setup.cookie := by
    rintro rfl
    rw [T.setup.decide_eq_stop_iff.mpr rfl] at hd
    cases hd
  constructor <;> rw [Bench.handle_of_refuse hd]
  exact .refuse wellFormed notTold notExit noRow rfl rfl rfl rfl

theorem handles_getStatus : T.Handles t bench .getStatus := by
  have hd : T.setup.decide bench.worker.state .getStatus = .tell := by
    cases hdir : T.setup.direction <;>
      simp [Setup.decide, hdir, Decision.capture, Decision.playback]
  constructor <;> rw [Bench.handle_of_tell hd]
  exact .tell rfl rfl rfl rfl

theorem handles_of_move {next : State}
    (hd : T.setup.decide bench.worker.state command = .move next)
    (row : ∀ connected moved, T.Row connected moved bench.worker.state command none next)
    (fine : ∀ r, r.status = .ok → T.Fine r) : T.Handles t bench command := by
  have notBurst : ∀ n, command ≠ .burst n := by
    rintro n rfl
    rw [Setup.decide_burst] at hd
    split at hd
    · cases hd
    · split at hd <;> cases hd
  constructor <;> rw [Bench.handle_of_move hd]
  rw [Worker.mode_enter]
  refine .accept rfl (row _ _) rfl (by simp) ?_ (fine _ rfl) (bench.worker.state_enter t.now next)
  cases command with
  | burst n => exact absurd rfl (notBurst n)
  | _ => rfl

theorem handles_of_control {call : Control} {next : State}
    (hd : T.setup.decide bench.worker.state command = .control call next)
    (row : ∀ connected moved,
      T.Row connected moved bench.worker.state command (some (.control call)) next)
    (fine : ∀ r, r.status = .ok → T.Fine r) : T.Handles t bench command := by
  constructor <;> rw [Bench.handle_of_control hd]
  cases ha : (t.control call).answer with
  | ok done =>
    simp only [Worker.afterControl]
    rw [Worker.mode_enter]
    refine .accept rfl (row _ _) rfl ?_ rfl (fine _ rfl) (bench.worker.state_enter _ next)
    simp [Turn.Fails, ha]
  | error e => exact .fail rfl (row _ _) rfl rfl ⟨e, ha⟩ rfl

end Table

end AudioStream
