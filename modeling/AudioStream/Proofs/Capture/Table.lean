import AudioStream.Proofs.Worker.Handles

/-!
# The table of a capture stream

The table is written out row by row. A capture stream has no timers, and a burst leads on whatever the
amount it has moved. Its reply may say that there was no room for the captured bytes, and the row is
carried out all the same.
-/

namespace AudioStream

namespace Capture

inductive Row (connected : Bool) : State → Command → Option DriverCall.Kind → State → Prop where
  | start_standby : Row connected .standby .start none .idle
  | start_draining : Row connected .draining .start none .active
  | burst {n state} (h : 0 ≤ n) (from_ : state ∈ [State.idle, .active, .paused]) :
      Row connected state (.burst n) (if connected then some .transfer else none) .active
  | burst_draining {n} (h : 0 ≤ n) :
      Row connected .draining (.burst n) (if connected then some .transfer else none) .standby
  | drain : Row connected .active (.drain .unspecified) (some (.control (.drain .unspecified))) .draining
  | standby : Row connected .idle .standby (some (.control .standby)) .standby
  | pause : Row connected .active .pause (some (.control .pause)) .paused
  | flush : Row connected .paused .flush (some (.control .flush)) .standby

/-- The commands with a value that they cannot have. -/
inductive Malformed (s : Setup) : Command → Prop where
  | exit {cookie} (h : cookie ≠ s.cookie) : Malformed s (.exit cookie)
  | burst {n} (h : n < 0) : Malformed s (.burst n)
  | drain {mode} (h : mode ≠ .unspecified) : Malformed s (.drain mode)

def table (s : Setup) : Table where
  setup := s
  Row connected _ := Row connected
  Malformed := Malformed s
  Fine r := r.status = .ok ∨ r.status = .notEnoughData
  elapse _ m := m

variable {s : Setup} {t : Turn} {w : Worker}

theorem decide_eq (hd : s.direction = .input) (state : State) (command : Command) :
    (table s).setup.decide state command = Decision.capture s state command := by
  simp [Setup.decide, table, hd]

theorem resolve_eq (hd : s.direction = .input) (now : Nat) : w.resolve s now = (w, none) := by
  simp [Worker.resolve, hd]

/-- The state that a burst leads to. -/
def burstTo (state : State) : State := if state = .draining then .standby else .active

theorem row_burst (hd : s.direction = .input) (connected : Bool) {state : State} {n : Int32}
    (nonneg : 0 ≤ n) (accepted : s.moves state = true) :
    Row connected state (.burst n) (if connected then some .transfer else none) (burstTo state) := by
  cases state with
  | idle | active | paused => exact .burst nonneg (by simp)
  | draining => exact .burst_draining nonneg
  | _ => simp [Setup.moves, hd] at accepted

theorem mode_afterBurst (hd : s.direction = .input) (now asked : Nat) (moved : Int32)
    (accepted : s.moves w.state = true) :
    (w.afterBurst s now asked moved).mode = w.mode.enter now (burstTo w.state) := by
  unfold Worker.afterBurst
  rw [hd]
  cases hs : w.state with
  | idle | active | paused | draining =>
    simp [Worker.mode, Mode.enter, burstTo, State.isTransient, hs]
  | _ => simp [Setup.moves, hd, hs] at accepted

/-- A burst answers its row, whether there is room for what it has captured or not. -/
theorem finishBurst_answers (hd : s.direction = .input) {c : Cycle} {n : Int32} {m : Moved} {queued : Bool}
    (nonneg : 0 ≤ n) (accepted : s.moves w.state = true)
    (reply : c.reply = some (w.finishBurst s c.ends ⟨n.toInt.toNat, t.connected⟩ m queued).answer)
    (call : c.call.map DriverCall.kind = if t.connected then some .transfer else none)
    (failure : (∃ e, m.failure = some e) ↔ ∃ made, c.call = some made ∧ t.Fails made)
    (time : c.ends = t.overAt s (.burst n) c.call) :
    (table s).Answers t c w.mode (.burst n)
      (w.finishBurst s c.ends ⟨n.toInt.toNat, t.connected⟩ m queued).worker.mode := by
  refine Table.answers_of_row reply (row_burst hd t.connected nonneg accepted) call failure time ?_ ?_ ?_
  · intro _
    rw [Handled.answer]
    cases queued with
    | true => exact .inl (w.status_finishBurst s c.ends _ m true)
    | false => exact .inr (w.status_finishBurst s c.ends _ m false)
  · intro hm
    cases queued with
    | true =>
      rw [w.worker_finishBurst_of_success s c.ends _ m hm]
      exact mode_afterBurst (w := w.count m.frames) hd _ _ _ accepted
    | false =>
      rw [w.worker_finishBurst_false_of_success s c.ends _ m hm]
      exact mode_afterBurst hd _ _ _ accepted
  · exact fun e hm => w.mode_finishBurst_of_failure s c.ends _ m hm queued

theorem handles_burst (hd : s.direction = .input) {bench : Bench} {n : Int32} (nonneg : 0 ≤ n)
    (accepted : s.moves bench.worker.state = true) : (table s).Handles t bench (.burst n) := by
  have hdecide : (table s).setup.decide bench.worker.state (.burst n) = .burst n.toInt.toNat :=
    s.decide_eq_burst_iff.mpr ⟨n, rfl, nonneg, accepted, rfl⟩
  have hburst : bench.burst s t n.toInt.toNat = bench.capture s t n.toInt.toNat := by
    simp [Bench.burst, hd]
  constructor <;> rw [Bench.handle_of_burst hdecide]
  · simp only [table, hburst, Bench.capture_eq]
    rw [← Bench.mode_transfer s t (s.captureSize n.toInt.toNat bench.data.writable) bench.worker]
    refine finishBurst_answers hd nonneg ?_ rfl ?_ (Bench.failure_transfer_iff _ _ _ _) ?_
    · rwa [Bench.state_transfer]
    · exact Bench.kind_transfer _ _ _ _
    · exact Bench.ends_transfer _ _ _ _ n
  · simp only [table, hburst, Bench.capture_eq]

/-- What the handling of a command shows is what the table says. -/
theorem handles (hd : s.direction = .input) (bench : Bench) {command : Command}
    (hexit : command ≠ .exit s.cookie) : (table s).Handles t bench command := by
  have fine : ∀ r : Reply, r.status = .ok → (table s).Fine r := fun _ => .inl
  obtain ⟨⟨state, since, frameCount, buffer⟩, data⟩ := bench
  have hdecide := decide_eq hd state command
  cases command with
  | exit cookie =>
    have hcookie : cookie ≠ s.cookie := fun h => hexit (h ▸ rfl)
    exact Table.handles_of_reject (by simpa [Decision.capture, hcookie] using hdecide) (.exit hcookie)
  | getStatus => exact Table.handles_getStatus
  | start =>
    cases state with
    | standby => exact Table.handles_of_move hdecide (fun _ _ => .start_standby) fine
    | draining => exact Table.handles_of_move hdecide (fun _ _ => .start_draining) fine
    | _ => exact Table.handles_of_refuse hdecide (by rintro ⟨⟩) (by rintro _ _ _ _ ⟨⟩)
  | burst n =>
    by_cases hn : n < 0
    · exact Table.handles_of_reject (by simpa [Decision.capture, hn] using hdecide) (.burst hn)
    · have hwf : ¬ (table s).Malformed (.burst n) := by
        rintro ⟨⟩
        contradiction
      simp only [Decision.capture, hn, if_false] at hdecide
      cases state with
      | idle | active | paused | draining =>
        exact handles_burst hd (Int32.not_lt.mp hn) (by simp [Setup.moves, hd])
      | _ =>
        refine Table.handles_of_refuse hdecide hwf ?_
        rintro _ _ _ _ ⟨⟩
        simp_all
  | drain mode =>
    cases mode with
    | all | earlyNotify => exact Table.handles_of_reject hdecide (.drain (by simp))
    | unspecified =>
      have hwf : ¬ (table s).Malformed (.drain .unspecified) := by
        rintro ⟨⟩
        contradiction
      cases state with
      | active => exact Table.handles_of_control hdecide (fun _ _ => .drain) fine
      | _ => exact Table.handles_of_refuse hdecide hwf (by rintro _ _ _ _ ⟨⟩)
  | standby =>
    cases state with
    | idle => exact Table.handles_of_control hdecide (fun _ _ => .standby) fine
    | _ => exact Table.handles_of_refuse hdecide (by rintro ⟨⟩) (by rintro _ _ _ _ ⟨⟩)
  | pause =>
    cases state with
    | active => exact Table.handles_of_control hdecide (fun _ _ => .pause) fine
    | _ => exact Table.handles_of_refuse hdecide (by rintro ⟨⟩) (by rintro _ _ _ _ ⟨⟩)
  | flush =>
    cases state with
    | paused => exact Table.handles_of_control hdecide (fun _ _ => .flush) fine
    | _ => exact Table.handles_of_refuse hdecide (by rintro ⟨⟩) (by rintro _ _ _ _ ⟨⟩)

end Capture

end AudioStream
