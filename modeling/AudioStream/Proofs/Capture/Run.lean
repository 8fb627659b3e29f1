import AudioStream.Proofs.Capture.Intact
import AudioStream.Proofs.Capture.Table

/-!
# Runs of a capture stream

Every run of a capture worker follows the table of its stream, whatever commands, waits, connections and
driver answers it meets, and whatever others do to the data queue. They may even fill it up while the
driver is at work. Then the captured bytes are lost: the reply says that there was not enough, nothing is
counted, and the state moves on as if they had been appended.

The main statement is `Capture.run_follows_rows`.
-/

namespace AudioStream

namespace Bench

variable {s : Setup} {t : Turn} {bench : Bench}

/-- The bytes that a capture burst has to append to the data queue. -/
def captured (s : Setup) (t : Turn) (asked : Nat) (bench : Bench) : List UInt8 :=
  let r := transfer s t (s.captureSize asked bench.data.writable) bench.worker
  r.worker.movedBytes s r.moved

/-- The data queue as the others have left it when a burst gets to appending. -/
def meanwhile (s : Setup) (t : Turn) (bench : Bench) : DataQueue :=
  ((bench.ready s t).data.serve t.during).1

/-- The burst of a turn has captured bytes for which the others have left no room. -/
def Overflows (s : Setup) (t : Turn) (bench : Bench) : Prop :=
  ∃ asked, bench.accepted s t = some asked ∧
    (bench.meanwhile s t).writable < ((bench.ready s t).captured s t asked).length

/-- What becomes of a burst whose bytes find no room: it has moved nothing, and leads on all the same. -/
structure Loses (s : Setup) (t : Turn) (bench : Bench) (r : Reply) : Prop where
  byteCount : r.byteCount = 0
  state : r.state = Capture.burstTo bench.worker.state
  data : (bench.cycle s t).1.data = bench.meanwhile s t
  frameCount : (bench.cycle s t).1.worker.frameCount = bench.worker.frameCount

/-- A transfer that failed has captured nothing. -/
theorem captured_of_failure {asked : Nat} {e : DriverError}
    (h : (transfer s t (s.captureSize asked bench.data.writable) bench.worker).moved.failure = some e) :
    bench.captured s t asked = [] := by
  simp only [captured, Worker.movedBytes]
  rw [frames_transfer_of_failure s t _ _ h, Nat.zero_mul, List.take_zero]

end Bench

namespace Capture

variable {s : Setup} {t : Turn} {bench : Bench} {r : Reply}

theorem worker_ready (hd : s.direction = .input) : (bench.ready s t).worker = bench.worker := by
  rw [Bench.ready_worker, resolve_eq hd]

/-- Only a burst that is carried out is answered with not enough data. -/
theorem accepted_of_notEnoughData (hr : (bench.cycle s t).2.reply = some r)
    (hstatus : r.status = .notEnoughData) : ∃ asked, bench.accepted s t = some asked := by
  cases heard : t.heard with
  | none =>
    rw [Bench.cycle_of_unheard s bench heard] at hr
    cases hr
  | some command =>
    rw [Bench.cycle_of_heard s bench heard] at hr
    cases hd : s.decide (bench.ready s t).worker.state command with
    | burst asked => exact ⟨asked, Bench.accepted_eq_some_iff.mpr ⟨command, heard, hd⟩⟩
    | stop =>
      rw [Bench.handle_of_stop hd] at hr
      cases hr
    | reject =>
      rw [Bench.handle_of_reject hd] at hr
      cases hr
      cases hstatus
    | refuse =>
      rw [Bench.handle_of_refuse hd] at hr
      cases hr
      cases hstatus
    | tell =>
      rw [Bench.handle_of_tell hd] at hr
      cases hr
      cases hstatus
    | move next =>
      rw [Bench.handle_of_move hd] at hr
      cases hr
      cases hstatus
    | control call next =>
      rw [Bench.handle_of_control hd] at hr
      cases hr
      cases ha : (t.control call).answer <;> rw [ha] at hstatus <;> cases hstatus

section Burst

variable {asked : Nat}

theorem overflows_iff (ha : bench.accepted s t = some asked) : bench.Overflows s t ↔
    (bench.meanwhile s t).write ((bench.ready s t).captured s t asked) = none := by
  rw [← Option.not_isSome_iff_eq_none, DataQueue.write_isSome_iff, Nat.not_le]
  constructor
  · rintro ⟨asked', ha', hlt⟩
    cases ha.symm.trans ha'
    exact hlt
  · exact fun hlt => ⟨asked, ha, hlt⟩

/-- A burst that is carried out takes what it has captured to the data queue, and ends as that allows. -/
theorem cycle_of_accepted (hd : s.direction = .input) (ha : bench.accepted s t = some asked) :
    let moving := Bench.transfer s t (s.captureSize asked (bench.ready s t).data.writable) bench.worker
    let written := (bench.meanwhile s t).write ((bench.ready s t).captured s t asked)
    let done := moving.worker.finishBurst s moving.ends ⟨asked, t.connected⟩ moving.moved written.isSome
    (bench.cycle s t).1 = ⟨done.worker, written.getD (bench.meanwhile s t)⟩ ∧
      (bench.cycle s t).2.reply = some done.answer := by
  have hburst : (bench.ready s t).burst s t asked = (bench.ready s t).capture s t asked := by
    simp [Bench.burst, hd]
  have hcycle := Bench.cycle_of_accepted ha
  rw [hburst, Bench.capture_eq, worker_ready hd] at hcycle
  simp only [hcycle, Bench.captured, worker_ready hd]
  exact ⟨rfl, rfl⟩

/-- A burst that is carried out is answered with success if and only if there is room for its bytes. -/
theorem status_iff_overflows (hd : s.direction = .input) (ha : bench.accepted s t = some asked)
    (hr : (bench.cycle s t).2.reply = some r) : r.status = .notEnoughData ↔ bench.Overflows s t := by
  obtain ⟨-, hreply⟩ := cycle_of_accepted hd ha
  rw [hr, Option.some.injEq] at hreply
  rw [hreply, overflows_iff ha]
  simp only [Handled.answer, Worker.status_finishBurst]
  cases (bench.meanwhile s t).write ((bench.ready s t).captured s t asked) <;> simp

theorem loses_of_overflows (hd : s.direction = .input) (ha : bench.accepted s t = some asked)
    (hr : (bench.cycle s t).2.reply = some r) (ho : bench.Overflows s t) : bench.Loses s t r := by
  obtain ⟨hafter, hreply⟩ := cycle_of_accepted hd ha
  simp only [(overflows_iff ha).mp ho, Option.isSome_none, Option.getD_none, hr,
    Option.some.injEq] at hafter hreply
  generalize hmoving : Bench.transfer s t (s.captureSize asked (bench.ready s t).data.writable)
    bench.worker = moving at hafter hreply
  have hstate : moving.worker.state = bench.worker.state := by rw [← hmoving, Bench.state_transfer]
  have haccepted : s.moves bench.worker.state = true := by
    obtain ⟨command, -, hdecide⟩ := Bench.accepted_eq_some_iff.mp ha
    obtain ⟨n, -, -, hmoves, -⟩ := s.decide_eq_burst_iff.mp hdecide
    rwa [worker_ready hd] at hmoves
  -- Something was captured, so the transfer did not fail.
  have hsucceeds : moving.moved.failure = none := by
    obtain ⟨asked', ha', hlt⟩ := ho
    cases ha.symm.trans ha'
    cases hf : moving.moved.failure with
    | none => rfl
    | some e =>
      rw [← hmoving, ← worker_ready (t := t) hd] at hf
      rw [Bench.captured_of_failure hf] at hlt
      exact absurd hlt (Nat.not_lt_zero _)
  have hworker := moving.worker.worker_finishBurst_false_of_success s moving.ends
    ⟨asked, t.connected⟩ moving.moved hsucceeds
  constructor
  · rw [hreply, Handled.answer, Worker.reply_finishBurst_false]
  · have hnext : (moving.worker.afterBurst s moving.ends asked 0).mode =
        moving.worker.mode.enter moving.ends (burstTo moving.worker.state) :=
      mode_afterBurst hd _ _ _ (hstate ▸ haccepted)
    rw [hreply, Handled.answer, hworker, ← hstate]
    exact congrArg Mode.state hnext
  · rw [hafter]
  · rw [hafter, hworker, ← hmoving]
    exact (Worker.frameCount_afterBurst _ _ _ _ _).trans (Bench.frameCount_transfer _ _ _ _)

end Burst

/-- Every run of a capture worker follows the table of its stream, from standby on. A burst that is
carried out is answered with success unless others have taken the room for the bytes that it has
captured. -/
theorem run_follows_rows (s : Setup) (data : DataQueue) (turns : List Turn) (hd : s.direction = .input) :
    (table s).Follows {} turns ((Bench.initial s data).run s turns).2 ∧
    ∀ step ∈ (Bench.initial s data).steps s turns, ∀ r, (step.1.cycle s step.2).2.reply = some r →
      (r.status = .notEnoughData ↔ step.1.Overflows s step.2) ∧
      (step.1.Overflows s step.2 → step.1.Loses s step.2 r) := by
  refine ⟨?_, ?_⟩
  · refine Table.run_follows (T := table s) (fun _ => True) (fun _ => True) ?_ ?_ turns (fun _ _ => trivial)
      (Bench.initial s data) trivial
    · exact fun w now _ => ⟨by rw [resolve_eq (s := (table s).setup) hd]; rfl, trivial⟩
    · intro t command bench _ _ hexit
      have hhandles := handles (t := t) hd bench hexit
      exact ⟨hhandles.answers, trivial, hhandles.stays⟩
  · intro step hstep r hr
    cases ha : step.1.accepted s step.2 with
    | some asked => exact ⟨status_iff_overflows hd ha hr, loses_of_overflows hd ha hr⟩
    | none =>
      have hfits : ¬ step.1.Overflows s step.2 := by
        rintro ⟨asked, ha', -⟩
        cases ha.symm.trans ha'
      refine ⟨⟨fun hstatus => ?_, fun h => absurd h hfits⟩, fun h => absurd h hfits⟩
      obtain ⟨asked, ha'⟩ := accepted_of_notEnoughData hr hstatus
      cases ha.symm.trans ha'

/-- A setup with a data queue of two frames. -/
def crowdedSetup : Setup where
  direction := .input
  frameSize := 4
  bufferSize := 8
  notifies := false
  delay := 0
  shortBursts := false
  synchronousDrain := false
  cookie := 7

/-- A run in which somebody else writes to the data queue while the driver is at work. -/
def crowdedRun : List Turn :=
  [Bench.fillingTurn .start 0 (.ok 0) true [],
    Bench.fillingTurn (.burst 8) 1 (.ok 2) true [.write [9, 9, 9, 9, 9, 9]],
    Bench.fillingTurn (.burst 8) 2 (.ok 2) true [.read 6],
    Bench.fillingTurn (.drain .all) 0 (.ok 0) true [],
    Bench.fillingTurn (.drain .unspecified) 0 (.ok 0) true [],
    Bench.fillingTurn (.burst 8) 3 (.ok 2) true [.write [9]],
    Bench.fillingTurn .pause 0 (.ok 0) true [], Bench.fillingTurn .start 0 (.ok 0) true [],
    Bench.fillingTurn (.burst 8) 4 (.error (.callFailed "transfer" (-5))) true [],
    Bench.fillingTurn .getStatus 0 (.ok 0) true []]

theorem run_follows_rows_crowdedRun : crowdedSetup.direction = .input ∧
    (((Bench.initial crowdedSetup ⟨8, [], by decide, by decide⟩).run crowdedSetup crowdedRun).2.map
        fun c => c.reply.map fun r => (r.status, r.state)) =
      [some (.ok, .idle), some (.notEnoughData, .active), some (.ok, .active), some (.badValue, .active),
        some (.ok, .draining), some (.notEnoughData, .standby), some (.invalidOperation, .standby),
        some (.ok, .idle), some (.ok, .error), some (.ok, .error)] ∧
    (table crowdedSetup).Follows {} crowdedRun
      ((Bench.initial crowdedSetup ⟨8, [], by decide, by decide⟩).run crowdedSetup crowdedRun).2 :=
  ⟨rfl, by decide +kernel, (run_follows_rows crowdedSetup _ crowdedRun rfl).1⟩

end Capture

end AudioStream
