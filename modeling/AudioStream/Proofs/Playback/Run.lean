import AudioStream.Proofs.Playback.Table
import AudioStream.Proofs.Worker.Handles

/-!
# Runs of a playback stream

Every run of a playback worker follows the table of its stream, whatever commands, waits, clock
readings, connections and driver answers it meets, as long as the client does not read from the data
queue. A client that only writes cannot take away the bytes that a burst has seen, so each accepted
burst ends as its row says.

The main statement is `Playback.run_follows_table`.
-/

namespace AudioStream

namespace Playback

variable {s : Setup} {t : Turn} {w : Worker}

/-- The timer of the worker is that of the table. -/
theorem resolve_elapse (hd : s.direction = .output) (now : Nat) (hk : Known s w.state) :
    (w.resolve s now).1.mode = elapse s now w.mode ∧ Known s (w.resolve s now).1.state := by
  by_cases hr : w.state.isTransient = true ∧ s.delay ≤ now - w.since
  · obtain ⟨htransient, hdelay⟩ := hr
    cases hn : s.notifies with
    | true =>
      cases hs : w.state <;> simp_all [Worker.resolve, Worker.mode, elapse, State.isTransient, Known]
    | false =>
      -- Only a drain can be under way, so the one branch of the timer is the right one.
      have hs : w.state = .draining := by
        have := hk hn
        cases hs : w.state <;> simp_all [State.isTransient]
      simp [Worker.resolve, Worker.mode, elapse, hd, hn, hs, hdelay, Known, State.isTransient]
  · have hw : w.resolve s now = (w, none) := by
      simp only [Worker.resolve, hd, true_and]
      rw [if_neg (by simpa using hr)]
    refine ⟨?_, by rwa [hw]⟩
    rw [hw]
    cases hs : w.state <;> simp_all [Worker.mode, elapse, State.isTransient]

/-- The state after a burst is the one of its row. -/
theorem afterBurst_row (hd : s.direction = .output) (connected : Bool) (now : Nat) {n : Int32}
    (nonneg : 0 ≤ n) (moved : Int32)
    (accepted : w.state ≠ .error ∧ w.state ≠ .transferring ∧ w.state ≠ .transferPaused) :
    ∃ next, Row s connected moved w.state (.burst n) (transferIf connected) next ∧
      w.afterBurst s now n.toInt.toNat moved = w.enter now next := by
  have hwhole : (moved.toInt == ((n.toInt.toNat : Nat) : Int)) = decide (moved = n) := by
    have h0 : (0 : Int) ≤ n.toInt := by simpa [Int32.le_iff_toInt_le] using nonneg
    rw [Int.toNat_of_nonneg h0, Bool.eq_iff_iff, beq_iff_eq, decide_eq_true_eq, Int32.toInt_inj]
  unfold Worker.afterBurst
  rw [hd]
  cases hs : w.state with
  | error | transferring | transferPaused => simp_all
  | standby => exact ⟨_, .burst_standby nonneg, by simp [Worker.enter, State.isTransient]⟩
  | paused => exact ⟨_, .burst_paused nonneg, by simp [Worker.enter, State.isTransient]⟩
  | drainPaused =>
    refine ⟨_, .burst_drainPaused nonneg, ?_⟩
    cases s.notifies <;> simp [Worker.enter, State.isTransient]
  | idle | draining | active =>
    by_cases h : s.notifies = false ∨ moved = n
    · refine ⟨_, .burst_whole nonneg (by simp) h, ?_⟩
      simp only [hwhole]
      rcases h with h | h <;> simp [h, Worker.enter, State.isTransient]
    · obtain ⟨hn, hm⟩ : s.notifies = true ∧ moved ≠ n := by simpa using h
      refine ⟨_, .burst_partial nonneg (by simp) hn hm, ?_⟩
      simp only [hwhole]
      simp [hn, hm]

/-- A burst that got its bytes is answered by the row of the burst. -/
theorem finishBurst_answers (hd : s.direction = .output) {c : Cycle} {n : Int32} {m : Moved}
    (nonneg : 0 ≤ n)
    (accepted : w.state ≠ .error ∧ w.state ≠ .transferring ∧ w.state ≠ .transferPaused)
    (reply : c.reply = some (w.finishBurst s c.ends ⟨n.toInt.toNat, t.connected⟩ m true).answer)
    (call : c.call.map DriverCall.kind = transferIf t.connected)
    (failure : (∃ e, m.failure = some e) ↔ ∃ made, c.call = some made ∧ t.Fails made)
    (time : c.ends = t.overAt s (.burst n) c.call) :
    (table s).Answers t c w.mode (.burst n)
      (w.finishBurst s c.ends ⟨n.toInt.toNat, t.connected⟩ m true).worker.mode := by
  obtain ⟨next, row, hnext⟩ := afterBurst_row (w := w.count m.frames) hd t.connected c.ends nonneg
    (Worker.reportedBytes (m.frames * s.frameSize)) accepted
  have hr := Worker.reply_finishBurst s c.ends ⟨n.toInt.toNat, t.connected⟩ m w
  have hrow : (table s).Row t.connected (w.finishBurst s c.ends ⟨n.toInt.toNat, t.connected⟩ m
      true).reply.byteCount w.state (.burst n) (transferIf t.connected) next := by
    rwa [hr]
  refine Table.answers_of_row reply hrow call failure time ?_ ?_ ?_
  · intro _
    simp only [Handled.answer, hr]
    rfl
  · intro hm
    rw [w.worker_finishBurst_of_success s c.ends _ m hm, hnext, Worker.mode_enter]
    rfl
  · exact fun e hm => w.mode_finishBurst_of_failure s c.ends _ m hm true

/-- A client that only writes leaves the bytes of a burst in the queue, so the burst gets them. -/
theorem playback_of_onlyWrites (hw : t.OnlyWrites) (n : Nat) (bench : Bench) :
    ∃ data taken served,
      let r := Bench.transfer s t (s.playbackSize n (s.playbackTake bench.data.readable))
        (bench.worker.fill taken)
      bench.playback s t n =
        (data, r.worker.finishBurst s r.ends ⟨n, t.connected⟩ r.moved true,
          { ends := r.ends, call := r.call, served }) := by
  have hq : s.playbackTake bench.data.readable ≤ (bench.data.serve t.during).1.readable :=
    Nat.le_trans (Nat.min_le_left _ _)
      (bench.data.readable_le_serve fun a ha => hw a (List.mem_append_right _ ha))
  obtain ⟨⟨taken, data⟩, hread⟩ := Option.isSome_iff_exists.mp (DataQueue.read_isSome_iff.mpr hq)
  exact ⟨data, taken, (bench.data.serve t.during).2, by simp only [Bench.playback, hread]⟩

/-- What the handling of a command shows is what the table says. -/
theorem handles (hd : s.direction = .output) (hw : t.OnlyWrites) (command : Command) (bench : Bench)
    (hexit : command ≠ .exit s.cookie) : (table s).Handles t bench command := by
  have hv := verdict s bench.worker.state command
  have hdecide : (table s).setup.decide bench.worker.state command =
      Decision.playback s bench.worker.state command := by
    simp [Setup.decide, table, hd]
  have fine : ∀ r : Reply, r.status = .ok → (table s).Fine r := fun _ h => h
  rw [← hdecide] at hv
  generalize hdec : (table s).setup.decide bench.worker.state command = decision at hv
  cases hv with
  | stop h => exact absurd h hexit
  | reject malformed => exact Table.handles_of_reject hdec malformed
  | refuse wellFormed notTold noRow => exact Table.handles_of_refuse hdec wellFormed noRow
  | tell h =>
    subst h
    exact Table.handles_getStatus
  | @move next notBurst row => exact Table.handles_of_move hdec row fine
  | @control call next row => exact Table.handles_of_control hdec row fine
  | @burst n h nonneg accepted =>
    subst h
    obtain ⟨data, taken, served, hp⟩ := playback_of_onlyWrites (s := s) hw n.toInt.toNat bench
    have hb : bench.burst s t n.toInt.toNat = bench.playback s t n.toInt.toNat := by
      simp [Bench.burst, hd]
    constructor <;> rw [Bench.handle_of_burst hdec]
    · simp only [table, hb, hp]
      have hmode := Bench.mode_transfer s t
        (s.playbackSize n.toInt.toNat (s.playbackTake bench.data.readable)) (bench.worker.fill taken)
      rw [Worker.mode_fill] at hmode
      rw [← hmode]
      refine finishBurst_answers hd nonneg ?_ rfl ?_ (Bench.failure_transfer_iff _ _ _ _) ?_
      · rwa [Bench.state_transfer]
      · exact Bench.kind_transfer _ _ _ _
      · exact Bench.ends_transfer _ _ _ _ n
    · simp only [table, hb, hp]

/-- No answer leads out of the known states. -/
theorem known_of_answers {c : Cycle} {m n : Mode} {command : Command}
    (h : (table s).Answers t c m command n) (hk : Known s m.state) : Known s n.state := by
  cases h with
  | reject | tell | refuse => exact hk
  | accept _ row => exact Row.known row hk
  | fail => exact fun _ => ⟨by simp, by simp⟩

/-- Every run of a playback worker follows the table of its stream, from standby on. -/
theorem run_follows_table (s : Setup) (data : DataQueue) (turns : List Turn)
    (hd : s.direction = .output) (hw : ∀ t ∈ turns, t.OnlyWrites) :
    (table s).Follows {} turns ((Bench.initial s data).run s turns).2 := by
  refine Table.run_follows (T := table s) (Known s) Turn.OnlyWrites ?_ ?_ turns hw
    (Bench.initial s data) fun _ => ⟨by simp [Bench.initial, Worker.initial],
      by simp [Bench.initial, Worker.initial]⟩
  · exact fun w now hk => resolve_elapse hd now hk
  · intro t command bench ht hk hexit
    have hhandles := handles hd ht command bench hexit
    exact ⟨hhandles.answers, known_of_answers hhandles.answers hk, hhandles.stays⟩

/-- A setup whose bursts fall one frame short and whose transient states last for five units. -/
def shortSetup : Setup where
  direction := .output
  frameSize := 4
  bufferSize := 8
  notifies := true
  delay := 5
  shortBursts := true
  synchronousDrain := false
  cookie := 7

/-- A turn at one moment, with a driver that takes two units for a call. -/
def turnAt (time : Nat) (heard : Option Command) (fails : Bool) : Turn where
  begins := time
  now := time
  heard := heard
  connected := true
  before := [.write [1, 2, 3, 4, 5, 6, 7, 8]]
  control call := ⟨if fails then .error (.callFailed call.name (-5)) else .ok (), 2⟩
  transfer buffer frames := ⟨⟨buffer, .ok ⟨frames, 10⟩⟩, 2⟩

theorem onlyWrites_turnAt (time : Nat) (heard : Option Command) (fails : Bool) :
    (turnAt time heard fails).OnlyWrites := by
  intro access h
  exact ⟨[1, 2, 3, 4, 5, 6, 7, 8], by simpa [turnAt] using h⟩

/-- A run through short bursts, both timers, pauses, a refusal and a failure of the driver. -/
def shortRun : List Turn :=
  ([(0, some .start, false), (1, some (.burst 8), false), (7, none, false),
    (8, some .getStatus, false), (9, some (.drain .all), false), (10, some .pause, false),
    (30, some .start, false), (34, some .flush, false), (35, some .getStatus, false),
    (36, some (.burst 8), false), (37, some .pause, true), (60, some .start, false),
    (61, some (.exit 7), false)] : List (Nat × Option Command × Bool)).map
      fun (time, heard, fails) => turnAt time heard fails

theorem run_follows_table_shortRun : shortSetup.direction = .output ∧
    (∀ t ∈ shortRun, t.OnlyWrites) ∧
    (((Bench.initial shortSetup ⟨8, [], by decide, by decide⟩).run shortSetup shortRun).2.map
        fun c => c.reply.map Reply.state) =
      [some .idle, some .transferring, none, some .active, some .draining, some .drainPaused,
        some .draining, some .draining, some .idle, some .transferring, some .error, some .error,
        none] ∧
    (table shortSetup).Follows {} shortRun
      ((Bench.initial shortSetup ⟨8, [], by decide, by decide⟩).run shortSetup shortRun).2 := by
  have hw : ∀ t ∈ shortRun, t.OnlyWrites := by
    intro t ht
    obtain ⟨⟨time, heard, fails⟩, -, rfl⟩ := List.mem_map.mp ht
    exact onlyWrites_turnAt time heard fails
  exact ⟨rfl, hw, by decide +kernel, run_follows_table shortSetup _ shortRun rfl hw⟩

end Playback

end AudioStream
