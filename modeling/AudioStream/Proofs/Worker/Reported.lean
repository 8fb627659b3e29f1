import AudioStream.Proofs.Worker.Roles

/-!
# What the reply to a burst says of the data queue

The reply to a capture burst tells of exactly the bytes that were appended to the data queue. A playback
burst takes all that is queued, but its reply tells only of the frames that were played. Bytes beyond what
was asked for, bytes that make no whole frame, a frame held back on purpose and frames that the driver did
not play are gone without a word.

The main statement is `Bench.byteCount_burst_exact`.
-/

namespace AudioStream

/-- The driver moves all the frames that it is asked to, or is not asked. -/
def Turn.MovesAll (t : Turn) (buffer : List UInt8) (frames : Nat) : Prop :=
  t.connected = true → ∃ r, (t.transfer buffer frames).answer.result = .ok r ∧ frames ≤ r.frames

namespace Setup

variable (s : Setup) {asked taken : Nat}

/-- Whole frames make up all that was taken only if all of it was asked for and none is held back. -/
theorem of_le_frames_playbackSize (hframe : 0 < s.frameSize) (hpos : 0 < taken)
    (h : taken ≤ s.frames (s.playbackSize asked taken) * s.frameSize) :
    taken ≤ asked ∧ s.shortBursts = false := by
  have hle := s.frames_mul_le (s.playbackSize asked taken)
  have hsize := s.playbackSize_le asked taken
  refine ⟨by omega, ?_⟩
  cases hshort : s.shortBursts with
  | false => rfl
  | true =>
    -- Either a frame is held back, or what there is makes no frame.
    by_cases hfits : s.frameSize ≤ min (min asked taken) s.bufferSize
    · have hheld : s.playbackSize asked taken =
          min (min asked taken) s.bufferSize - s.frameSize := by
        simp only [playbackSize, hshort, Bool.true_and, decide_eq_true_eq, if_pos hfits]
      omega
    · have hwhole : s.playbackSize asked taken = min (min asked taken) s.bufferSize := by
        simp only [playbackSize, hshort, Bool.true_and, decide_eq_true_eq, if_neg hfits]
      rw [hwhole, frames, Nat.div_eq_of_lt (Nat.not_le.mp hfits)] at h
      omega

end Setup

namespace Bench

variable {s : Setup} {t : Turn}

theorem frames_transfer_of_movesAll {size : Nat} {w : Worker}
    (h : t.MovesAll (w.buffer.take size) (s.frames size)) :
    (transfer s t size w).moved.frames = s.frames size := by
  cases hc : t.connected with
  | false => simp [transfer, hc, Worker.moved_withoutDevice, Moved.withoutDevice]
  | true =>
    obtain ⟨r, hr, hle⟩ := h hc
    simp [transfer, hc, Worker.afterTransfer, Moved.ofAnswer, hr, Nat.min_eq_right hle]

theorem movesAll_of_frames_transfer {size : Nat} {w : Worker} (hpos : 0 < s.frames size)
    (h : s.frames size ≤ (transfer s t size w).moved.frames) :
    t.MovesAll (w.buffer.take size) (s.frames size) := by
  intro hc
  simp only [transfer, hc, if_true, Worker.afterTransfer, Moved.ofAnswer] at h
  cases hr : (t.transfer (w.buffer.take size) (s.frames size)).answer.result with
  | ok r =>
    simp only [hr] at h
    exact ⟨r, rfl, by omega⟩
  | error e =>
    simp only [hr] at h
    omega

/-- A transfer of what a playback burst took moves all of it only if it was asked for, makes whole frames,
none of which is held back, and the driver plays them all. -/
theorem frames_transfer_eq_taken_iff {taken : Nat} (asked : Nat) (w : Worker) (hframe : 0 < s.frameSize)
    (htaken : taken ≤ s.bufferSize) :
    (transfer s t (s.playbackSize asked taken) w).moved.frames * s.frameSize = taken ↔
      taken = 0 ∨ (taken ≤ asked ∧ s.shortBursts = false ∧ s.frameSize ∣ taken ∧
        t.MovesAll (w.buffer.take taken) (taken / s.frameSize)) := by
  have hmoved := Nat.mul_le_mul_right s.frameSize
    (frames_transfer_le s t (s.playbackSize asked taken) w)
  have hframes := s.frames_mul_le (s.playbackSize asked taken)
  have hsize := s.playbackSize_le_taken asked taken
  constructor
  · intro hall
    rcases Nat.eq_zero_or_pos taken with h0 | hpos
    · exact .inl h0
    · have hfills : taken ≤ s.frames (s.playbackSize asked taken) * s.frameSize := by omega
      obtain ⟨hasked, hshort⟩ := s.of_le_frames_playbackSize hframe hpos hfills
      rw [s.playbackSize_eq hasked htaken hshort] at hall
      have hrequested : s.frames taken = (transfer s t taken w).moved.frames :=
        Nat.div_eq_of_eq_mul_left hframe hall.symm
      have hsome : 0 < s.frames taken := by
        rw [hrequested]
        exact Nat.pos_of_mul_pos_right (hall.symm ▸ hpos)
      exact .inr ⟨hasked, hshort, ⟨_, hall.symm.trans (Nat.mul_comm _ _)⟩,
        movesAll_of_frames_transfer hsome (Nat.le_of_eq hrequested)⟩
  · rintro (h0 | ⟨hasked, hshort, hdvd, hmoves⟩)
    · omega
    · rw [s.playbackSize_eq hasked htaken hshort, frames_transfer_of_movesAll hmoves]
      exact Nat.div_mul_cancel hdvd

/-! ## One burst -/

theorem toInt_byteCount_finishBurst {m : Moved} (hsize : s.bufferSize ≤ Transport.maximumBytes)
    (hle : m.frames * s.frameSize ≤ s.bufferSize) (now : Nat) (b : Burst) (w : Worker) :
    (w.finishBurst s now b m true).answer.byteCount.toInt = (m.frames * s.frameSize : Nat) := by
  simp only [Handled.answer, Worker.reply_finishBurst]
  exact Worker.toInt_reportedBytes (Nat.le_trans hle hsize)

section Burst

variable {bench : Bench} (fits : bench.Fits s) (hsize : s.bufferSize ≤ Transport.maximumBytes)
  (alone : t.during = []) (bytes : Nat)

include fits hsize alone

/-- The reply to a capture burst tells of the bytes that were appended. -/
theorem byteCount_capture_eq : ∃ added,
    (bench.capture s t bytes).1.contents = bench.data.contents ++ added ∧
    (bench.capture s t bytes).2.1.answer.byteCount.toInt = added.length := by
  obtain ⟨data, hdata, hcapture⟩ := capture_of_reads s (t := t) bench
    (by simp [alone]) bytes
  let r := transfer s t (s.captureSize bytes bench.data.writable) bench.worker
  have hle : r.moved.frames * s.frameSize ≤ s.bufferSize :=
    Nat.le_trans (frames_transfer_mul_le s t bench.worker (s.captureSize_le bytes _))
      (Nat.min_le_right _ _)
  have hlength : (r.worker.movedBytes s r.moved).length = r.moved.frames * s.frameSize := by
    rw [Worker.movedBytes, List.length_take, length_buffer_transfer, fits.buffer]
    exact Nat.min_eq_left hle
  refine ⟨r.worker.movedBytes s r.moved, ?_, ?_⟩
  · rw [hcapture]
    simpa [alone, DataQueue.serve] using hdata
  · rw [hcapture, hlength]
    exact toInt_byteCount_finishBurst hsize hle _ _ _

/-- A playback burst takes all that is queued. Its reply tells of all of it only if it was asked for, makes
whole frames, none of which is held back, and is all played. -/
theorem byteCount_playback_eq (hframe : 0 < s.frameSize) :
    (bench.playback s t bytes).1.contents = [] ∧
    (bench.playback s t bytes).2.1.answer.byteCount.toInt ≤ bench.data.readable ∧
    ((bench.playback s t bytes).2.1.answer.byteCount.toInt = bench.data.readable ↔
      bench.data.readable = 0 ∨
        (bench.data.readable ≤ bytes ∧ s.shortBursts = false ∧ s.frameSize ∣ bench.data.readable ∧
          t.MovesAll bench.data.contents (bench.data.readable / s.frameSize))) := by
  obtain ⟨data, hdata, hplayback⟩ := playback_of_writes s (t := t) bench
    (by simp [alone]) (Nat.le_of_eq fits.capacity) bytes
  have htaken : bench.data.readable ≤ s.bufferSize := fits.capacity ▸ bench.data.length_le
  have hle : (transfer s t (s.playbackSize bytes bench.data.readable)
      (bench.worker.fill bench.data.contents)).moved.frames * s.frameSize ≤ bench.data.readable :=
    Nat.le_trans (frames_transfer_mul_le_size s t _ _) (s.playbackSize_le_taken _ _)
  have hall := frames_transfer_eq_taken_iff (t := t) bytes
    (bench.worker.fill bench.data.contents) hframe htaken
  rw [take_fill_contents fits (Nat.le_refl _)] at hall
  rw [hplayback]
  dsimp only
  rw [toInt_byteCount_finishBurst hsize (Nat.le_trans hle htaken)]
  refine ⟨?_, Int.ofNat_le.mpr hle, ?_⟩
  · simpa [alone, DataQueue.admitted] using hdata
  · rw [Int.ofNat_inj, hall]
    simp [DataQueue.readable]

end Burst

/-! ## Bursts in a run -/

/-- What the reply to a burst that succeeds says of the data queue, for every burst of every run, if the
client keeps away from the queue meanwhile. In capture it tells of all that was appended. In playback
nothing is left in the queue, and the reply tells of all that was in it only if there was nothing, or the
burst asked for all of it, holds no frame back, and the driver played all of it in whole frames. -/
theorem byteCount_burst_exact {config : StreamConfig} {debug : DebugParameters} {notifies : Bool}
    {t : Transport} (ht : Transport.configure config debug notifies = .ok t) (direction : Direction)
    (cookie : Int32) (turns : List Turn) (turn : Turn) (n : Int32) (r : Reply) :
    let s := Setup.ofTransport t direction cookie
    let bench := ((Bench.initial s t.data).run s turns).1
    let before := (bench.ready s turn).data
    let after := (bench.cycle s turn).1.data
    turn.during = [] → turn.heard = some (.burst n) → (bench.cycle s turn).2.reply = some r →
    r.status = .ok →
      (direction = .input → ∃ added, after.contents = before.contents ++ added ∧
        r.byteCount.toInt = added.length) ∧
      (direction = .output → after.contents = [] ∧ r.byteCount.toInt ≤ before.readable ∧
        (r.byteCount.toInt = before.readable ↔ before.readable = 0 ∨
          (before.readable ≤ n.toInt.toNat ∧ t.debug.shortBursts = false ∧
            t.frameSize ∣ before.readable ∧
            turn.MovesAll before.contents (before.readable / t.frameSize)))) := by
  intro s bench before after alone heard hr hok
  have hfresh := Transport.isFresh_of_configure ht
  have fits : (bench.ready s turn).Fits s := ((fits_initial t direction cookie).run turns).ready turn
  have hsize : s.bufferSize ≤ Transport.maximumBytes :=
    Nat.le_trans (Nat.le_of_eq (fits_initial t direction cookie).capacity.symm) hfresh.capacity_le
  have hcycle := cycle_of_accepted (accepted_of_ok heard hr hok)
  have hreply : r = ((bench.ready s turn).burst s turn n.toInt.toNat).2.1.answer := by
    rw [hcycle] at hr
    exact (Option.some.inj hr).symm
  have hafter : after = ((bench.ready s turn).burst s turn n.toInt.toNat).1 :=
    congrArg (fun x => x.1.data) hcycle
  rw [hreply, hafter]
  refine ⟨?_, ?_⟩
  · rintro rfl
    exact byteCount_capture_eq fits hsize alone _
  · rintro rfl
    exact byteCount_playback_eq fits hsize alone _ hfresh.frameSize_pos

/-- A turn with a device whose driver does all that it is asked to, at no time. -/
def willingTurn (before : List Access) (command : Command) : Turn where
  begins := 0
  now := 0
  heard := some command
  connected := true
  before := before
  control _ := ⟨.ok (), 0⟩
  transfer buffer frames := ⟨⟨buffer, .ok ⟨frames, 10⟩⟩, 0⟩

/-- A playback burst of four frames with all that is queued. -/
theorem byteCount_burst_exact_wholeBurst :
    Transport.configure { bufferFrames := 256 } {} false = .ok .small ∧
    let s := Setup.ofTransport .small .output 7
    let bench := ((Bench.initial s Transport.small.data).run s [willingTurn [] .start]).1
    let turn := willingTurn [.write (List.replicate 16 1)] (.burst 16)
    let r : Reply :=
      { status := .ok, state := .active, observable := ⟨4, 0⟩, byteCount := 16, latency := 10 }
    (bench.cycle s turn).2.reply = some r ∧ (bench.cycle s turn).1.data.contents = [] ∧
      (r.byteCount.toInt = ((bench.ready s turn).data.readable : Int) ↔
        (bench.ready s turn).data.readable = 0 ∨
          ((bench.ready s turn).data.readable ≤ (16 : Int32).toInt.toNat ∧
            Transport.small.debug.shortBursts = false ∧
            Transport.small.frameSize ∣ (bench.ready s turn).data.readable ∧
            turn.MovesAll (bench.ready s turn).data.contents
              ((bench.ready s turn).data.readable / Transport.small.frameSize))) := by
  have hexact := byteCount_burst_exact Transport.configure_small .output 7 [willingTurn [] .start]
    (willingTurn [.write (List.replicate 16 1)] (.burst 16)) 16
    { status := .ok, state := .active, observable := ⟨4, 0⟩, byteCount := 16, latency := 10 }
    rfl rfl (by decide +kernel) rfl
  obtain ⟨hempty, -, hiff⟩ := hexact.2 rfl
  exact ⟨Transport.configure_small, by decide +kernel, hempty, hiff⟩

/-- Not every playback burst that succeeds tells of all the bytes that it takes: asked for two frames of
four, it takes all of them and tells of two. -/
theorem exists_burst_unreported : ¬ ∀ (turns : List Turn) (turn : Turn) (n : Int32) (r : Reply),
    let s := Setup.ofTransport .small .output 7
    let bench := ((Bench.initial s Transport.small.data).run s turns).1
    turn.during = [] → turn.heard = some (.burst n) → (bench.cycle s turn).2.reply = some r →
    r.status = .ok →
      ((bench.ready s turn).data.readable : Int) =
        (bench.cycle s turn).1.data.readable + r.byteCount.toInt := by
  intro h
  have hreported := h [willingTurn [] .start]
    (willingTurn [.write (List.replicate 16 1)] (.burst 8)) 8
    { status := .ok, state := .active, observable := ⟨2, 0⟩, byteCount := 8, latency := 10 }
    rfl rfl (by decide +kernel) rfl
  revert hreported
  decide +kernel

end Bench

end AudioStream
