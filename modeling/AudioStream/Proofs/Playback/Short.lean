import AudioStream.Proofs.Playback.Run
import AudioStream.Proofs.Worker.Reported

/-!
# Bursts that are made one frame short

A playback stream can be told to hold back a frame of every burst. If its client is told when the rest can be
written, such a stream is kept out of the active state: a burst never moves all that it is asked for, since
either a frame is held back or there is not enough for one. Only a burst of no bytes at all moves all of them.

The main statement is `Bench.transferring_of_shortBurst`.
-/

namespace AudioStream

/-- A transport for 256 frames of four bytes whose bursts are one frame short. -/
def Transport.short : Transport :=
  { Transport.small with debug := { shortBursts := true }, notifies := true }

namespace Setup

variable (s : Setup) {asked taken frames : Nat}

/-- A short burst that has the bytes of a frame leaves a frame of what it was asked for. -/
theorem frames_mul_le_of_short (hshort : s.shortBursts = true) (hbuffer : taken ≤ s.bufferSize)
    (hframe : s.frameSize ≤ min asked taken) (h : frames ≤ s.frames (s.playbackSize asked taken)) :
    frames * s.frameSize ≤ asked - s.frameSize :=
  calc frames * s.frameSize
      ≤ s.frames (s.playbackSize asked taken) * s.frameSize := Nat.mul_le_mul_right _ h
    _ ≤ s.playbackSize asked taken := s.frames_mul_le _
    _ = min asked taken - s.frameSize := by rw [s.playbackSize_of_le hbuffer, if_pos ⟨hshort, hframe⟩]
    _ ≤ asked - s.frameSize := Nat.sub_le_sub_right (Nat.min_le_left _ _) _

/-- A burst that has not the bytes of a frame moves nothing. -/
theorem frames_eq_zero_of_few (hbuffer : taken ≤ s.bufferSize) (hfew : min asked taken < s.frameSize)
    (h : frames ≤ s.frames (s.playbackSize asked taken)) : frames = 0 := by
  have hsize : s.playbackSize asked taken = min asked taken := by
    rw [s.playbackSize_of_le hbuffer, if_neg fun hframe => Nat.not_le.mpr hfew hframe.2]
  rw [hsize, Setup.frames, Nat.div_eq_of_lt hfew] at h
  exact Nat.le_zero.mp h

end Setup

namespace Worker

/-- No number of bytes that a burst can be asked for is too great for a reply. -/
theorem toInt_reportedBytes_of_le {n : Int32} {bytes : Nat} (h : bytes ≤ n.toInt.toNat) :
    (reportedBytes bytes).toInt = bytes := by
  have hmax : Int32.maxValue.toInt = 2 ^ 31 - 1 := Int32.toInt_maxValue
  have hn : n.toInt < 2 ^ 31 := n.toInt_lt
  rw [reportedBytes, if_pos (by omega), Int32.toInt_ofNat_of_lt (by omega)]

end Worker

namespace Playback

variable {s : Setup} {w : Worker}

/-- A burst leads to active only if all was moved that it was asked for, and else to a transfer of which the
client is told. -/
theorem state_afterBurst (hd : s.direction = .output) (hn : s.notifies = true) (now : Nat) {n : Int32}
    (nonneg : 0 ≤ n) (moved : Int32) (from_ : w.state ∈ [State.idle, .draining, .active]) :
    (w.afterBurst s now n.toInt.toNat moved).state = if moved = n then .active else .transferring := by
  have accepted : w.state ≠ .error ∧ w.state ≠ .transferring ∧ w.state ≠ .transferPaused := by
    cases hs : w.state <;> simp_all
  obtain ⟨next, row, hnext⟩ := afterBurst_row hd true now nonneg moved accepted
  rw [hnext, Worker.state_enter]
  generalize w.state = state at row from_
  cases row with
  | burst_standby | burst_paused | burst_drainPaused => simp at from_
  | burst_whole h from' whole => rw [if_pos (whole.resolve_left (by simp [hn]))]
  | burst_partial h from' notifies part => rw [if_neg part]

end Playback

namespace Bench

variable {s : Setup} {t : Turn} {bench : Bench}

/-- A playback burst in which the driver does not fail ends with the frames that were moved, none if the client
has taken the bytes away. They are no more than the transfer is asked for. -/
theorem exists_frames_playback (asked : Nat)
    (fine : ∀ call, (bench.playback s t asked).2.2.call = some call → ¬ t.Fails call) :
    ∃ (w : Worker) (now frames : Nat), w.state = bench.worker.state ∧
      frames ≤ s.frames (s.playbackSize asked (s.playbackTake bench.data.readable)) ∧
      (bench.playback s t asked).2.1.reply.byteCount = Worker.reportedBytes (frames * s.frameSize) ∧
      (bench.playback s t asked).2.1.worker =
        w.afterBurst s now asked (Worker.reportedBytes (frames * s.frameSize)) := by
  unfold playback at fine ⊢
  dsimp only at fine ⊢
  split at fine
  next taken data hread =>
    let r := transfer s t (s.playbackSize asked (s.playbackTake bench.data.readable))
      (bench.worker.fill taken)
    have hsuccess : r.moved.failure = none := by
      cases hf : r.moved.failure with
      | none => rfl
      | some e =>
        obtain ⟨call, hcall, hfails⟩ := (failure_transfer_iff s t _ _).mp ⟨e, hf⟩
        exact absurd hfails (fine call hcall)
    refine ⟨r.worker.count r.moved.frames, r.ends, r.moved.frames, ?_, frames_transfer_le s t _ _, ?_, ?_⟩
    · exact state_transfer s t _ (bench.worker.fill taken)
    · rw [Worker.reply_finishBurst]
    · exact Worker.worker_finishBurst_of_success s r.ends _ r.moved r.worker hsuccess
  next hread =>
    refine ⟨bench.worker, t.now + t.lag, 0, rfl, Nat.zero_le _, ?_, ?_⟩
    · rw [Worker.reply_finishBurst_false, Nat.zero_mul]
      rfl
    · rw [Worker.worker_finishBurst_false_of_success s (t.now + t.lag) _ _ bench.worker rfl, Nat.zero_mul]
      rfl

/-- What a burst on a short stream comes to: either no frame is there, and nothing is moved, or a frame is left
of what was asked for. In both cases all of it is moved only if it is nothing. -/
theorem playback_of_short (hd : s.direction = .output) (hn : s.notifies = true)
    (hshort : s.shortBursts = true) (hpos : 0 < s.frameSize) (fits : bench.Fits s) {n : Int32}
    (nonneg : 0 ≤ n) (hstate : bench.worker.state ∈ [State.idle, .draining, .active])
    (fine : ∀ call, (bench.playback s t n.toInt.toNat).2.2.call = some call → ¬ t.Fails call) :
    let done := (bench.playback s t n.toInt.toNat).2.1
    (s.frameSize ≤ min n.toInt.toNat bench.data.readable →
      0 ≤ done.reply.byteCount.toInt ∧ done.reply.byteCount.toInt ≤ n.toInt - s.frameSize) ∧
    (min n.toInt.toNat bench.data.readable < s.frameSize → done.reply.byteCount = 0) ∧
    done.worker.state = if n = 0 then .active else .transferring := by
  intro done
  obtain ⟨w, now, frames, hw, hframes, hreply, hworker⟩ := exists_frames_playback n.toInt.toNat fine
  have hbuffer : bench.data.readable ≤ s.bufferSize := fits.capacity ▸ bench.data.length_le
  rw [Setup.playbackTake, Nat.min_eq_left hbuffer] at hframes
  have hafter := Playback.state_afterBurst hd hn now nonneg
    (Worker.reportedBytes (frames * s.frameSize)) (hw ▸ hstate)
  rw [← hworker, ← hreply] at hafter
  rcases Nat.lt_or_ge (min n.toInt.toNat bench.data.readable) s.frameSize with hfew | hframe
  · have hzero : done.reply.byteCount = 0 := by
      rw [hreply, s.frames_eq_zero_of_few hbuffer hfew hframes, Nat.zero_mul]
      rfl
    rw [hzero] at hafter
    refine ⟨fun h => absurd hfew (Nat.not_lt.mpr h), fun _ => hzero, ?_⟩
    by_cases hnothing : n = 0
    · rw [hafter, if_pos hnothing.symm, if_pos hnothing]
    · rw [hafter, if_neg (Ne.symm hnothing), if_neg hnothing]
  · have hle := s.frames_mul_le_of_short hshort hbuffer hframe hframes
    have hasked : s.frameSize ≤ n.toInt.toNat := Nat.le_trans hframe (Nat.min_le_left _ _)
    have hmoved : done.reply.byteCount.toInt = (frames * s.frameSize : Nat) := by
      rw [hreply, Worker.toInt_reportedBytes_of_le (Nat.le_trans hle (Nat.sub_le _ _))]
    have hnat : (n.toInt.toNat : Int) = n.toInt :=
      Int.toNat_of_nonneg (Int32.le_iff_toInt_le.mp nonneg)
    have hleft : done.reply.byteCount.toInt ≤ n.toInt - s.frameSize := by omega
    have hpart : done.reply.byteCount ≠ n := by
      intro h
      rw [h] at hleft
      omega
    have hsome : n ≠ 0 := by
      rintro rfl
      exact Nat.not_le.mpr hpos hasked
    refine ⟨fun _ => ⟨hmoved ▸ Int.natCast_nonneg _, hleft⟩,
      fun h => absurd h (Nat.not_lt.mpr hframe), ?_⟩
    rw [hafter, if_neg hpart, if_neg hsome]

/-- On a stream whose client is told of transfers and whose bursts are one frame short, a burst in idle,
draining or active that the driver does not fail leads to transferring, unless it is asked for no bytes. If
the bytes of a frame are there, its reply leaves a frame of what was asked for, and else it tells of nothing. -/
theorem transferring_of_shortBurst {config : StreamConfig} {debug : DebugParameters} {t : Transport}
    (ht : Transport.configure config debug true = .ok t) (hshort : debug.shortBursts = true)
    (cookie : Int32) (turns : List Turn) (turn : Turn) (n : Int32) :
    let s := Setup.ofTransport t .output cookie
    let bench := ((Bench.initial s t.data).run s turns).1
    let queued := (bench.ready s turn).data.readable
    turn.heard = some (.burst n) → 0 ≤ n →
    (bench.ready s turn).worker.state ∈ [State.idle, .draining, .active] →
    (∀ call, (bench.cycle s turn).2.call = some call → ¬ turn.Fails call) →
      ∃ r, (bench.cycle s turn).2.reply = some r ∧
        (t.frameSize ≤ min n.toInt.toNat queued →
          0 ≤ r.byteCount.toInt ∧ r.byteCount.toInt ≤ n.toInt - t.frameSize) ∧
        (min n.toInt.toNat queued < t.frameSize → r.byteCount = 0) ∧
        r.state = (if n = 0 then .active else .transferring) ∧
        (bench.cycle s turn).1.worker.state = r.state := by
  intro s bench queued heard nonneg hstate fine
  have hnotifies : s.notifies = true := Transport.notifies_of_configure ht
  have hheld : s.shortBursts = true := by
    rw [← hshort, ← Transport.debug_of_configure ht]
    rfl
  have hpos : 0 < s.frameSize := (Transport.isFresh_of_configure ht).frameSize_pos
  have fits : (bench.ready s turn).Fits s := ((fits_initial t .output cookie).run turns).ready turn
  have hmoves : s.moves (bench.ready s turn).worker.state = true := by
    generalize (bench.ready s turn).worker.state = state at hstate
    cases state <;> simp_all [Setup.moves, s, Setup.ofTransport]
  have haccepted : bench.accepted s turn = some n.toInt.toNat :=
    accepted_eq_some_iff.mpr ⟨_, heard, s.decide_eq_burst_iff.mpr ⟨n, rfl, nonneg, hmoves, rfl⟩⟩
  rw [cycle_of_accepted haccepted] at fine ⊢
  obtain ⟨hleft, hnone, hnext⟩ :=
    playback_of_short rfl hnotifies hheld hpos fits nonneg hstate fine
  exact ⟨_, rfl, hleft, hnone, hnext, rfl⟩

/-- A burst of all four frames that are queued holds one of them back. -/
theorem transferring_of_shortBurst_heldFrame :
    let s := Setup.ofTransport .short .output 7
    let bench := ((Bench.initial s Transport.short.data).run s [willingTurn [] .start]).1
    let turn := willingTurn [.write (List.replicate 16 1)] (.burst 16)
    Transport.configure { bufferFrames := 256 } { shortBursts := true } true = .ok .short ∧
      (bench.ready s turn).worker.state = .idle ∧
      ∃ r, (bench.cycle s turn).2.reply = some r ∧ r.byteCount.toInt ≤ 16 - 4 ∧
        r.state = .transferring := by
  have ht : Transport.configure { bufferFrames := 256 } { shortBursts := true } true = .ok .short := rfl
  have willing : ∀ call, ¬ (willingTurn [.write (List.replicate 16 1)] (.burst 16)).Fails call := by
    intro call
    cases call <;> rintro ⟨e, he⟩ <;> cases he
  obtain ⟨r, hr, hleft, -, hstate, -⟩ := transferring_of_shortBurst ht rfl 7 [willingTurn [] .start]
    (willingTurn [.write (List.replicate 16 1)] (.burst 16)) 16 rfl (by decide) (by decide +kernel)
    (fun call _ => willing call)
  exact ⟨ht, by decide +kernel, r, hr, (hleft (by decide +kernel)).2, hstate⟩

end Bench

end AudioStream
