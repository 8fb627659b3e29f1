import AudioStream.Proofs.Capture.Table
import AudioStream.Proofs.Demo.Scene
import AudioStream.Proofs.Driver.Stub
import AudioStream.Proofs.Stream.Sizes
import AudioStream.Proofs.Worker.Roles

/-!
# Bursts of a demonstration

A burst of a script asks for a quarter of the buffer, which need not be whole frames. In capture there is
always room for it, and the whole frames of the quarter are queued. In playback the client has queued the
quarter just before, and the burst takes all of it, plays its whole frames and drops the rest; if bursts are
made one frame short, it drops one frame more.
-/

namespace AudioStream

theorem Setup.decide_burst_ofNat (s : Setup) {state : State} (hmoves : s.moves state = true) {bytes : Nat}
    (hbytes : bytes < 2 ^ 31) : s.decide state (.burst (Int32.ofNat bytes)) = .burst bytes := by
  have htoInt : (Int32.ofNat bytes).toInt = bytes := Int32.toInt_ofNat_of_lt hbytes
  refine s.decide_eq_burst_iff.mpr ⟨_, rfl, ?_, hmoves, ?_⟩
  · rw [Int32.le_iff_toInt_le, htoInt]
    exact Int.natCast_nonneg _
  · rw [htoInt, Int.toNat_natCast]

namespace Transport

theorem quarter_le (t : Transport) : t.quarter ≤ t.data.capacity := Nat.div_le_self _ _

theorem quarterFrames_mul_le (t : Transport) : t.quarterFrames * t.frameSize ≤ t.quarter :=
  Nat.div_mul_le_self _ _

theorem IsFresh.quarter_lt {t : Transport} (fresh : t.IsFresh) : t.quarter < 2 ^ 31 :=
  calc t.quarter ≤ t.data.capacity := t.quarter_le
    _ ≤ maximumBytes := fresh.capacity_le
    _ < 2 ^ 31 := by decide

theorem playedFrames_le (t : Transport) : t.playedFrames ≤ t.quarterFrames := Nat.sub_le _ _

/-- What is left of a quarter when bursts are one frame short are the whole frames but one. -/
theorem IsFresh.frames_playbackSize {t : Transport} (fresh : t.IsFresh) {s : Setup}
    (hs : s = Setup.ofTransport t .output 0) (hquarter : t.quarter ≤ s.bufferSize) :
    s.frames (s.playbackSize t.quarter t.quarter) = t.playedFrames := by
  have hframe : s.frameSize = t.frameSize := congrArg Setup.frameSize hs
  have hshort : s.shortBursts = t.debug.shortBursts := congrArg Setup.shortBursts hs
  rw [s.playbackSize_of_le hquarter, hshort, hframe, Nat.min_self, Setup.frames, hframe, playedFrames,
    quarterFrames]
  cases t.debug.shortBursts with
  | false => simp
  | true =>
    rcases Nat.lt_or_ge t.quarter t.frameSize with hfew | hmany
    · rw [if_neg fun h => Nat.not_le.mpr hfew h.2, Nat.div_eq_of_lt hfew]
      rfl
    · rw [if_pos ⟨rfl, hmany⟩, Nat.div_eq_sub_div fresh.frameSize_pos hmany]
      rfl

end Transport

/-- A stream whose client is not told goes on with a burst as if all had been moved. -/
theorem Worker.state_afterBurst_of_untold {s : Setup} {w : Worker} (hd : s.direction = .output)
    (hn : s.notifies = false) (hstate : w.state = .standby ∨ w.state = .active) (now asked : Nat)
    (moved : Int32) :
    (w.afterBurst s now asked moved).state = if w.state = .standby then .paused else .active := by
  rcases hstate with hw | hw <;> simp [afterBurst, hd, hn, hw]

namespace Demo

variable {t : Transport} {direction : Direction} {a : Scene} {d : Demo}

/-- A burst of a quarter has the driver move some frames, and leaves some bytes in the data queue. -/
def Moves (t : Transport) (a : Scene) (frames left : Nat) (d : Demo) : Prop :=
  let turn := d.turn (.burst (Int32.ofNat t.quarter))
  ∃ (data : DataQueue) (w : Worker) (now : Nat) (seen : Cycle),
    (d.bench.ready d.setup turn).burst d.setup turn t.quarter =
      (data, w.finishBurst d.setup now ⟨t.quarter, true⟩ { frames } true, seen) ∧
    w.state = a.state ∧ w.frameCount = Int64.ofNat a.frames ∧ data.readable = left ∧
    seen.ends = d.now + d.driver.transferTime frames

namespace At

/-! ## The sizes of a script -/

section Sizes

variable (h : d.At t direction a)

include h

theorem frameSize_setup : d.setup.frameSize = t.frameSize := congrArg Setup.frameSize h.setup

theorem bufferSize_setup : d.setup.bufferSize = t.data.capacity := by
  rw [h.setup]
  exact (Bench.fits_initial t direction 0).capacity.symm

theorem capacity_served : (d.bench.data.serve d.owed).1.capacity = t.data.capacity := by
  rw [DataQueue.capacity_serve, h.fits.capacity, h.bufferSize_setup]

/-- There is room for a quarter of the buffer. -/
theorem quarter_le_writable : t.quarter ≤ (d.bench.data.serve d.owed).1.writable := by
  have htotal := (d.bench.data.serve d.owed).1.readable_add_writable
  rw [h.queued, h.capacity_served] at htotal
  have hroom := h.sound.room
  omega

end Sizes

/-! ## What a burst moves -/

/-- A stub moves all the frames that it is asked for, and takes its time. -/
theorem transfer_eq (h : d.At t direction a) (command : Command) {size : Nat} {w : Worker}
    (hsize : size ≤ w.buffer.length) :
    (Bench.transfer d.setup (d.turn command) size w).moved = { frames := d.setup.frames size } ∧
    (Bench.transfer d.setup (d.turn command) size w).ends =
      d.now + d.driver.transferTime (d.setup.frames size) := by
  have hframe : d.driver.frameSize = d.setup.frameSize := by
    rw [h.driver.frameSize, h.setup]
    rfl
  have hroom : d.setup.frames size * d.driver.frameSize ≤ (w.buffer.take size).length := by
    rw [List.length_take_of_le hsize, hframe]
    exact d.setup.frames_mul_le size
  have hresult := Stub.result_transferred hroom
  constructor
  · simp [Bench.transfer, turn, Worker.afterTransfer, Stub.answer_transfer, hresult, Moved.ofAnswer]
  · simp only [Bench.transfer, turn, if_true, Driver.transfer, hresult]

/-- In capture there is room for a quarter of the buffer, and its whole frames are queued. -/
theorem moves_capture (h : d.At t .input a) :
    d.Moves t a t.quarterFrames (a.queued + t.quarterFrames * t.frameSize) := by
  have hframes : d.setup.frames t.quarter = t.quarterFrames := by
    rw [Setup.frames, h.frameSize_setup, Transport.quarterFrames]
  have hready := h.ready (.inl rfl) (.burst (Int32.ofNat t.quarter))
  have hsize : d.setup.captureSize t.quarter (d.bench.data.serve d.owed).1.writable = t.quarter := by
    have hfree := h.quarter_le_writable
    have hquarter := t.quarter_le
    simp only [Setup.captureSize, h.bufferSize_setup]
    omega
  have hbuffer : d.bench.worker.buffer.length = t.data.capacity := by
    rw [h.fits.buffer, h.bufferSize_setup]
  obtain ⟨data, hdata, hcapture⟩ := Bench.capture_of_reads d.setup
    (t := d.turn (.burst (Int32.ofNat t.quarter))) ⟨d.bench.worker, (d.bench.data.serve d.owed).1⟩ nofun
    t.quarter
  obtain ⟨hmoved, hends⟩ := h.transfer_eq (.burst (Int32.ofNat t.quarter)) (hbuffer ▸ t.quarter_le)
  dsimp only at hdata hcapture
  rw [hsize] at hdata hcapture
  rw [hframes] at hmoved hends
  generalize hr : Bench.transfer d.setup (d.turn (.burst (Int32.ofNat t.quarter))) t.quarter
    d.bench.worker = r at hdata hcapture hmoved hends
  rw [hmoved] at hdata hcapture
  rw [← hready, ← Bench.burst_of_input (congrArg Setup.direction h.setup)] at hcapture
  refine ⟨data, r.worker, r.ends, _, hcapture, ?state, ?count, ?left, hends⟩
  case state => rw [← hr, Bench.state_transfer, h.state]
  case count => rw [← hr, Bench.frameCount_transfer, h.frames]
  case left =>
    have hlength : (r.worker.movedBytes d.setup { frames := t.quarterFrames }).length =
        t.quarterFrames * t.frameSize := by
      rw [Worker.movedBytes, h.frameSize_setup, ← hr]
      refine List.length_take_of_le ?_
      rw [Bench.length_buffer_transfer, hbuffer]
      exact Nat.le_trans t.quarterFrames_mul_le t.quarter_le
    rw [← h.queued, ← hlength]
    exact (congrArg List.length hdata).trans List.length_append

/-- In playback all of the quarter is taken that is queued, and its whole frames are played. -/
theorem moves_playback (fresh : t.IsFresh) (h : d.At t .output a) (hsteady : a.state.isTransient = false)
    (hqueued : a.queued = t.quarter) : d.Moves t a t.playedFrames 0 := by
  have hfits : t.quarter ≤ d.setup.bufferSize := h.bufferSize_setup ▸ t.quarter_le
  have hready := h.ready (.inr hsteady) (.burst (Int32.ofNat t.quarter))
  obtain ⟨data, hdata, hplayback⟩ := Bench.playback_of_writes d.setup
    (t := d.turn (.burst (Int32.ofNat t.quarter))) ⟨d.bench.worker, (d.bench.data.serve d.owed).1⟩ nofun
    (Nat.le_of_eq (h.capacity_served.trans h.bufferSize_setup.symm)) t.quarter
  dsimp only at hdata hplayback
  rw [h.queued, hqueued] at hplayback
  generalize hw : d.bench.worker.fill (d.bench.data.serve d.owed).1.contents = w at hplayback
  have hsize : d.setup.playbackSize t.quarter t.quarter ≤ w.buffer.length := by
    rw [← hw, Worker.length_fill, h.fits.buffer]
    exact Nat.le_trans (d.setup.playbackSize_le_taken _ _) hfits
  obtain ⟨hmoved, hends⟩ := h.transfer_eq (.burst (Int32.ofNat t.quarter)) hsize
  rw [fresh.frames_playbackSize h.setup hfits] at hmoved hends
  generalize hr : Bench.transfer d.setup (d.turn (.burst (Int32.ofNat t.quarter)))
    (d.setup.playbackSize t.quarter t.quarter) w = r at hplayback hmoved hends
  rw [hmoved, ← hready, ← Bench.burst_of_output (congrArg Setup.direction h.setup)] at hplayback
  refine ⟨data, r.worker, r.ends, _, hplayback, ?state, ?count, congrArg List.length hdata, hends⟩
  case state =>
    rw [← hr, Bench.state_transfer, ← hw]
    exact h.state
  case count => rw [← hr, Bench.frameCount_transfer, ← hw, Worker.frameCount_fill, h.frames]

/-! ## Where a burst leads -/

section Burst

variable (fresh : t.IsFresh)

include fresh

/-- A burst leads to the state that comes after it, with the frames counted that it has moved. -/
theorem burst (h : d.At t direction a) (hsteady : direction = .input ∨ a.state.isTransient = false)
    (hmoves : d.setup.moves a.state = true) {frames left : Nat} (hburst : d.Moves t a frames left)
    (hprompt : d.driver.transferTime frames < patience) (hframes : frames ≤ t.quarterFrames) {next : State}
    (hnext : ∀ (w : Worker) (now : Nat) (moved : Int32), w.state = a.state →
      (w.afterBurst d.setup now t.quarter moved).state = next)
    (sound : Scene.Sound t ⟨next, a.frames + frames, left⟩) :
    ∃ reply, d.Sends t direction (.burst (Int32.ofNat t.quarter)) (frames * t.frameSize)
      ⟨next, a.frames + frames, left⟩ reply := by
  obtain ⟨data, w, now, seen, hseen, hstate, hcount, hleft, hends⟩ := hburst
  have hdecide : d.setup.decide (d.bench.ready d.setup
      (d.turn (.burst (Int32.ofNat t.quarter)))).worker.state (.burst (Int32.ofNat t.quarter)) =
      .burst t.quarter := by
    rw [h.ready hsteady, h.state]
    exact d.setup.decide_burst_ofNat hmoves fresh.quarter_lt
  have hhandle := Bench.handle_of_burst (t := d.turn (.burst (Int32.ofNat t.quarter))) hdecide
  rw [hseen] at hhandle
  have hworker := w.worker_finishBurst_of_success d.setup now ⟨t.quarter, true⟩ { frames } rfl
  have hreply := w.reply_finishBurst d.setup now ⟨t.quarter, true⟩ { frames }
  have hstate' := hnext (w.count frames) now (Worker.reportedBytes (frames * d.setup.frameSize)) hstate
  have hcounted : (w.count frames).frameCount = Int64.ofNat (a.frames + frames) := by
    rw [Int64.ofNat_add, ← hcount]
    rfl
  have hbytes : frames * t.frameSize ≤ Transport.maximumBytes :=
    calc frames * t.frameSize ≤ t.quarterFrames * t.frameSize := Nat.mul_le_mul_right _ hframes
      _ ≤ t.quarter := t.quarterFrames_mul_le
      _ ≤ t.data.capacity := t.quarter_le
      _ ≤ Transport.maximumBytes := fresh.capacity_le
  refine ⟨_, h.sends (b := ⟨next, a.frames + frames, left⟩) hhandle rfl ?time ?state ?frames hleft sound
    ?status ?told ?byteCount ?position⟩
  case time =>
    rw [hends, Nat.add_sub_cancel_left]
    exact hprompt
  case state => rw [hworker, hstate']
  case frames => rw [hworker, Worker.frameCount_afterBurst, hcounted]
  case status => rw [Handled.answer, hreply]
  case told => rw [Handled.answer, hworker, hstate']
  case byteCount =>
    rw [Handled.answer, hreply, h.frameSize_setup]
    exact Worker.toInt_reportedBytes hbytes
  case position =>
    rw [Handled.answer, hreply]
    exact hcounted

theorem capture (h : d.At t .input a) (hmoves : d.setup.moves a.state = true)
    (hprompt : d.driver.transferTime t.quarterFrames < patience)
    (sound : Scene.Sound t ⟨Capture.burstTo a.state, a.frames + t.quarterFrames,
      a.queued + t.quarterFrames * t.frameSize⟩) :
    ∃ reply, d.Sends t .input (.burst (Int32.ofNat t.quarter)) (t.quarterFrames * t.frameSize)
      ⟨Capture.burstTo a.state, a.frames + t.quarterFrames, a.queued + t.quarterFrames * t.frameSize⟩
      reply := by
  refine h.burst fresh (.inl rfl) hmoves h.moves_capture hprompt (Nat.le_refl _) ?_ sound
  intro w now moved hw
  have hnext := Capture.mode_afterBurst (w := w) (congrArg Setup.direction h.setup) now t.quarter moved
    (hw ▸ hmoves)
  exact (congrArg Mode.state hnext).trans (congrArg Capture.burstTo hw)

theorem playback (h : d.At t .output a) (hnotifies : t.notifies = false)
    (hstate : a.state = .standby ∨ a.state = .active) (hqueued : a.queued = t.quarter)
    (hprompt : d.driver.transferTime t.playedFrames < patience)
    (hcountable : a.frames + t.playedFrames < 2 ^ 63) :
    ∃ reply, d.Sends t .output (.burst (Int32.ofNat t.quarter)) (t.playedFrames * t.frameSize)
      ⟨if a.state = .standby then .paused else .active, a.frames + t.playedFrames, 0⟩ reply := by
  have hdirection : d.setup.direction = .output := congrArg Setup.direction h.setup
  have hsteady : a.state.isTransient = false := by rcases hstate with hs | hs <;> rw [hs] <;> rfl
  have hmoves : d.setup.moves a.state = true := by
    rcases hstate with hs | hs <;> simp [Setup.moves, hdirection, hs]
  refine h.burst fresh (.inr hsteady) hmoves (h.moves_playback fresh hsteady hqueued) hprompt
    t.playedFrames_le ?next ⟨?room, hcountable⟩
  case next =>
    intro w now moved hw
    rw [Worker.state_afterBurst_of_untold hdirection ((congrArg Setup.notifies h.setup).trans hnotifies)
      (hw ▸ hstate), hw]
  case room =>
    rw [Nat.zero_add]
    exact t.quarter_le

end Burst

end At

end Demo

end AudioStream
