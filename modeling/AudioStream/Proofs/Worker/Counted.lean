import AudioStream.Proofs.Transport
import AudioStream.Proofs.Worker.Burst
import Mathlib.Algebra.Group.Int.Defs
import Mathlib.Algebra.Group.Nat.Defs

/-!
# What a command counts

The reply to a command tells of the bytes that the command moved, and the worker counts the frames that
these bytes make, in the ways of `Counted`. All other commands but a burst count nothing. A burst
without a device counts all the frames that it has the bytes or the room for.
-/

namespace AudioStream

/-- The bytes that a command asks for. A negative number asks for none. -/
def Command.asked : Command → Nat
  | burst bytes => bytes.toInt.toNat
  | _ => 0

namespace Setup

variable (s : Setup)

/-- The bytes of the buffer that a burst moves on a data queue, if the driver does its part. -/
def burstSize (asked : Nat) (data : DataQueue) : Nat :=
  match s.direction with
  | .input => s.captureSize asked data.writable
  | .output => s.playbackSize asked (s.playbackTake data.readable)

theorem captureSize_le (asked free : Nat) : s.captureSize asked free ≤ min asked s.bufferSize := by
  unfold captureSize
  omega

theorem playbackSize_le (asked taken : Nat) :
    s.playbackSize asked taken ≤ min asked s.bufferSize := by
  unfold playbackSize
  dsimp only
  split <;> omega

theorem playbackSize_of_le {taken : Nat} (hbuffer : taken ≤ s.bufferSize) (asked : Nat) :
    s.playbackSize asked taken =
      if s.shortBursts = true ∧ s.frameSize ≤ min asked taken then min asked taken - s.frameSize
      else min asked taken := by
  have hall : min (min asked taken) s.bufferSize = min asked taken := by omega
  simp only [playbackSize, hall, Bool.and_eq_true, decide_eq_true_eq]

theorem playbackSize_eq {asked taken : Nat} (hasked : taken ≤ asked) (hbuffer : taken ≤ s.bufferSize)
    (hshort : s.shortBursts = false) : s.playbackSize asked taken = taken := by
  rw [s.playbackSize_of_le hbuffer, hshort, if_neg (by simp)]
  omega

theorem playbackSize_le_taken (asked taken : Nat) : s.playbackSize asked taken ≤ taken := by
  unfold playbackSize
  dsimp only
  split <;> omega

theorem burstSize_le (asked : Nat) (data : DataQueue) :
    s.burstSize asked data ≤ min asked s.bufferSize := by
  unfold burstSize
  split
  · exact s.captureSize_le asked _
  · exact s.playbackSize_le asked _

theorem frames_mul_le (size : Nat) : s.frames size * s.frameSize ≤ size :=
  Nat.div_mul_le_self size s.frameSize

theorem decide_of_burst (state : State) (n : Int32) : s.decide state (.burst n) = .reject ∨
    s.decide state (.burst n) = .refuse ∨ s.decide state (.burst n) = .burst n.toInt.toNat := by
  rw [decide_burst]
  by_cases hn : n < 0
  · exact .inl (if_pos hn)
  · cases hm : s.moves state <;> simp [hn]

/-- A burst is decided on only for a command that asks for its bytes. -/
theorem asked_of_decide_burst {state : State} {command : Command} {bytes : Nat}
    (h : s.decide state command = .burst bytes) : command.asked = bytes := by
  obtain ⟨n, rfl, -, -, hbytes⟩ := s.decide_eq_burst_iff.mp h
  exact hbytes

end Setup

/-- A command leads from one worker to another and is answered: the frames that the second has counted
more are those that the reply tells of, and no more than were asked for and fit into the buffer. -/
def Counted (s : Setup) (asked : Nat) (before after : Worker) (r : Reply) : Prop :=
  ∃ frames, frames * s.frameSize ≤ min asked s.bufferSize ∧
    r.byteCount = Worker.reportedBytes (frames * s.frameSize) ∧
    after.frameCount = before.frameCount + Int64.ofNat frames ∧
    (r.observable = .unknown ∨ r.observable.frames = after.frameCount)

namespace Worker

theorem frameCount_afterBurst (s : Setup) (now asked : Nat) (moved : Int32) (w : Worker) :
    (w.afterBurst s now asked moved).frameCount = w.frameCount := by
  fun_cases afterBurst <;> simp

theorem position_eq (w : Worker) (now : Nat) (connected : Bool) :
    w.position now connected = .unknown ∨ (w.position now connected).frames = w.frameCount := by
  cases connected
  · exact .inl rfl
  · exact .inr rfl

end Worker

/-- No number of bytes that fits into a buffer is too great for a reply. -/
theorem Worker.toInt_reportedBytes {n : Nat} (h : n ≤ Transport.maximumBytes) :
    (Worker.reportedBytes n).toInt = n := by
  have hmax : Int32.maxValue.toInt = 2 ^ 31 - 1 := Int32.toInt_maxValue
  have hn : n ≤ 2 ^ 20 := h
  rw [Worker.reportedBytes, if_pos (by omega), Int32.toInt_ofNat_of_lt (by omega)]

/-- A command that moves nothing does not count. -/
theorem Counted.of_nothing {s : Setup} {asked : Nat} {before after : Worker} {r : Reply}
    (bytes : r.byteCount = 0) (count : after.frameCount = before.frameCount)
    (position : r.observable = .unknown ∨ r.observable.frames = after.frameCount) :
    Counted s asked before after r := by
  refine ⟨0, ?_, ?_, ?_, position⟩
  · simp
  · rw [bytes, Nat.zero_mul]
    rfl
  · rw [count]
    simp

theorem Counted.congr {s : Setup} {asked : Nat} {before w after : Worker} {r : Reply}
    (h : Counted s asked w after r) (count : w.frameCount = before.frameCount) :
    Counted s asked before after r := by
  obtain ⟨frames, hle, hbytes, hcount, hposition⟩ := h
  exact ⟨frames, hle, hbytes, by rw [hcount, count], hposition⟩

/-- What can be said of one command once no counter overflows. -/
theorem Counted.exists_frames {s : Setup} {asked : Nat} {before after : Worker} {r : Reply}
    (h : Counted s asked before after r) (hpos : 0 < s.frameSize)
    (hsize : s.bufferSize ≤ Transport.maximumBytes) (h0 : 0 ≤ before.frameCount.toInt)
    (hroom : before.frameCount.toInt + (min asked s.bufferSize : Nat) < 2 ^ 63) :
    ∃ frames : Nat, frames * s.frameSize ≤ min asked s.bufferSize ∧
      r.byteCount.toInt = (frames * s.frameSize : Nat) ∧
      after.frameCount.toInt = before.frameCount.toInt + frames ∧
      (r.observable = .unknown ∨ r.observable.frames = after.frameCount) := by
  obtain ⟨frames, hle, hbytes, hcount, hposition⟩ := h
  have hmax : frames * s.frameSize ≤ Transport.maximumBytes :=
    Nat.le_trans hle (Nat.le_trans (Nat.min_le_right _ _) hsize)
  have hframes : frames ≤ frames * s.frameSize := Nat.le_mul_of_pos_right frames hpos
  refine ⟨frames, hle, ?_, ?_, hposition⟩
  · rw [hbytes, Worker.toInt_reportedBytes hmax]
  · have hfits : (Int64.ofNat frames).toInt = frames := Int64.toInt_ofNat_of_lt (by omega)
    rw [hcount, Int64.toInt_add, hfits]
    exact Int.bmod_eq_of_le (by omega) (by omega)

section Burst

variable (s : Setup) (now : Nat) (b : Burst) (m : Moved) (w : Worker)

theorem counted_finishBurst_true (h : m.frames * s.frameSize ≤ min b.bytes s.bufferSize) :
    Counted s b.bytes w (w.finishBurst s now b m true).worker
      (w.finishBurst s now b m true).answer := by
  have hworker : (w.finishBurst s now b m true).worker.frameCount =
      (w.count m.frames).frameCount := by
    cases hm : m.failure with
    | none => rw [w.worker_finishBurst_of_success s now b m hm, Worker.frameCount_afterBurst]
    | some e => rw [w.worker_finishBurst_of_failure s now b m hm]
  refine ⟨m.frames, h, ?_, hworker, ?_⟩
  · simp [Handled.answer, Worker.reply_finishBurst]
  · rw [hworker]
    simp only [Handled.answer, Worker.reply_finishBurst]
    exact (w.count m.frames).position_eq now b.connected

theorem counted_finishBurst_false : Counted s b.bytes w (w.finishBurst s now b m false).worker
    (w.finishBurst s now b m false).answer := by
  cases hm : m.failure <;>
    exact .of_nothing (by simp [Worker.finishBurst, Handled.answer, hm])
      (by simp [Worker.finishBurst, hm, Worker.frameCount_afterBurst])
      (.inl (by simp [Worker.finishBurst, Handled.answer, hm]))

end Burst

namespace Bench

variable (s : Setup) (t : Turn) (bench : Bench)

/-- No more than the size of a transfer is moved by it. -/
theorem frames_transfer_mul_le_size (size : Nat) (w : Worker) :
    (transfer s t size w).moved.frames * s.frameSize ≤ size :=
  calc (transfer s t size w).moved.frames * s.frameSize
      ≤ s.frames size * s.frameSize := Nat.mul_le_mul_right _ (frames_transfer_le s t size w)
    _ ≤ size := s.frames_mul_le size

theorem frames_transfer_mul_le (w : Worker) {size asked : Nat}
    (h : size ≤ min asked s.bufferSize) :
    (transfer s t size w).moved.frames * s.frameSize ≤ min asked s.bufferSize :=
  Nat.le_trans (frames_transfer_mul_le_size s t size w) h

theorem counted_capture (bytes : Nat) :
    Counted s bytes bench.worker (bench.capture s t bytes).2.1.worker
      (bench.capture s t bytes).2.1.answer := by
  have hle := frames_transfer_mul_le s t bench.worker
    (s.captureSize_le bytes bench.data.writable)
  unfold capture
  dsimp only
  split
  · exact (counted_finishBurst_true s _ ⟨bytes, t.connected⟩ _ _ hle).congr
      (frameCount_transfer s t _ bench.worker)
  · exact (counted_finishBurst_false s _ ⟨bytes, t.connected⟩ _ _).congr
      (frameCount_transfer s t _ bench.worker)

theorem counted_playback (bytes : Nat) :
    Counted s bytes bench.worker (bench.playback s t bytes).2.1.worker
      (bench.playback s t bytes).2.1.answer := by
  unfold playback
  dsimp only
  split
  next taken data hread =>
    have hle := frames_transfer_mul_le s t (bench.worker.fill taken)
      (s.playbackSize_le bytes (s.playbackTake bench.data.readable))
    refine (counted_finishBurst_true s _ ⟨bytes, t.connected⟩ _ _ hle).congr ?_
    rw [frameCount_transfer, Worker.frameCount_fill]
  next => exact counted_finishBurst_false s _ ⟨bytes, t.connected⟩ _ _

theorem counted_burst (bytes : Nat) :
    Counted s bytes bench.worker (bench.burst s t bytes).2.1.worker
      (bench.burst s t bytes).2.1.answer := by
  unfold burst
  split
  · exact counted_capture s t bench bytes
  · exact counted_playback s t bench bytes

/-- Each command either is counted with its reply, or gets none and is not counted. -/
theorem handle_counted (command : Command) :
    (∃ r, (bench.handle s t command).2.reply = some r ∧
      Counted s command.asked bench.worker (bench.handle s t command).1.worker r) ∨
    ((bench.handle s t command).2.reply = none ∧
      (bench.handle s t command).1.worker.frameCount = bench.worker.frameCount) := by
  cases h : s.decide bench.worker.state command with
  | stop =>
    rw [handle_of_stop h]
    exact .inr ⟨rfl, rfl⟩
  | reject =>
    rw [handle_of_reject h]
    exact .inl ⟨_, rfl, .of_nothing rfl rfl (.inl rfl)⟩
  | refuse =>
    rw [handle_of_refuse h]
    exact .inl ⟨_, rfl, .of_nothing rfl rfl (.inl rfl)⟩
  | tell =>
    rw [handle_of_tell h]
    exact .inl ⟨_, rfl, .of_nothing rfl rfl (bench.worker.position_eq t.now t.connected)⟩
  | move next =>
    rw [handle_of_move h]
    refine .inl ⟨_, rfl, .of_nothing rfl (bench.worker.frameCount_enter t.now next) ?_⟩
    exact (bench.worker.enter t.now next).position_eq t.now t.connected
  | control call next =>
    rw [handle_of_control h]
    refine .inl ⟨_, rfl, ?_⟩
    cases (t.control call).answer with
    | ok done =>
      have hcount := bench.worker.frameCount_enter (t.now + (t.control call).duration) next
      refine .of_nothing rfl hcount ?_
      simp only [Worker.afterControl, hcount]
      exact bench.worker.position_eq _ t.connected
    | error e => exact .of_nothing rfl rfl (.inl rfl)
  | burst bytes =>
    rw [handle_of_burst h, s.asked_of_decide_burst h]
    exact .inl ⟨_, rfl, counted_burst s t bench bytes⟩

theorem frameCount_resolve (now : Nat) (w : Worker) :
    (w.resolve s now).1.frameCount = w.frameCount := by
  fun_cases Worker.resolve <;> rfl

/-- Each cycle either is counted with its reply, or gets none and is not counted. -/
theorem cycle_counted :
    (∃ command r, t.heard = some command ∧ (bench.cycle s t).2.reply = some r ∧
      Counted s command.asked bench.worker (bench.cycle s t).1.worker r) ∨
    ((bench.cycle s t).2.reply = none ∧
      (bench.cycle s t).1.worker.frameCount = bench.worker.frameCount) := by
  have hresolve := frameCount_resolve s t.begins bench.worker
  cases heard : t.heard with
  | none =>
    rw [cycle_of_unheard s bench heard]
    exact .inr ⟨rfl, hresolve⟩
  | some command =>
    rw [cycle_of_heard s bench heard]
    rcases handle_counted s t (bench.ready s t) command with ⟨r, hr, hcounted⟩ | ⟨hr, hcount⟩
    · exact .inl ⟨command, r, rfl, hr, hcounted.congr hresolve⟩
    · exact .inr ⟨hr, hcount.trans hresolve⟩

end Bench

/-! ## Bursts without a device -/

namespace Bench

variable {s : Setup} {t : Turn} {bench : Bench}

theorem byteCount_capture (bytes : Nat) (hc : t.connected = false)
    (hok : (bench.capture s t bytes).2.1.answer.status = .ok) :
    (bench.capture s t bytes).2.1.answer.byteCount = Worker.reportedBytes
      (s.frames (s.captureSize bytes bench.data.writable) * s.frameSize) := by
  have hmoved : (transfer s t (s.captureSize bytes bench.data.writable) bench.worker).moved =
      Moved.withoutDevice (s.frames (s.captureSize bytes bench.data.writable)) := by
    simp [transfer, hc, Worker.moved_withoutDevice]
  unfold capture at hok ⊢
  dsimp only at hok ⊢
  split at hok
  next => simp [Handled.answer, Worker.reply_finishBurst, hmoved, Moved.withoutDevice]
  next =>
    rw [hmoved] at hok
    simp [Worker.finishBurst, Handled.answer, Moved.withoutDevice] at hok

theorem byteCount_playback (bytes : Nat) (hc : t.connected = false)
    (hok : (bench.playback s t bytes).2.1.answer.status = .ok) :
    (bench.playback s t bytes).2.1.answer.byteCount = Worker.reportedBytes
      (s.frames (s.playbackSize bytes (s.playbackTake bench.data.readable)) * s.frameSize) := by
  have hmoved (size : Nat) (w : Worker) :
      (transfer s t size w).moved = Moved.withoutDevice (s.frames size) := by
    simp [transfer, hc, Worker.moved_withoutDevice]
  unfold playback at hok ⊢
  dsimp only at hok ⊢
  split at hok
  next => simp [Handled.answer, Worker.reply_finishBurst, hmoved, Moved.withoutDevice]
  next => simp [Worker.finishBurst, Handled.answer] at hok

theorem byteCount_burst (bytes : Nat) (hc : t.connected = false)
    (hok : (bench.burst s t bytes).2.1.answer.status = .ok) :
    (bench.burst s t bytes).2.1.answer.byteCount =
      Worker.reportedBytes (s.frames (s.burstSize bytes bench.data) * s.frameSize) := by
  cases hd : s.direction with
  | input =>
    simp only [burst, Setup.burstSize, hd] at hok ⊢
    exact byteCount_capture bytes hc hok
  | output =>
    simp only [burst, Setup.burstSize, hd] at hok ⊢
    exact byteCount_playback bytes hc hok

/-- Without a device a burst moves all the frames that it has the bytes or the room for. -/
theorem byteCount_cycle_of_disconnected {n : Int32} {r : Reply}
    (hsize : s.bufferSize ≤ Transport.maximumBytes) (heard : t.heard = some (.burst n))
    (hc : t.connected = false) (hr : (bench.cycle s t).2.reply = some r) (hok : r.status = .ok) :
    r.byteCount.toInt =
      (s.frames (s.burstSize n.toInt.toNat (bench.ready s t).data) * s.frameSize : Nat) := by
  rw [cycle_of_heard s bench heard] at hr
  generalize hready : bench.ready s t = ready at hr ⊢
  have hburst : r = (ready.burst s t n.toInt.toNat).2.1.answer := by
    rcases s.decide_of_burst ready.worker.state n with hd | hd | hd
    · rw [handle_of_reject hd] at hr
      cases hr
      cases hok
    · rw [handle_of_refuse hd] at hr
      cases hr
      cases hok
    · rw [handle_of_burst hd] at hr
      exact (Option.some.inj hr).symm
  have hbytes : r.byteCount = Worker.reportedBytes
      (s.frames (s.burstSize n.toInt.toNat ready.data) * s.frameSize) := by
    rw [hburst] at hok ⊢
    exact byteCount_burst _ hc hok
  have hle : s.frames (s.burstSize n.toInt.toNat ready.data) * s.frameSize ≤
      Transport.maximumBytes :=
    calc s.frames (s.burstSize n.toInt.toNat ready.data) * s.frameSize
        ≤ s.burstSize n.toInt.toNat ready.data := s.frames_mul_le _
      _ ≤ min n.toInt.toNat s.bufferSize := s.burstSize_le _ _
      _ ≤ s.bufferSize := Nat.min_le_right _ _
      _ ≤ Transport.maximumBytes := hsize
  rw [hbytes, Worker.toInt_reportedBytes hle]

end Bench

end AudioStream
