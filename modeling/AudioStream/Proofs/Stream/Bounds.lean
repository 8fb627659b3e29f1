import AudioStream.Proofs.Configure
import AudioStream.Proofs.Stream.Sizes

/-!
# Nothing that a worker finds out is out of bounds

The driver may say that it has moved any number of frames, the client may ask for any number of bytes and do
what it likes to the data queue. Still the buffer has room for all that is used of it, frames are divided by a
size that is not zero, and what a machine finds out in words is what it should be. Only the counter of frames
could overflow, and no stream comes there in fewer than 2 ^ 43 bursts.

The main statement is `Stream.inBounds_of_follow`.
-/

namespace AudioStream

/-- The number of bytes that a client asks for, made a size. -/
def askedWord (n : Int32) : USize := n.toISize.toUSize

/-- The bytes of the buffer that a playback transfer gets, as a machine finds them out. -/
def Setup.playbackWord (s : Setup) (asked taken : USize) : USize :=
  let size := min (min asked taken) (USize.ofNat s.bufferSize)
  if s.shortBursts && USize.ofNat s.frameSize ≤ size then size - USize.ofNat s.frameSize else size

theorem toNat_askedWord {n : Int32} (h : 0 ≤ n) : (askedWord n).toNat = n.toInt.toNat := by
  have hint : n.toISize.toInt = n.toInt := n.toInt_toISize
  have hnonneg : (0 : ISize) ≤ n.toISize := by
    rw [ISize.le_iff_toInt_le, hint, ISize.toInt_zero]
    exact Int32.le_iff_toInt_le.mp h
  rw [askedWord, ISize.toNat_toUSize_of_le hnonneg, ISize.toNatClampNeg, hint]

theorem toNat_min (a b : USize) : (min a b).toNat = min a.toNat b.toNat := by
  change (if a ≤ b then a else b).toNat = min a.toNat b.toNat
  split
  next h => rw [Nat.min_eq_left (USize.le_iff_toNat_le.mp h)]
  next h =>
    rw [USize.le_iff_toNat_le] at h
    rw [Nat.min_eq_right (Nat.le_of_not_le h)]

theorem Setup.toNat_playbackWord {s : Setup} {asked taken : Nat} (hasked : asked < 2 ^ 32)
    (htaken : taken < 2 ^ 32) (hbuffer : s.bufferSize < 2 ^ 32) (hframe : s.frameSize < 2 ^ 32) :
    (s.playbackWord (USize.ofNat asked) (USize.ofNat taken)).toNat = s.playbackSize asked taken := by
  have hframe' : (USize.ofNat s.frameSize).toNat = s.frameSize := USize.toNat_ofNat_of_lt_32 hframe
  have hsize : (min (min (USize.ofNat asked) (USize.ofNat taken)) (USize.ofNat s.bufferSize)).toNat =
      min (min asked taken) s.bufferSize := by
    rw [toNat_min, toNat_min, USize.toNat_ofNat_of_lt_32 hasked, USize.toNat_ofNat_of_lt_32 htaken,
      USize.toNat_ofNat_of_lt_32 hbuffer]
  unfold playbackWord playbackSize
  dsimp only
  simp only [USize.le_iff_toNat_le, hsize, hframe']
  split
  next h =>
    simp only [Bool.and_eq_true, decide_eq_true_eq] at h
    rw [USize.toNat_sub_of_le _ _ (by rw [USize.le_iff_toNat_le, hsize, hframe']; exact h.2), hsize, hframe']
  next => exact hsize

/-- Frames that were moved lie in the buffer, and the words that a machine makes of their number are right. -/
structure Moved.Exact (s : Setup) (w : Worker) (m : Moved) : Prop where
  slice : m.frames * s.frameSize ≤ w.buffer.length
  bytes_word : (USize.ofNat m.frames * USize.ofNat s.frameSize).toNat = m.frames * s.frameSize
  frames_word : (Int64.ofNat m.frames).toInt = m.frames
  total : (w.count m.frames).frameCount.toInt = w.frameCount.toInt + m.frames
  told : (Worker.reportedBytes (m.frames * s.frameSize)).toInt = (m.frames * s.frameSize : Nat)

namespace Stream

/-- Whatever the worker is about to do, it finds out no wrong number and uses no byte that is not there. -/
structure InBounds (s : Stream) : Prop where
  frame_pos : 0 < s.setup.frameSize
  /-- A burst is carried out for a number that is not negative, and its size is that number. -/
  asked : ∀ command task burst, s.stage = .handling command task → task.burst? = some burst →
    ∃ n, command = .burst n ∧ 0 ≤ n ∧ (askedWord n).toNat = burst.bytes ∧ (burst.bytes : Int) = n.toInt
  used : ∀ command task, s.stage = .handling command task → s.setup.used task ≤ s.worker.buffer.length
  shortened : ∀ command burst count, s.stage = .handling command (.taking burst count) →
    (s.setup.playbackWord (USize.ofNat burst.bytes) (USize.ofNat count)).toNat =
      s.setup.playbackSize burst.bytes count
  /-- The driver is to move the whole frames in the part of the buffer that it is given. -/
  call : ∀ buffer frames, s.call? = some (.transfer buffer frames) →
    frames * s.setup.frameSize ≤ buffer.length ∧ buffer.length < (frames + 1) * s.setup.frameSize ∧
      buffer.length ≤ s.transport.data.capacity
  /-- Whatever the driver answers. -/
  moved : ∀ command burst size moved, s.stage = .handling command (.moving burst size) →
    s.Moves burst size moved → moved.2.Exact s.setup moved.1
  appended : ∀ command burst m, s.stage = .handling command (.appending burst m) →
    m.Exact s.setup s.worker

/-- A burst gets under way. -/
def begins (a b : Stream) : Bool := a.stage.burst?.isNone && b.stage.burst?.isSome

/-- The bursts that get under way in a schedule. -/
def bursts (a : Stream) : List Deed → Nat
  | [] => 0
  | d :: deeds =>
    match a.perform d with
    | some b => (if a.begins b then 1 else 0) + b.bursts deeds
    | none => 0

/-- A worker that has begun some bursts has counted what they can have moved at most. The one that is under way
has not been counted yet. -/
structure Tallied (begun : Nat) (s : Stream) : Prop where
  sized : s.Sized
  frame_pos : 0 < s.setup.frameSize
  frame_le : s.setup.frameSize ≤ 128
  buffer_le : s.setup.bufferSize ≤ 2 ^ 20
  nonneg : 0 ≤ s.worker.frameCount.toInt
  count_le : s.worker.frameCount.toInt + (if s.stage.burst?.isSome then 2 ^ 20 else 0) ≤ begun * 2 ^ 20

variable {a b s : Stream} {begun : Nat}

theorem Tallied.frames_le (h : Tallied begun s) {frames : Nat}
    (hbytes : frames * s.setup.frameSize ≤ s.setup.bufferSize) : frames ≤ 2 ^ 20 :=
  calc frames ≤ frames * s.setup.frameSize := Nat.le_mul_of_pos_right frames h.frame_pos
    _ ≤ s.setup.bufferSize := hbytes
    _ ≤ 2 ^ 20 := h.buffer_le

/-- The frames of one more burst can be counted. -/
theorem Tallied.toInt_add (h : Tallied begun s) (few : begun < 2 ^ 43) (busy : s.stage.burst?.isSome = true)
    {frames : Nat} (hbytes : frames * s.setup.frameSize ≤ s.setup.bufferSize) :
    (s.worker.frameCount + Int64.ofNat frames).toInt = s.worker.frameCount.toInt + frames := by
  have hframes := h.frames_le hbytes
  have hcount := h.count_le
  have hnonneg := h.nonneg
  rw [if_pos busy] at hcount
  rw [Int64.toInt_add, Int64.toInt_ofNat_of_lt (by omega)]
  exact Int.bmod_eq_of_le (by omega) (by omega)

theorem Tallied.exact (h : Tallied begun s) (few : begun < 2 ^ 43) (busy : s.stage.burst?.isSome = true)
    {w : Worker} {m : Moved} (hbuffer : w.buffer.length = s.worker.buffer.length)
    (hcount : w.frameCount = s.worker.frameCount)
    (hbytes : m.frames * s.setup.frameSize ≤ s.setup.bufferSize) : m.Exact s.setup w := by
  have hsmall : m.frames * s.setup.frameSize ≤ 2 ^ 20 := Nat.le_trans hbytes h.buffer_le
  have hframes := h.frames_le hbytes
  exact {
    slice := by rwa [hbuffer, h.sized.buffer]
    bytes_word := toNat_ofNat_mul_ofNat (by omega)
    frames_word := Int64.toInt_ofNat_of_lt (by omega)
    total := by
      rw [Worker.count, hcount]
      exact h.toInt_add few busy hbytes
    told := Worker.toInt_reportedBytes hsmall }

theorem Tallied.inBounds (h : Tallied begun s) (few : begun < 2 ^ 43) : s.InBounds where
  frame_pos := h.frame_pos
  asked command task burst hs hburst := by
    obtain ⟨n, hcommand, hn, hbytes⟩ := h.sized.asked command task burst hs hburst
    have hnonneg : 0 ≤ n.toInt := Int32.le_iff_toInt_le.mp hn
    exact ⟨n, hcommand, hn, by rw [toNat_askedWord hn, hbytes], by omega⟩
  used command task hs := by
    rw [h.sized.buffer]
    exact h.sized.used command task hs
  shortened command burst count hs := by
    obtain ⟨n, -, -, hbytes⟩ := h.sized.asked _ _ burst hs rfl
    have hbuffer := h.buffer_le
    have hframe := h.frame_le
    have hcount : count ≤ s.setup.bufferSize := h.sized.used _ _ hs
    have hn : n.toInt < 2 ^ 31 := n.toInt_lt
    exact Setup.toNat_playbackWord (by omega) (by omega) (by omega) (by omega)
  call buffer frames hcall := by
    unfold call? at hcall
    split at hcall
    next command burst size hs =>
      split at hcall <;> cases hcall
      have hsize : size ≤ s.setup.bufferSize := h.sized.used _ _ hs
      have hlength : (s.worker.buffer.take size).length = size := by
        rw [List.length_take, h.sized.buffer, Nat.min_eq_left hsize]
      rw [hlength, h.sized.capacity]
      exact ⟨s.setup.frames_mul_le size, (Nat.div_lt_iff_lt_mul h.frame_pos).mp (Nat.lt_succ_self _), hsize⟩
    next => cases hcall
    next => cases hcall
  moved command burst size moved hs moves :=
    h.exact few (by rw [hs]; rfl) moves.length_buffer moves.frameCount
      (Nat.le_trans moves.frames_mul_le (h.sized.used _ _ hs))
  appended command burst m hs := h.exact few (by rw [hs]; rfl) rfl rfl (h.sized.used _ _ hs)

/-! ## Runs -/

/-- A step that counts nothing. -/
theorem Tallied.stay (h : Tallied begun a) (hstep : a.Works b ∨ a.Outside b)
    (hcount : b.worker.frameCount = a.worker.frameCount) :
    Tallied (begun + if a.begins b then 1 else 0) b := by
  have hsetup := setup_of_step hstep
  refine ⟨sized_step h.sized hstep, hsetup ▸ h.frame_pos, hsetup ▸ h.frame_le, hsetup ▸ h.buffer_le,
    hcount ▸ h.nonneg, ?_⟩
  have hle := h.count_le
  rw [hcount]
  cases ha : a.stage.burst? <;> cases hb : b.stage.burst? <;> simp [begins, ha, hb] at hle ⊢ <;> omega

theorem tallied_step (h : Tallied begun a) (few : begun < 2 ^ 43) (hstep : a.Works b ∨ a.Outside b) :
    Tallied (begun + if a.begins b then 1 else 0) b := by
  rcases hstep with hworks | hout
  · rcases (acts_of_works hworks).counts with
      hcount | ⟨command, task, frames, hs, hburst, hidle, hbytes, hcount⟩
    · exact h.stay (.inl hworks) hcount
    · -- The end of a burst: its frames take the room that was kept for them.
      have hsetup := setup_of_step (.inl hworks)
      have hbusy : a.stage.burst?.isSome = true := by rw [hs]; exact hburst
      have hbytes' := Nat.le_trans hbytes (h.sized.used command task hs)
      have hframes := h.frames_le hbytes'
      have hsum := h.toInt_add few hbusy hbytes'
      have hnonneg := h.nonneg
      have hle := h.count_le
      rw [if_pos hbusy] at hle
      refine ⟨sized_step h.sized (.inl hworks), hsetup ▸ h.frame_pos, hsetup ▸ h.frame_le,
        hsetup ▸ h.buffer_le, ?_, ?_⟩
      · rw [hcount, hsum]
        omega
      · rw [hcount, hsum, hidle]
        simp [begins, hidle]
        omega
  · exact h.stay (.inr hout) (congrArg Worker.frameCount hout.leaves.worker)

theorem tallied_of_follow {deeds : List Deed} (h : Tallied begun a) (few : begun + a.bursts deeds < 2 ^ 43)
    (hfollow : a.follow deeds = some b) : Tallied (begun + a.bursts deeds) b := by
  induction deeds generalizing a begun with
  | nil =>
    cases hfollow
    exact h
  | cons d deeds ih =>
    obtain ⟨c, hc, hrest⟩ := Option.bind_eq_some_iff.mp hfollow
    have hbursts : a.bursts (d :: deeds) = (if a.begins c then 1 else 0) + c.bursts deeds := by
      rw [bursts, hc]
    rw [hbursts, ← Nat.add_assoc] at few ⊢
    exact ih (tallied_step h (by omega) (exists_perform_iff.mp ⟨d, hc⟩)) few hrest

theorem tallied_opened {config : StreamConfig} {debug : DebugParameters} {notifies : Bool} {t : Transport}
    (h : Transport.configure config debug notifies = .ok t) (direction : Direction) (cookie : Int32)
    (microphones : List (Device × String)) : Tallied 0 (Stream.opened direction t cookie microphones) where
  sized := sized_opened direction t cookie microphones
  frame_pos := (Transport.isFresh_of_configure h).frameSize_pos
  frame_le := t.geometry.frameSize_le
  buffer_le := by
    have hcapacity := (sized_opened direction t cookie microphones).capacity
    rw [← hcapacity]
    exact (Transport.isFresh_of_configure h).capacity_le
  nonneg := Int.le_refl 0
  count_le := Int.le_refl 0

/-- Whatever a client, a driver and the others do to a stream that was set up for any buffer, for any number of
bytes in a command and any answer of the driver, the worker uses no byte that its buffer does not have, divides
by no zero, and is wrong about no number, as long as it has not begun 2 ^ 43 bursts. -/
theorem inBounds_of_follow {config : StreamConfig} {debug : DebugParameters} {notifies : Bool} {t : Transport}
    (h : Transport.configure config debug notifies = .ok t) (direction : Direction) (cookie : Int32)
    (microphones : List (Device × String)) (deeds : List Deed) (s : Stream)
    (hs : (Stream.opened direction t cookie microphones).follow deeds = some s)
    (few : (Stream.opened direction t cookie microphones).bursts deeds < 2 ^ 43) : s.InBounds := by
  have htally := tallied_opened h direction cookie microphones
  exact (tallied_of_follow htally (by omega) hs).inBounds (by omega)

/-- A client asks for more bytes than there are, and the driver says that it has moved all the frames that a
word can tell of. -/
def boast : List Deed :=
  [.setConnected true, .post .start, .work { now := 0 }, .work { now := 0 }, .work { now := 0 },
    .work { now := 0 }, .work { now := 0 }, .tryReadReply, .post (.burst 2147483647), .work { now := 0 },
    .work { now := 0 }, .work { now := 0 }, .work { now := 0 }, .work { now := 0 },
    .endTransfer { now := 0 } ⟨List.replicate 5 1, .ok ⟨2 ^ 64 - 1, 5⟩⟩]

theorem inBounds_of_follow_boast :
    Transport.configure { bufferFrames := 256 } {} false = .ok .small ∧
    (Stream.opened .input .small 7 []).bursts boast < 2 ^ 43 ∧
    ∃ s burst m, (Stream.opened .input .small 7 []).follow boast = some s ∧
      s.stage = .handling (.burst 2147483647) (.appending burst m) ∧ m.frames = 256 ∧ s.InBounds := by
  have few : (Stream.opened .input .small 7 []).bursts boast < 2 ^ 43 := by decide +kernel
  obtain ⟨s, burst, m, hs, hstage, hframes⟩ : ∃ s burst m,
      (Stream.opened .input .small 7 []).follow boast = some s ∧
        s.stage = .handling (.burst 2147483647) (.appending burst m) ∧ m.frames = 256 :=
    ⟨_, _, _, rfl, rfl, rfl⟩
  exact ⟨Transport.configure_small, few, s, burst, m, hs, hstage, hframes,
    inBounds_of_follow Transport.configure_small .input 7 [] boast s hs few⟩

end Stream

end AudioStream
