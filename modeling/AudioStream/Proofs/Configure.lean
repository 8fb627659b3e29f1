import AudioStream.Proofs.Transport
import AudioStream.Stream.Basic
import Mathlib.Algebra.Group.Int.Defs

/-!
# The buffers that a transport can be set up for

A transport can be set up for a buffer of at least 256 frames that are not empty and that take at most
2 ^ 20 bytes. Anything else is refused, for the first reason in a fixed order. A machine finds out the
size of the buffer in several places, each time in words, and does not lose a digit in any of them.
-/

namespace AudioStream

theorem SampleFormat.bytesPerSample_le (f : SampleFormat) : f.bytesPerSample ≤ 4 := by
  cases f <;> decide

theorem bitCount_le (bits : UInt32) : bitCount bits ≤ 32 :=
  calc bitCount bits ≤ (List.range 32).length := List.length_filter_le _ _
    _ = 32 := List.length_range

theorem ChannelLayout.channelCount_le (l : ChannelLayout) : l.channelCount ≤ 32 := by
  cases l with
  | mask bits => exact bitCount_le bits
  | indexMask bits => exact bitCount_le bits
  | _ => decide

theorem Geometry.frameSize_le (g : Geometry) : g.frameSize ≤ 128 :=
  Nat.mul_le_mul g.format.bytesPerSample_le g.layout.channelCount_le

/-! ## In words of a machine -/

/-- On every machine a word that is a size has at least 32 bits. -/
theorem toNat_ofNat_mul_ofNat {a b : Nat} (h : a * b < 2 ^ 32) :
    (USize.ofNat a * USize.ofNat b).toNat = a * b := by
  rw [← USize.ofNat_mul]
  exact USize.toNat_ofNat_of_lt_32 h

/-- The size of a frame, as a machine multiplies it. -/
def Geometry.frameWord (g : Geometry) : USize :=
  USize.ofNat g.format.bytesPerSample * USize.ofNat g.layout.channelCount

theorem Geometry.toNat_frameWord (g : Geometry) : g.frameWord.toNat = g.frameSize :=
  toNat_ofNat_mul_ofNat (Nat.lt_of_le_of_lt g.frameSize_le (by decide))

namespace StreamConfig

/-- The number of frames that is asked for, made a size. -/
def framesWord (c : StreamConfig) : USize := c.bufferFrames.toUInt64.toUSize

/-- The greatest number of frames, as a machine divides. -/
def maximumWord (c : StreamConfig) : Int64 :=
  (USize.ofNat Transport.maximumBytes / c.geometry.frameWord).toUInt64.toInt64

theorem toInt_maximumWord (c : StreamConfig) :
    c.maximumWord.toInt = (Transport.maximumBytes / c.geometry.frameSize : Nat) := by
  have hmaximum : (USize.ofNat Transport.maximumBytes).toNat = Transport.maximumBytes :=
    USize.toNat_ofNat_of_lt_32 (by decide)
  have hword : c.maximumWord = Transport.maximumFrames c.geometry.frameSize := by
    rw [maximumWord, ← UInt64.ofNat_toNat (x := USize.toUInt64 _), UInt64.toInt64_ofNat',
      USize.toNat_toUInt64, USize.toNat_div, hmaximum, Geometry.toNat_frameWord, Transport.maximumFrames]
  rw [hword, Transport.toInt_maximumFrames]

theorem toNat_framesWord {c : StreamConfig} (hnonneg : 0 ≤ c.bufferFrames.toInt)
    (hle : c.bufferFrames.toInt ≤ 2 ^ 20) : c.framesWord.toNat = c.bufferFrames.toInt.toNat := by
  have hfits : c.bufferFrames.toInt.toNat < 2 ^ 32 := by omega
  have hword : c.bufferFrames.toUInt64.toNat = c.bufferFrames.toInt.toNat :=
    Int64.toNat_toUInt64_of_le (Int64.le_iff_toInt_le.mpr hnonneg)
  change (USize.ofNat c.bufferFrames.toUInt64.toNat).toNat = _
  rw [hword, USize.toNat_ofNat_of_lt_32 hfits]

end StreamConfig

namespace Transport

/-- The transport that a configuration asks for, in the whole and in each number that is found out on the
way. Sizes of the machine are compared with the numbers that they stand for. -/
structure Suits (t : Transport) (config : StreamConfig) : Prop where
  valid : t.isValid = true
  capacity : (t.data.capacity : Int) = config.bufferFrames.toInt * config.geometry.frameSize
  described : t.describe.bufferBytes = t.data.capacity
  /-- The buffer of the worker, once its stream is open. -/
  scratch : ∀ direction cookie microphones,
    (Stream.opened direction t cookie microphones).worker.buffer.length = t.data.capacity
  frames : (t.bufferFrames : Int) = config.bufferFrames.toInt
  frames_described : t.describe.bufferFrames = t.bufferFrames
  frame_word : config.geometry.frameWord.toNat = t.frameSize
  maximum_word : config.maximumWord.toInt = (2 ^ 20 / config.geometry.frameSize : Nat)
  frames_word : (config.framesWord.toNat : Int) = config.bufferFrames.toInt
  capacity_word : (config.geometry.frameWord * config.framesWord).toNat = t.data.capacity
  quanta_word : (USize.ofNat t.data.quantumCount * USize.ofNat DataQueue.quantumSize).toNat = t.data.capacity
  described_word :
    (USize.ofNat t.describe.frameSize * USize.ofNat t.describe.bufferFrames).toNat = t.data.capacity

/-- What is asked of a configuration: enough frames, none of them empty, and not too many bytes. -/
structure Usable (config : StreamConfig) : Prop where
  enough : 256 ≤ config.bufferFrames.toInt
  nonempty : 0 < config.geometry.frameSize
  fits : config.bufferFrames.toInt * config.geometry.frameSize ≤ 2 ^ 20

namespace Usable

variable {config : StreamConfig}

theorem frames_le (h : Usable config) : config.bufferFrames.toInt ≤ 2 ^ 20 := by
  have hnonneg : 0 ≤ config.bufferFrames.toInt := Int.le_trans (by decide) h.enough
  calc config.bufferFrames.toInt
      = config.bufferFrames.toInt * 1 := (Int.mul_one _).symm
    _ ≤ config.bufferFrames.toInt * config.geometry.frameSize :=
        Int.mul_le_mul_of_nonneg_left (by exact_mod_cast h.nonempty) hnonneg
    _ ≤ 2 ^ 20 := h.fits

theorem cast_capacity (h : Usable config) :
    ((config.geometry.frameSize * config.bufferFrames.toInt.toNat : Nat) : Int) =
      config.bufferFrames.toInt * config.geometry.frameSize := by
  have hframes : (config.bufferFrames.toInt.toNat : Int) = config.bufferFrames.toInt :=
    Int.toNat_of_nonneg (by have := h.enough; omega)
  rw [Int.natCast_mul, hframes, Int.mul_comm]

theorem capacity_le (h : Usable config) :
    config.geometry.frameSize * config.bufferFrames.toInt.toNat ≤ 2 ^ 20 := by
  have hfits := h.fits
  rw [← h.cast_capacity] at hfits
  exact_mod_cast hfits

end Usable

theorem suits_of_capacity {config : StreamConfig} {t : Transport} (h : Usable config)
    (hgeometry : t.geometry = config.geometry) (hcommands : t.commands = .single)
    (hreplies : t.replies = .single)
    (hcapacity : t.data.capacity = config.geometry.frameSize * config.bufferFrames.toInt.toNat) :
    t.Suits config := by
  have hsize : t.frameSize = config.geometry.frameSize := congrArg Geometry.frameSize hgeometry
  have hpos : t.frameSize ≠ 0 := by have := h.nonempty; omega
  have hframes : (config.bufferFrames.toInt.toNat : Int) = config.bufferFrames.toInt :=
    Int.toNat_of_nonneg (by have := h.enough; omega)
  have hquanta : t.data.quantumCount * DataQueue.quantumSize = t.data.capacity := by
    rw [DataQueue.quantumCount, DataQueue.quantumSize, Nat.div_one, Nat.mul_one]
  have hbuffer : t.bufferFrames = config.bufferFrames.toInt.toNat := by
    rw [bufferFrames, if_neg hpos, hquanta, hcapacity, hsize, Nat.mul_div_cancel_left _ h.nonempty]
  have hbytes : t.frameSize * t.bufferFrames = t.data.capacity := by rw [hbuffer, hsize, hcapacity]
  have hwide : t.data.capacity < 2 ^ 32 := by
    rw [hcapacity]
    exact Nat.lt_of_le_of_lt h.capacity_le (by decide)
  have hword := StreamConfig.toNat_framesWord (c := config) (by have := h.enough; omega) h.frames_le
  exact {
    valid := by
      have hdvd : t.data.capacity % t.frameSize = 0 := by rw [hcapacity, hsize, Nat.mul_mod_right]
      have hdata : t.data.isValid = true := by simpa [DataQueue.isValid] using t.data.capacity_pos
      simp [isValid, validate, hcommands, hreplies, hpos, hdata, hdvd, MessageQueue.isValid,
        MessageQueue.single]
    capacity := by rw [hcapacity, h.cast_capacity]
    described := hbytes
    scratch := fun direction cookie microphones => by
      simp only [Stream.opened, Worker.initial, Setup.ofTransport, List.length_replicate, hquanta]
    frames := by rw [hbuffer, hframes]
    frames_described := rfl
    frame_word := by rw [Geometry.toNat_frameWord, hsize]
    maximum_word := StreamConfig.toInt_maximumWord config
    frames_word := by rw [hword, hframes]
    capacity_word := by
      have hproduct : config.geometry.frameWord * config.framesWord =
          USize.ofNat config.geometry.frameSize * USize.ofNat config.bufferFrames.toInt.toNat := by
        rw [← hword, ← Geometry.toNat_frameWord, USize.ofNat_toNat, USize.ofNat_toNat]
      rw [hproduct, toNat_ofNat_mul_ofNat (hcapacity ▸ hwide), hcapacity]
    quanta_word := by rw [toNat_ofNat_mul_ofNat (hquanta ▸ hwide), hquanta]
    described_word := by
      change (USize.ofNat t.frameSize * USize.ofNat t.bufferFrames).toNat = _
      rw [toNat_ofNat_mul_ofNat (hbytes ▸ hwide), hbytes] }

/-! ## Setting up -/

theorem validate_of_isValid {t : Transport} (h : t.isValid = true) : t.validate = .ok () := by
  unfold isValid at h
  split at h
  · assumption
  · contradiction

theorem le_zero_iff {frames : Int64} : frames ≤ 0 ↔ frames.toInt ≤ 0 := Int64.le_iff_toInt_le

theorem lt_minimumFrames_iff {frames : Int64} : frames < minimumFrames ↔ frames.toInt < 256 :=
  Int64.lt_iff_toInt_lt

theorem maximumFrames_lt_iff {frameSize : Nat} {frames : Int64} (h : 0 < frameSize) :
    maximumFrames frameSize < frames ↔ 2 ^ 20 < frames.toInt * frameSize := by
  rw [Int64.lt_iff_toInt_lt, toInt_maximumFrames, Int.natCast_ediv,
    Int.ediv_lt_iff_lt_mul (by exact_mod_cast h)]
  rfl

variable {config : StreamConfig} {debug : DebugParameters} {notifies : Bool}

theorem configure_of_nonpos (h : config.bufferFrames.toInt ≤ 0) :
    configure config debug notifies =
      .error (.transport (.nonPositiveBufferSize config.bufferFrames)) := by
  simp only [configure, le_zero_iff, h, if_true]

theorem configure_of_few (hpos : 0 < config.bufferFrames.toInt) (h : config.bufferFrames.toInt < 256) :
    configure config debug notifies =
      .error (.transport (.bufferTooSmall config.bufferFrames minimumFrames)) := by
  simp only [configure, le_zero_iff, lt_minimumFrames_iff, Int.not_le.mpr hpos, h, if_false, if_true]

theorem configure_of_empty (hframes : 256 ≤ config.bufferFrames.toInt)
    (h : config.geometry.frameSize = 0) :
    configure config debug notifies = .error (.transport .invalidFrameSize) := by
  have hpos : ¬ config.bufferFrames.toInt ≤ 0 := by omega
  simp only [configure, le_zero_iff, lt_minimumFrames_iff, hpos, Int.not_lt.mpr hframes, h, if_false, if_true]

theorem configure_of_large (hframes : 256 ≤ config.bufferFrames.toInt)
    (hsize : 0 < config.geometry.frameSize)
    (h : 2 ^ 20 < config.bufferFrames.toInt * config.geometry.frameSize) :
    configure config debug notifies = .error (.transport
      (.bufferTooLarge config.bufferFrames (maximumFrames config.geometry.frameSize))) := by
  have hpos : ¬ config.bufferFrames.toInt ≤ 0 := by omega
  simp only [configure, le_zero_iff, lt_minimumFrames_iff, maximumFrames_lt_iff hsize, hpos,
    Int.not_lt.mpr hframes, Nat.ne_of_gt hsize, h, if_false, if_true]

theorem configure_of_usable (h : Usable config) :
    ∃ t, configure config debug notifies = .ok t ∧ t.Suits config := by
  have hframes := h.enough
  have hpos : ¬ config.bufferFrames.toInt ≤ 0 := by omega
  have hcapacity : 0 < config.geometry.frameSize * config.bufferFrames.toInt.toNat :=
    Nat.mul_pos h.nonempty (by omega)
  let t : Transport :=
    { data := { capacity := _, capacity_pos := hcapacity }, geometry := config.geometry, debug, notifies }
  have hsuits : t.Suits config := suits_of_capacity h rfl rfl rfl rfl
  refine ⟨t, ?_, hsuits⟩
  simp only [configure, le_zero_iff, lt_minimumFrames_iff, maximumFrames_lt_iff h.nonempty, hpos,
    Int.not_lt.mpr hframes, Nat.ne_of_gt h.nonempty, Int.not_lt.mpr h.fits, if_false,
    DataQueue.ofCapacity, dif_pos hcapacity]
  change (t.validate.mapError Error.transport >>= fun _ => .ok t) = .ok t
  rw [validate_of_isValid hsuits.valid]
  rfl

theorem usable_of_configure {t : Transport} (h : configure config debug notifies = .ok t) :
    Usable config := by
  have hpos : 0 < config.bufferFrames.toInt := Int.not_le.mp fun hnonpos => by
    rw [configure_of_nonpos hnonpos] at h
    cases h
  have hframes : 256 ≤ config.bufferFrames.toInt := Int.not_lt.mp fun hfew => by
    rw [configure_of_few hpos hfew] at h
    cases h
  have hsize : 0 < config.geometry.frameSize := Nat.pos_of_ne_zero fun hempty => by
    rw [configure_of_empty hframes hempty] at h
    cases h
  have hfits : config.bufferFrames.toInt * config.geometry.frameSize ≤ 2 ^ 20 :=
    Int.not_lt.mp fun hlarge => by
      rw [configure_of_large hframes hsize hlarge] at h
      cases h
  exact ⟨hframes, hsize, hfits⟩

/-- The least buffer fits whatever its frames are, for no frame is larger than 128 bytes. -/
theorem usable_of_nonempty (h : 0 < config.geometry.frameSize) :
    Usable { config with bufferFrames := minimumFrames } where
  enough := Int.le_refl 256
  nonempty := h
  fits := by
    have hle : config.geometry.frameSize ≤ 128 := config.geometry.frameSize_le
    change 256 * ((config.geometry.frameSize : Nat) : Int) ≤ 2 ^ 20
    omega

/-- A transport is set up for the usable buffers and for no others. What is refused is refused for the
first thing that is wrong with it, and what is set up is what was asked for. -/
theorem configure_outcome (config : StreamConfig) (debug : DebugParameters) (notifies : Bool) :
    let frames := config.bufferFrames.toInt
    let frameSize := config.geometry.frameSize
    let result := configure config debug notifies
    ((∃ t, result = .ok t) ↔ 256 ≤ frames ∧ 0 < frameSize ∧ frames * frameSize ≤ 2 ^ 20) ∧
    (∀ t, result = .ok t → t.Suits config) ∧
    (frames ≤ 0 → result = .error (.transport (.nonPositiveBufferSize config.bufferFrames))) ∧
    (0 < frames → frames < 256 →
      result = .error (.transport (.bufferTooSmall config.bufferFrames 256))) ∧
    (256 ≤ frames → frameSize = 0 → result = .error (.transport .invalidFrameSize)) ∧
    (256 ≤ frames → 0 < frameSize → 2 ^ 20 < frames * frameSize →
      ∃ maximum : Int64, maximum.toInt = (2 ^ 20 / frameSize : Nat) ∧
        result = .error (.transport (.bufferTooLarge config.bufferFrames maximum))) ∧
    (0 < frameSize → ∃ frames t,
      configure { config with bufferFrames := frames } debug notifies = .ok t) := by
  refine ⟨⟨?accepted, ?accepts⟩, ?suits, configure_of_nonpos, configure_of_few, configure_of_empty,
    ?large, ?admits⟩
  case accepted =>
    rintro ⟨t, ht⟩
    have h := usable_of_configure ht
    exact ⟨h.enough, h.nonempty, h.fits⟩
  case accepts =>
    rintro ⟨henough, hnonempty, hfits⟩
    obtain ⟨t, ht, _⟩ := configure_of_usable ⟨henough, hnonempty, hfits⟩
    exact ⟨t, ht⟩
  case suits =>
    intro t ht
    obtain ⟨t', ht', hsuits⟩ := configure_of_usable (usable_of_configure ht)
    have heq : t' = t := Except.ok.inj (ht'.symm.trans ht)
    exact heq ▸ hsuits
  case large =>
    intro henough hnonempty hlarge
    exact ⟨_, toInt_maximumFrames _, configure_of_large henough hnonempty hlarge⟩
  case admits =>
    intro hnonempty
    obtain ⟨t, ht, _⟩ := configure_of_usable (usable_of_nonempty hnonempty)
    exact ⟨minimumFrames, t, ht⟩

/-- Frames of 32 channels and four bytes in a buffer of the greatest size, and one frame more. -/
theorem configure_outcome_widest :
    let widest : StreamConfig := { format := .pcm32, layout := .indexMask 0xffffffff, bufferFrames := 8192 }
    (∃ t, configure widest {} true = .ok t ∧ t.Suits widest) ∧
    configure { widest with bufferFrames := 8193 } {} true =
      .error (.transport (.bufferTooLarge 8193 8192)) := by
  intro widest
  obtain ⟨hok, hsuits, -⟩ := configure_outcome widest {} true
  obtain ⟨-, -, -, -, -, hlarge, -⟩ := configure_outcome { widest with bufferFrames := 8193 } {} true
  constructor
  · obtain ⟨t, ht⟩ := hok.mpr (by decide)
    exact ⟨t, ht, hsuits t ht⟩
  · obtain ⟨maximum, hmaximum, hresult⟩ := hlarge (by decide) (by decide) (by decide)
    have height : maximum = 8192 := Int64.toInt.inj (hmaximum.trans (by decide))
    exact height ▸ hresult

end Transport

end AudioStream
