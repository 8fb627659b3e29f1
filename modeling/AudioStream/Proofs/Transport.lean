import AudioStream.Transport
import Mathlib.Algebra.Group.Nat.Defs

/-!
# What a transport that was set up holds

Setting up a transport checks the buffer that was asked for. What it returns has frames that are not
empty, a data queue for a whole number of them within the greatest size, and empty queues.
-/

namespace AudioStream

theorem DataQueue.eq_of_ofCapacity {capacity : Nat} {q : DataQueue}
    (h : DataQueue.ofCapacity capacity = .ok q) : q.capacity = capacity ∧ q.contents = [] := by
  unfold DataQueue.ofCapacity at h
  split at h
  · cases h
    exact ⟨rfl, rfl⟩
  · cases h

namespace Transport

/-- A transport as it comes from being set up. -/
structure IsFresh (t : Transport) : Prop where
  frameSize_pos : 0 < t.frameSize
  /-- The data queue holds whole frames. -/
  frameSize_dvd : t.frameSize ∣ t.data.capacity
  capacity_le : t.data.capacity ≤ maximumBytes
  data_empty : t.data.contents = []
  commands_eq : t.commands = .single
  replies_eq : t.replies = .single

theorem toInt_maximumFrames (frameSize : Nat) :
    (maximumFrames frameSize).toInt = (maximumBytes / frameSize : Nat) :=
  Int64.toInt_ofNat_of_lt (Nat.lt_of_le_of_lt (Nat.div_le_self _ _) (by decide))

theorem frames_le_of_le_maximumFrames {frameSize : Nat} {frames : Int64}
    (h : ¬ maximumFrames frameSize < frames) : frames.toInt.toNat ≤ maximumBytes / frameSize := by
  rw [Int64.lt_iff_toInt_lt, toInt_maximumFrames] at h
  exact Int.toNat_le.mpr (Int.not_lt.mp h)

/-- What is set up is the transport that was asked for. Its data queue holds as many frames as the
configuration says, which are not too many. -/
theorem exists_data_of_configure {config : StreamConfig} {debug : DebugParameters} {notifies : Bool}
    {t : Transport} (h : configure config debug notifies = .ok t) :
    ∃ data, t = { data, geometry := config.geometry, debug, notifies } ∧
      0 < config.geometry.frameSize ∧
      config.bufferFrames.toInt.toNat ≤ maximumBytes / config.geometry.frameSize ∧
      DataQueue.ofCapacity (config.geometry.frameSize * config.bufferFrames.toInt.toNat) = .ok data := by
  unfold configure at h
  by_cases hnonpos : config.bufferFrames ≤ 0
  · simp [hnonpos] at h
  by_cases hsmall : config.bufferFrames < minimumFrames
  · simp [hnonpos, hsmall] at h
  by_cases hframe : config.geometry.frameSize = 0
  · simp [hnonpos, hsmall, hframe] at h
  by_cases hlarge : maximumFrames config.geometry.frameSize < config.bufferFrames
  · simp [hnonpos, hsmall, hframe, hlarge] at h
  simp only [hnonpos, hsmall, hframe, hlarge, if_false] at h
  cases hdata : DataQueue.ofCapacity
      (config.geometry.frameSize * config.bufferFrames.toInt.toNat) with
  | error e =>
    rw [hdata] at h
    have herror : Except.error (Error.queue e) = Except.ok t := h
    cases herror
  | ok data =>
    rw [hdata] at h
    let fresh : Transport := { data, geometry := config.geometry, debug, notifies }
    have hfresh : (fresh.validate.mapError Error.transport >>= fun _ => .ok fresh) = .ok t := h
    -- Whatever validation says, only the transport itself can be returned.
    refine ⟨data, ?_, Nat.pos_of_ne_zero hframe, frames_le_of_le_maximumFrames hlarge, rfl⟩
    cases hv : fresh.validate with
    | error e =>
      rw [hv] at hfresh
      have herror : Except.error (Error.transport e) = Except.ok t := hfresh
      cases herror
    | ok valid =>
      rw [hv] at hfresh
      have hok : (.ok fresh : Except Error Transport) = .ok t := hfresh
      exact (Except.ok.inj hok).symm

section Configured

variable {config : StreamConfig} {debug : DebugParameters} {notifies : Bool} {t : Transport}
  (h : configure config debug notifies = .ok t)

include h

theorem notifies_of_configure : t.notifies = notifies := by
  obtain ⟨data, rfl, -⟩ := exists_data_of_configure h
  rfl

theorem debug_of_configure : t.debug = debug := by
  obtain ⟨data, rfl, -⟩ := exists_data_of_configure h
  rfl

theorem isFresh_of_configure : t.IsFresh := by
  obtain ⟨data, rfl, hpos, hle, hdata⟩ := exists_data_of_configure h
  obtain ⟨hcapacity, hempty⟩ := DataQueue.eq_of_ofCapacity hdata
  refine ⟨hpos, ?_, ?_, hempty, rfl, rfl⟩
  · exact hcapacity ▸ Nat.dvd_mul_right _ _
  · calc data.capacity = config.geometry.frameSize * config.bufferFrames.toInt.toNat := hcapacity
      _ ≤ config.geometry.frameSize * (maximumBytes / config.geometry.frameSize) :=
        Nat.mul_le_mul_left _ hle
      _ ≤ maximumBytes := Nat.mul_div_le _ _

end Configured

/-- A transport for 256 frames of four bytes. -/
def small : Transport where
  data := ⟨1024, [], by decide, by decide⟩
  geometry := ⟨.pcm16, .stereo, 48000⟩
  debug := {}
  notifies := false

theorem configure_small : configure { bufferFrames := 256 } {} false = .ok small := rfl

end Transport

end AudioStream
