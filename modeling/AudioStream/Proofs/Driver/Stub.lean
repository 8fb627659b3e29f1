import AudioStream.Driver.Stub
import AudioStream.Proofs.Configure

/-!
# What a stub driver makes of its buffer

A stub multiplies two words of 64 bits to find out how many bytes its frames take up. The frames of a stream
take up 128 bytes at most, so up to 2 ^ 57 frames the product is exact, whatever the build. Beyond that a build
in which products wrap can find too few bytes: then the stub tells of frames that were never there. A build that
checks its products stops instead. Neither refuses the frames, as it should.

The main statement is `Stub.answers_word`.
-/

namespace AudioStream

namespace Stub

variable {d : Stub} {buffer : List UInt8} {frames count : Nat}

theorem frameSize_transferred (d : Stub) (buffer : List UInt8) (frames : Nat) :
    (d.transferred buffer frames).2.frameSize = d.frameSize := by
  unfold transferred answered
  split
  · rfl
  · split <;> rfl

theorem result_answered (h : count ≤ buffer.length) :
    (d.answered buffer frames count).1.result = .ok ⟨frames, nominalLatency⟩ := by
  simp only [answered, if_neg (Nat.not_lt.mpr h)]
  split <;> rfl

/-- A stub moves all the frames that its buffer has room for. -/
theorem result_transferred {d : Stub} {buffer : List UInt8} {frames : Nat}
    (hroom : frames * d.frameSize ≤ buffer.length) :
    (d.transferred buffer frames).1.result = .ok ⟨frames, nominalLatency⟩ :=
  result_answered (Nat.le_trans (Nat.mod_le _ _) hroom)

theorem attempt_wraps (d : Stub) (buffer : List UInt8) (frames : Nat) :
    d.attempt .wraps buffer frames =
      some ((d.transferred buffer frames).1, (d.transferred buffer frames).2) := rfl

/-- All builds do the same if the bytes of the frames need no more than a word. -/
theorem attempt_of_lt (o : Overflow) (hfits : frames * d.frameSize < UInt64.size) :
    d.attempt o buffer frames = some (d.transferred buffer frames) := by
  cases o with
  | stops =>
    rw [attempt, Overflow.product, if_pos hfits, transferred, Nat.mod_eq_of_lt hfits]
    rfl
  | wraps => rfl

/-- A build that checks its products stops if the bytes of the frames need more than a word. -/
theorem attempt_stops (d : Stub) (buffer : List UInt8) (frames : Nat) :
    d.attempt .stops buffer frames =
      if frames * d.frameSize < UInt64.size then some (d.transferred buffer frames) else none := by
  split
  next hfits => exact attempt_of_lt .stops hfits
  next hlarge => rw [attempt, Overflow.product, if_neg hlarge, Option.map_none]

/-- Noise is never the byte 255. -/
theorem lt_of_mem_noiseBytes (n : Nat) (x : UInt32) {bytes : List UInt8} (h : ∀ b ∈ bytes, b < 255) :
    ∀ b ∈ (noiseBytes n x bytes).1, b < 255 := by
  induction n generalizing x bytes with
  | zero => exact h
  | succ n ih =>
    apply ih
    intro b hb
    rcases List.mem_cons.mp hb with rfl | hold
    · have hless : (nextNoise x).toNat % 255 < 255 := Nat.mod_lt _ (by decide)
      rw [UInt8.lt_iff_toNat_lt, UInt8.toNat_ofNat_of_lt' (Nat.lt_trans hless (by decide))]
      exact hless
    · exact h b hold

/-- What a transfer of frames that take up `count` bytes is to leave behind. -/
structure Answers (d : Stub) (buffer : List UInt8) (frames count : Nat) (answer : TransferAnswer) :
    Prop where
  refused : answer.result = .error (.bufferTooSmall (UInt64.ofNat frames) (UInt64.ofNat buffer.length)) ↔
    buffer.length < count
  kept : buffer.length < count → answer.buffer = buffer
  moved : count ≤ buffer.length → answer.result = .ok ⟨frames, nominalLatency⟩
  captured : d.isInput = true → count ≤ buffer.length →
    ∃ noise, noise.length = count ∧ (∀ b ∈ noise, b < 255) ∧ answer.buffer = noise ++ buffer.drop count
  played : d.isInput = false → answer.buffer = buffer

/-- A stub goes by the bytes that it has found the frames to take up. -/
theorem answers_answered (d : Stub) (buffer : List UInt8) (frames count : Nat) :
    d.Answers buffer frames count (d.answered buffer frames count).1 := by
  by_cases hshort : buffer.length < count
  · have hrefused : (d.answered buffer frames count).1 =
        ⟨buffer, .error (.bufferTooSmall (UInt64.ofNat frames) (UInt64.ofNat buffer.length))⟩ := by
      simp only [answered, if_pos hshort]
    rw [hrefused]
    exact {
      refused := iff_of_true rfl hshort
      kept := fun _ => rfl
      moved := fun hle => absurd hshort (Nat.not_lt.mpr hle)
      captured := fun _ hle => absurd hshort (Nat.not_lt.mpr hle)
      played := fun _ => rfl }
  · have hresult : (d.answered buffer frames count).1.result = .ok ⟨frames, nominalLatency⟩ :=
      result_answered (Nat.le_of_not_lt hshort)
    exact {
      refused := by simp [hresult, hshort]
      kept := fun h => absurd h hshort
      moved := fun _ => hresult
      captured := fun hinput _ => by
        refine ⟨(noiseBytes count d.noise []).1, length_noiseBytes _ _ _,
          lt_of_mem_noiseBytes _ _ (by simp), ?_⟩
        simp [answered, hshort, hinput]
      played := fun houtput => by simp [answered, hshort, houtput] }

theorem answer_transfer (d : Stub) (buffer : List UInt8) (frames : Nat) :
    (Driver.transfer buffer frames d).1.answer = ((d.transferred buffer frames).1, []) := rfl

namespace Answers

variable {answer : TransferAnswer} {size : Nat}

/-- A refusal is right for every size that is too large. -/
theorem of_refused (h : d.Answers buffer frames count answer) (hcount : buffer.length < count)
    (hsize : buffer.length < size) : d.Answers buffer frames size answer where
  refused := iff_of_true (h.refused.mpr hcount) hsize
  kept _ := h.kept hcount
  moved hle := absurd hsize (Nat.not_lt.mpr hle)
  captured _ hle := absurd hsize (Nat.not_lt.mpr hle)
  played := h.played

/-- What is told of frames that fit is wrong for a size that is too large. -/
theorem not_of_moved (h : d.Answers buffer frames count answer) (hcount : count ≤ buffer.length)
    (hsize : buffer.length < size) : ¬ d.Answers buffer frames size answer := by
  intro hother
  have hrefused := hother.refused.mpr hsize
  rw [h.moved hcount] at hrefused
  cases hrefused

end Answers

/-- If products wrap, a stub answers by the bytes of its frames modulo 2 ^ 64, whatever it is asked for, and does
nothing else to the stream. That is wrong just where the buffer lies between what the word says and the bytes,
and never below 2 ^ 57 frames. If products are checked it does the same as long as a word is enough, and stops
the program otherwise. -/
theorem answers_word {t : Transport} {d : Stub} (hd : d.frameSize = t.frameSize) {buffer : List UInt8}
    (hbuffer : buffer.length < 2 ^ 64) (frames : Nat) :
    let bytes := frames * t.frameSize
    ∃ answer after, d.attempt .wraps buffer frames = some (answer, after) ∧
      d.attempt .stops buffer frames = (if bytes < 2 ^ 64 then some (answer, after) else none) ∧
      (Driver.transfer buffer frames d).1.answer = (answer, []) ∧
      (Driver.transfer buffer frames d).2 = after ∧ after.frameSize = t.frameSize ∧
      d.Answers buffer frames (bytes % 2 ^ 64) answer ∧
      (d.Answers buffer frames bytes answer ↔
        ¬ (bytes % 2 ^ 64 ≤ buffer.length ∧ buffer.length < bytes)) ∧
      (frames < 2 ^ 57 → d.Answers buffer frames bytes answer) := by
  have hword : d.Answers buffer frames (frames * t.frameSize % 2 ^ 64) (d.transferred buffer frames).1 := by
    rw [← hd]
    exact d.answers_answered buffer frames _
  have hexact (hfits : frames * t.frameSize < 2 ^ 64) :
      d.Answers buffer frames (frames * t.frameSize) (d.transferred buffer frames).1 := by
    rwa [Nat.mod_eq_of_lt hfits] at hword
  refine ⟨_, _, attempt_wraps d buffer frames, ?stops, answer_transfer d buffer frames, rfl, ?after, hword,
    ⟨?between, ?outside⟩, ?few⟩
  case stops =>
    rw [attempt_stops, hd]
    rfl
  case after => exact (frameSize_transferred d buffer frames).trans hd
  case between =>
    rintro h ⟨hle, hlt⟩
    exact hword.not_of_moved hle hlt h
  case outside =>
    intro h
    by_cases hfits : frames * t.frameSize < 2 ^ 64
    · exact hexact hfits
    · have hlarge : buffer.length < frames * t.frameSize := by omega
      have hrefused : buffer.length < frames * t.frameSize % 2 ^ 64 := by omega
      exact hword.of_refused hrefused hlarge
  case few =>
    intro hfew
    have hsize : t.frameSize ≤ 128 := t.geometry.frameSize_le
    refine hexact ?_
    calc frames * t.frameSize ≤ frames * 128 := Nat.mul_le_mul_left _ hsize
      _ < 2 ^ 57 * 128 := Nat.mul_lt_mul_of_pos_right hfew (by decide)
      _ = 2 ^ 64 := by decide

/-- Two frames of four bytes just fit in a buffer of eight bytes, and three do not. -/
theorem answers_word_eightBytes :
    let d := ofTransport .small true 1
    let buffer := List.replicate 8 255
    d.frameSize = Transport.small.frameSize ∧ buffer.length < 2 ^ 64 ∧
      (∃ answer after, d.attempt .stops buffer 2 = some (answer, after) ∧ d.Answers buffer 2 8 answer) ∧
      ∃ answer after, d.attempt .stops buffer 3 = some (answer, after) ∧ d.Answers buffer 3 12 answer := by
  intro d buffer
  have hbuffer : buffer.length < 2 ^ 64 := by decide
  obtain ⟨two, afterTwo, -, hstops, -, -, -, htwo, -⟩ := answers_word (t := .small) (d := d) rfl hbuffer 2
  obtain ⟨three, afterThree, -, hstops', -, -, -, hthree, -⟩ :=
    answers_word (t := .small) (d := d) rfl hbuffer 3
  exact ⟨rfl, hbuffer, ⟨two, afterTwo, hstops, htwo⟩, three, afterThree, hstops', hthree⟩

/-- A stub whose client is notified is asked for 2 ^ 62 frames of four bytes with a buffer of eight bytes, and
refuses them in no build. If products wrap it says at once that it has moved them, and has left the buffer as it
was. If they are checked the program stops. -/
theorem exists_frames_overclaimed :
    ∃ t d frames, ∃ buffer : List UInt8,
      Transport.configure { bufferFrames := 256 } {} true = .ok t ∧ d = ofTransport t true 1 ∧
      frames < 2 ^ 64 ∧ buffer.length = 8 ∧ frames * d.frameSize = 2 ^ 64 ∧
      (∃ answer after, d.attempt .wraps buffer frames = some (answer, after) ∧
        answer.result = .ok ⟨frames, nominalLatency⟩ ∧ answer.buffer = buffer ∧
        (Driver.transfer buffer frames d).1.answer = (answer, []) ∧
        (Driver.transfer buffer frames d).1.duration = controlTime ∧
        ¬ d.Answers buffer frames (frames * d.frameSize) answer) ∧
      d.attempt .stops buffer frames = none := by
  let t : Transport := { Transport.small with notifies := true }
  let d := ofTransport t true 1
  let buffer : List UInt8 := List.replicate 8 255
  have hword : 2 ^ 62 * d.frameSize % UInt64.size = 0 := by decide
  have hanswers : d.Answers buffer (2 ^ 62) 0 (d.transferred buffer (2 ^ 62)).1 := by
    rw [transferred, hword]
    exact d.answers_answered buffer _ 0
  obtain ⟨noise, hnone, -, hbuffer⟩ := hanswers.captured rfl (Nat.zero_le _)
  rw [List.length_eq_zero_iff.mp hnone] at hbuffer
  have hstops : d.attempt .stops buffer (2 ^ 62) = none := by rw [attempt_stops, if_neg (by decide)]
  have htime : (Driver.transfer buffer (2 ^ 62) d).1.duration = controlTime := by
    simp only [Driver.transfer, hanswers.moved (Nat.zero_le _)]
    rfl
  exact ⟨t, d, 2 ^ 62, buffer, rfl, rfl, by decide, rfl, rfl,
    ⟨_, _, attempt_wraps d buffer _, hanswers.moved (Nat.zero_le _), hbuffer, answer_transfer d buffer _, htime,
      hanswers.not_of_moved (Nat.zero_le _) (by decide)⟩, hstops⟩

end Stub

end AudioStream
