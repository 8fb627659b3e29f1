import AudioStream.Proofs.Worker.Accepted

/-!
# Bursts on a queue whose roles are kept

A client of a capture stream only reads from the data queue, and one of a playback stream only writes to
it. So nobody takes away the room or the bytes that a burst has seen, and the burst gets all of them. What
the client does meanwhile shows in the queue, but not in what the burst moves.
-/

namespace AudioStream

namespace Bench

variable (s : Setup) {t : Turn} (bench : Bench)

/-- A capture burst gets the room that it has seen. -/
theorem capture_of_reads (hr : ∀ access ∈ t.during, access.IsRead) (bytes : Nat) :
    ∃ data : DataQueue,
      let r := transfer s t (s.captureSize bytes bench.data.writable) bench.worker
      data.contents =
        (bench.data.serve t.during).1.contents ++ r.worker.movedBytes s r.moved ∧
      bench.capture s t bytes =
        (data, r.worker.finishBurst s r.ends ⟨bytes, t.connected⟩ r.moved true,
          { ends := r.ends, call := r.call, served := (bench.data.serve t.during).2 }) := by
  let r := transfer s t (s.captureSize bytes bench.data.writable) bench.worker
  have hroom : (r.worker.movedBytes s r.moved).length ≤ (bench.data.serve t.during).1.writable :=
    calc (r.worker.movedBytes s r.moved).length
        ≤ r.moved.frames * s.frameSize := List.length_take_le _ _
      _ ≤ s.captureSize bytes bench.data.writable := frames_transfer_mul_le_size s t _ _
      _ ≤ bench.data.writable := by unfold Setup.captureSize; omega
      _ ≤ (bench.data.serve t.during).1.writable := bench.data.writable_le_serve hr
  obtain ⟨data, hw⟩ := Option.isSome_iff_exists.mp (DataQueue.write_isSome_iff.mpr hroom)
  exact ⟨data, DataQueue.contents_of_write hw, by simp only [capture, hw, r]⟩

/-- A playback burst takes all the bytes that it has seen, and leaves those that came meanwhile. -/
theorem playback_of_writes (hw : ∀ access ∈ t.during, access.IsWrite)
    (hcapacity : bench.data.capacity ≤ s.bufferSize) (bytes : Nat) :
    ∃ data : DataQueue,
      let r := transfer s t (s.playbackSize bytes bench.data.readable)
        (bench.worker.fill bench.data.contents)
      data.contents = bench.data.admitted t.during ∧
      bench.playback s t bytes =
        (data, r.worker.finishBurst s r.ends ⟨bytes, t.connected⟩ r.moved true,
          { ends := r.ends, call := r.call }) := by
  have htake : s.playbackTake bench.data.readable = bench.data.readable :=
    Nat.min_eq_left (Nat.le_trans bench.data.length_le hcapacity)
  have hcontents := bench.data.contents_serve_of_writes hw
  have hcount : bench.data.readable ≤ (bench.data.serve t.during).1.readable := by
    simp [DataQueue.readable, hcontents]
  obtain ⟨⟨taken, data⟩, hread⟩ :=
    Option.isSome_iff_exists.mp (DataQueue.read_isSome_iff.mpr hcount)
  have hsplit := DataQueue.contents_of_read hread
  rw [hcontents] at hsplit
  obtain ⟨htaken, hdata⟩ := List.append_inj hsplit (DataQueue.length_of_read hread).symm
  refine ⟨data, hdata.symm, ?_⟩
  simp only [playback, htake, hread, htaken, bench.data.served_of_writes hw]

variable {s bench} in
/-- The bytes that a playback burst has taken stand at the front of the buffer. -/
theorem take_fill_contents (fits : bench.Fits s) {size : Nat} (h : size ≤ bench.data.readable) :
    (bench.worker.fill bench.data.contents).buffer.take size = bench.data.contents.take size := by
  apply Worker.take_fill_of_le _ h
  rw [fits.buffer, ← fits.capacity]
  exact bench.data.length_le

end Bench

end AudioStream
