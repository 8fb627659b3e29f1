import AudioStream.Proofs.Worker.Table

/-!
# What a burst consists of

A burst looks at the data queue, has frames moved by the driver or does without it, and takes what was
moved into account. The lemmas here say what each of these pieces does to the state of the worker and
to the counters. A client that only writes leaves all bytes in place that the worker has seen.
-/

namespace AudioStream

namespace DataQueue

theorem readable_le_of_write {q r : DataQueue} {bytes : List UInt8} (h : q.write bytes = some r) :
    q.readable ≤ r.readable := by
  simp [readable, contents_of_write h]

/-- What a client writes comes behind what is in the queue. -/
theorem readable_le_serve (q : DataQueue) {accesses : List Access}
    (h : ∀ access ∈ accesses, ∃ bytes, access = .write bytes) :
    q.readable ≤ (q.serve accesses).1.readable := by
  induction accesses generalizing q with
  | nil => exact Nat.le_refl _
  | cons access rest ih =>
    obtain ⟨bytes, rfl⟩ := h access List.mem_cons_self
    have hrest := fun q => ih q fun a ha => h a (List.mem_cons_of_mem _ ha)
    rw [serve]
    cases hw : q.write bytes with
    | none => exact hrest q
    | some r => exact Nat.le_trans (readable_le_of_write hw) (hrest r)

end DataQueue

namespace Worker

@[simp] theorem mode_fill (w : Worker) (bytes : List UInt8) : (w.fill bytes).mode = w.mode := rfl

@[simp] theorem frameCount_fill (w : Worker) (bytes : List UInt8) :
    (w.fill bytes).frameCount = w.frameCount := rfl

@[simp] theorem mode_enter (w : Worker) (now : Nat) (next : State) :
    (w.enter now next).mode = w.mode.enter now next := by
  unfold enter Mode.enter mode
  split <;> rfl

theorem mode_withoutDevice (s : Setup) (size : Nat) (w : Worker) :
    (w.withoutDevice s size).1.mode = w.mode := by
  unfold withoutDevice
  split <;> rfl

theorem frameCount_withoutDevice (s : Setup) (size : Nat) (w : Worker) :
    (w.withoutDevice s size).1.frameCount = w.frameCount := by
  unfold withoutDevice
  split <;> rfl

theorem moved_withoutDevice (s : Setup) (size : Nat) (w : Worker) :
    (w.withoutDevice s size).2 = Moved.withoutDevice (s.frames size) := by
  unfold withoutDevice
  split <;> rfl

/-! ## The end of a burst -/

section Finish

variable (s : Setup) (now : Nat) (b : Burst) (m : Moved) (w : Worker)

/-- The reply to a burst that got its bytes says what was moved, also if the driver failed. -/
theorem reply_finishBurst : (w.finishBurst s now b m true).reply =
    { status := .ok
      observable := (w.count m.frames).position now b.connected
      byteCount := reportedBytes (m.frames * s.frameSize)
      latency := m.latency } := by
  cases h : m.failure <;> simp [finishBurst, credit, succeed, h]

theorem worker_finishBurst_of_failure {e : DriverError} (h : m.failure = some e) :
    (w.finishBurst s now b m true).worker = { w.count m.frames with state := .error } := by
  simp [finishBurst, credit, h]

theorem worker_finishBurst_of_success (h : m.failure = none) :
    (w.finishBurst s now b m true).worker =
      (w.count m.frames).afterBurst s now b.bytes (reportedBytes (m.frames * s.frameSize)) := by
  simp [finishBurst, credit, succeed, h]

/-- The reply to a burst that the data queue has let down tells of no bytes. -/
theorem reply_finishBurst_false : (w.finishBurst s now b m false).reply =
    { status := .notEnoughData, latency := m.latency } := by
  cases h : m.failure <;> simp [finishBurst, h]

theorem worker_finishBurst_false_of_success (h : m.failure = none) :
    (w.finishBurst s now b m false).worker = w.afterBurst s now b.bytes 0 := by
  simp [finishBurst, h]

theorem status_finishBurst (queued : Bool) :
    (w.finishBurst s now b m queued).reply.status = if queued then .ok else .notEnoughData := by
  cases queued with
  | true => rw [reply_finishBurst, if_pos rfl]
  | false => rw [reply_finishBurst_false, if_neg Bool.false_ne_true]

theorem mode_finishBurst_of_failure {e : DriverError} (h : m.failure = some e) (queued : Bool) :
    (w.finishBurst s now b m queued).worker.mode = ⟨.error, w.since⟩ := by
  cases queued <;> simp only [finishBurst, h] <;> rfl

end Finish

end Worker

namespace Bench

variable (s : Setup) (t : Turn) (size : Nat) (w : Worker)

theorem mode_transfer : (transfer s t size w).worker.mode = w.mode := by
  unfold transfer
  split
  · rfl
  · exact w.mode_withoutDevice s size

theorem state_transfer : (transfer s t size w).worker.state = w.state :=
  congrArg Mode.state (mode_transfer s t size w)

theorem frameCount_transfer : (transfer s t size w).worker.frameCount = w.frameCount := by
  unfold transfer
  split
  · rfl
  · exact w.frameCount_withoutDevice s size

/-- The driver is called if and only if a device is connected. -/
theorem kind_transfer :
    (transfer s t size w).call.map DriverCall.kind =
      if t.connected then some .transfer else none := by
  unfold transfer
  split <;> rfl

theorem ends_transfer (bytes : Int32) :
    (transfer s t size w).ends = t.overAt s (.burst bytes) (transfer s t size w).call := by
  unfold transfer
  split <;> rfl

/-- A transfer counts as failed if and only if the driver failed it. -/
theorem failure_transfer_iff :
    (∃ e, (transfer s t size w).moved.failure = some e) ↔
      ∃ call, (transfer s t size w).call = some call ∧ t.Fails call := by
  unfold transfer
  split
  · simp only [Worker.afterTransfer, Worker.transferCall, Moved.ofAnswer, Option.some.injEq,
      exists_eq_left', Turn.Fails]
    split <;> simp_all
  · simp [Worker.moved_withoutDevice, Moved.withoutDevice]

/-- A transfer that failed has moved nothing. -/
theorem frames_transfer_of_failure {e : DriverError}
    (h : (transfer s t size w).moved.failure = some e) : (transfer s t size w).moved.frames = 0 := by
  cases hc : t.connected with
  | false =>
    simp [transfer, hc, Worker.moved_withoutDevice, Moved.withoutDevice] at h
  | true =>
    simp only [transfer, hc, if_true, Worker.afterTransfer, Moved.ofAnswer] at h ⊢
    cases hr : (t.transfer (w.buffer.take size) (s.frames size)).answer.result with
    | ok r => simp [hr] at h
    | error e => rfl

/-- No more frames are moved than fit into the part of the buffer that was given. -/
theorem frames_transfer_le : (transfer s t size w).moved.frames ≤ s.frames size := by
  unfold transfer
  split
  · simp only [Worker.afterTransfer, Moved.ofAnswer]
    split
    · exact Nat.min_le_right _ _
    · exact Nat.zero_le _
  · simp [Worker.moved_withoutDevice, Moved.withoutDevice]

variable (bench : Bench) (bytes : Nat)

/-- A capture burst appends what was moved to what the others have made of the queue meanwhile, if there
is room for it. -/
theorem capture_eq :
    bench.capture s t bytes =
      let r := transfer s t (s.captureSize bytes bench.data.writable) bench.worker
      let meanwhile := bench.data.serve t.during
      let written := meanwhile.1.write (r.worker.movedBytes s r.moved)
      (written.getD meanwhile.1,
        r.worker.finishBurst s r.ends ⟨bytes, t.connected⟩ r.moved written.isSome,
        { ends := r.ends, call := r.call, served := meanwhile.2 }) := by
  unfold capture
  dsimp only
  split
  next data hw => simp [hw]
  next hw => simp [hw]

theorem burst_of_input {s : Setup} (hd : s.direction = .input) (t : Turn) (bytes : Nat) (bench : Bench) :
    bench.burst s t bytes = bench.capture s t bytes := by
  rw [burst, hd]

theorem burst_of_output {s : Setup} (hd : s.direction = .output) (t : Turn) (bytes : Nat) (bench : Bench) :
    bench.burst s t bytes = bench.playback s t bytes := by
  rw [burst, hd]

section Pieces

variable {s : Setup} {t : Turn} {bench : Bench}

theorem transfer_of_connected (h : t.connected = true) (size : Nat) (w : Worker) :
    transfer s t size w =
      let timed := t.transfer (w.buffer.take size) (s.frames size)
      ⟨(w.afterTransfer s size timed.answer).1, (w.afterTransfer s size timed.answer).2,
        some (w.transferCall s size), t.now + timed.duration⟩ := by
  simp [transfer, h]

theorem transfer_of_unconnected (h : t.connected = false) (size : Nat) (w : Worker) :
    transfer s t size w = ⟨(w.withoutDevice s size).1, (w.withoutDevice s size).2, none,
      t.now + s.silenceTime + t.lag⟩ := by
  simp [transfer, h]

theorem playback_of_starved {bytes : Nat}
    (h : (bench.data.serve t.during).1.read (s.playbackTake bench.data.readable) = none) :
    bench.playback s t bytes = ((bench.data.serve t.during).1,
      bench.worker.finishBurst s (t.now + t.lag) ⟨bytes, t.connected⟩ { frames := 0 } false,
      { ends := t.now + t.lag, served := (bench.data.serve t.during).2 }) := by
  simp [playback, h]

theorem playback_of_filled {bytes : Nat} {taken : List UInt8} {rest : DataQueue}
    (h : (bench.data.serve t.during).1.read (s.playbackTake bench.data.readable) = some (taken, rest)) :
    bench.playback s t bytes =
      let r := transfer s t (s.playbackSize bytes (s.playbackTake bench.data.readable))
        (bench.worker.fill taken)
      (rest, r.worker.finishBurst s r.ends ⟨bytes, t.connected⟩ r.moved true,
        { ends := r.ends, call := r.call, served := (bench.data.serve t.during).2 }) := by
  simp [playback, h]

end Pieces

end Bench

end AudioStream
