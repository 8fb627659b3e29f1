import AudioStream.Proofs.Worker.Counted
import AudioStream.Proofs.Worker.Steps

/-!
# Bursts that are carried out

Only a burst that the worker accepts touches the data queue and the buffer for transfers. The lemmas here
say which bursts these are, and what a cycle comes to with one and without. The sizes of the queue and of
the buffer never change, so the buffer has room for all that the queue can hold.
-/

namespace AudioStream

namespace Worker

variable (s : Setup) (w : Worker)

/-! ## The buffer -/

@[simp] theorem length_fill (bytes : List UInt8) :
    (w.fill bytes).buffer.length = w.buffer.length := by
  simp only [fill, List.length_append, List.length_drop, List.length_take]
  omega

/-- Bytes that fit stand at the front of the buffer, and behind them is what was there before. -/
theorem take_fill {bytes : List UInt8} {size : Nat} (hbytes : bytes.length ≤ size)
    (hsize : size ≤ w.buffer.length) :
    (w.fill bytes).buffer.take size = bytes ++ (w.buffer.take size).drop bytes.length := by
  have hall : bytes.take w.buffer.length = bytes :=
    List.take_of_length_le (Nat.le_trans hbytes hsize)
  simp only [fill, hall]
  rw [List.take_append, List.take_of_length_le hbytes, List.drop_take]

theorem take_fill_of_le {bytes : List UInt8} {size : Nat} (hsize : size ≤ bytes.length)
    (hbytes : bytes.length ≤ w.buffer.length) : (w.fill bytes).buffer.take size = bytes.take size := by
  have hall : bytes.take w.buffer.length = bytes := List.take_of_length_le hbytes
  simp only [fill, hall]
  rw [List.take_append_of_le_length hsize]

@[simp] theorem buffer_enter (now : Nat) (next : State) : (w.enter now next).buffer = w.buffer := by
  unfold enter
  split <;> rfl

@[simp] theorem buffer_resolve (now : Nat) : (w.resolve s now).1.buffer = w.buffer := by
  fun_cases resolve <;> rfl

theorem buffer_afterControl (now : Nat) (connected : Bool) (call : Control) (next : State)
    (result : Except DriverError Unit) :
    (w.afterControl now connected call next result).worker.buffer = w.buffer := by
  cases result with
  | ok done => exact w.buffer_enter now next
  | error e => rfl

theorem buffer_afterBurst (now asked : Nat) (moved : Int32) :
    (w.afterBurst s now asked moved).buffer = w.buffer := by
  fun_cases afterBurst <;> simp

theorem buffer_finishBurst (now : Nat) (b : Burst) (m : Moved) (queued : Bool) :
    (w.finishBurst s now b m queued).worker.buffer = w.buffer := by
  cases hm : m.failure <;> cases queued <;>
    simp [finishBurst, credit, count, hm, buffer_afterBurst]

end Worker

namespace Bench

variable (s : Setup) (t : Turn) (bench : Bench)

theorem length_buffer_withoutDevice (size : Nat) (w : Worker) :
    (w.withoutDevice s size).1.buffer.length = w.buffer.length := by
  unfold Worker.withoutDevice
  split
  · exact w.length_fill _
  · rfl

theorem length_buffer_transfer (size : Nat) (w : Worker) :
    (transfer s t size w).worker.buffer.length = w.buffer.length := by
  unfold transfer
  split
  · exact w.length_fill _
  · exact length_buffer_withoutDevice s size w

theorem length_buffer_burst (bytes : Nat) :
    (bench.burst s t bytes).2.1.worker.buffer.length = bench.worker.buffer.length := by
  unfold burst
  split
  · unfold capture
    dsimp only
    split <;> rw [Worker.buffer_finishBurst, length_buffer_transfer]
  · unfold playback
    dsimp only
    split
    · rw [Worker.buffer_finishBurst, length_buffer_transfer, Worker.length_fill]
    · rw [Worker.buffer_finishBurst]

theorem capacity_burst (bytes : Nat) :
    (bench.burst s t bytes).1.capacity = bench.data.capacity := by
  unfold burst
  split
  · unfold capture
    dsimp only
    split
    next data hw => exact (DataQueue.capacity_of_write hw).trans (bench.data.capacity_serve _)
    next => exact bench.data.capacity_serve _
  · unfold playback
    dsimp only
    split
    next taken data hr => exact (DataQueue.capacity_of_read hr).trans (bench.data.capacity_serve _)
    next => exact bench.data.capacity_serve _

/-! ## Accepted bursts -/

/-- The bytes that are asked for by the burst that is carried out in a turn, if one is. -/
def accepted : Option Nat :=
  match t.heard with
  | some (.burst n) =>
    if 0 ≤ n ∧ s.moves (bench.ready s t).worker.state = true then some n.toInt.toNat else none
  | _ => none

variable {s t bench}

theorem accepted_eq_some_iff {bytes : Nat} : bench.accepted s t = some bytes ↔
    ∃ command, t.heard = some command ∧
      s.decide (bench.ready s t).worker.state command = .burst bytes := by
  simp only [s.decide_eq_burst_iff]
  unfold accepted
  split
  next n heard =>
    constructor
    · intro h
      split at h
      next hn => exact ⟨_, heard, n, rfl, hn.1, hn.2, Option.some.inj h⟩
      next => cases h
    · rintro ⟨_, heard', m, rfl, h0, hm, rfl⟩
      cases heard.symm.trans heard'
      exact if_pos ⟨h0, hm⟩
  next hother =>
    constructor
    · intro h
      cases h
    · rintro ⟨_, heard, m, rfl, -⟩
      exact absurd heard (hother m)

theorem cycle_of_accepted {bytes : Nat} (h : bench.accepted s t = some bytes) :
    bench.cycle s t =
      let (data, done, seen) := (bench.ready s t).burst s t bytes
      (⟨done.worker, data⟩,
        { seen with
          notice := (bench.worker.resolve s t.begins).2
          reply := some done.answer
          reports := bench.refusals s t ++ done.report.toList
          served := (bench.data.serve t.before).2 ++ seen.served }) := by
  obtain ⟨command, heard, hdecide⟩ := accepted_eq_some_iff.mp h
  rw [cycle_of_heard s bench heard, handle_of_burst hdecide]

/-- A burst that succeeds is one that was accepted. -/
theorem accepted_of_ok {n : Int32} {r : Reply} (heard : t.heard = some (.burst n))
    (hr : (bench.cycle s t).2.reply = some r) (hok : r.status = .ok) :
    bench.accepted s t = some n.toInt.toNat := by
  have hdecide := s.decide_burst (bench.ready s t).worker.state n
  rw [cycle_of_heard s bench heard] at hr
  by_cases hn : n < 0
  · rw [if_pos hn] at hdecide
    rw [handle_of_reject hdecide] at hr
    cases hr
    cases hok
  · rw [if_neg hn] at hdecide
    cases hm : s.moves (bench.ready s t).worker.state with
    | true => exact accepted_eq_some_iff.mpr ⟨_, heard, by rw [hdecide, if_pos hm]⟩
    | false =>
      rw [hm, if_neg Bool.false_ne_true] at hdecide
      rw [handle_of_refuse hdecide] at hr
      cases hr
      cases hok

/-- What is the same after a cycle in which no burst is carried out. -/
structure Idles (s : Setup) (t : Turn) (bench : Bench) : Prop where
  data : (bench.cycle s t).1.data = (bench.ready s t).data
  buffer : (bench.cycle s t).1.worker.buffer = bench.worker.buffer
  served : (bench.cycle s t).2.served = (bench.data.serve t.before).2
  call : ∀ buffer frames, (bench.cycle s t).2.call ≠ some (.transfer buffer frames)

theorem idles_of_accepted_eq_none (h : bench.accepted s t = none) : Idles s t bench := by
  cases heard : t.heard with
  | none =>
    have hc := cycle_of_unheard s bench heard
    constructor <;> simp [hc]
  | some command =>
    have hc := cycle_of_heard s bench heard
    have hbuffer : (bench.ready s t).worker.buffer = bench.worker.buffer :=
      Worker.buffer_resolve s bench.worker t.begins
    cases hd : s.decide (bench.ready s t).worker.state command with
    | stop => constructor <;> simp [hc, handle_of_stop hd]
    | reject => constructor <;> simp [hc, handle_of_reject hd]
    | refuse => constructor <;> simp [hc, handle_of_refuse hd]
    | tell => constructor <;> simp [hc, handle_of_tell hd]
    | move next => constructor <;> simp [hc, handle_of_move hd]
    | control call next =>
      constructor <;> simp [hc, handle_of_control hd, Worker.buffer_afterControl]
    | burst bytes =>
      have hsome := accepted_eq_some_iff.mpr ⟨command, heard, hd⟩
      rw [h] at hsome
      cases hsome

/-! ## Sizes -/

/-- The buffer is as large as the data queue. -/
structure Fits (s : Setup) (bench : Bench) : Prop where
  capacity : bench.data.capacity = s.bufferSize
  buffer : bench.worker.buffer.length = s.bufferSize

theorem Fits.ready (h : bench.Fits s) (t : Turn) : (bench.ready s t).Fits s where
  capacity := (bench.data.capacity_serve t.before).trans h.capacity
  buffer := (congrArg List.length (Worker.buffer_resolve s bench.worker t.begins)).trans h.buffer

theorem Fits.cycle (h : bench.Fits s) (t : Turn) : (bench.cycle s t).1.Fits s := by
  cases ha : bench.accepted s t with
  | none =>
    have hidle := idles_of_accepted_eq_none ha
    exact ⟨by rw [hidle.data]; exact (h.ready t).capacity, by rw [hidle.buffer]; exact h.buffer⟩
  | some bytes =>
    rw [cycle_of_accepted ha]
    exact ⟨(capacity_burst s t _ bytes).trans (h.ready t).capacity,
      (length_buffer_burst s t _ bytes).trans (h.ready t).buffer⟩

theorem Fits.of_mem_steps (h : bench.Fits s) {turns : List Turn} {step : Bench × Turn}
    (hmem : step ∈ bench.steps s turns) : step.1.Fits s ∧ step.2 ∈ turns :=
  Bench.of_mem_steps (Fits s) (fun _ t hfits => hfits.cycle t) h hmem

theorem Fits.run (h : bench.Fits s) (turns : List Turn) : (bench.run s turns).1.Fits s := by
  induction turns generalizing bench with
  | nil => exact h
  | cons t turns ih =>
    cases hstops : (bench.cycle s t).2.stops with
    | true =>
      rw [run_cons_of_stops hstops]
      exact h.cycle t
    | false =>
      rw [run_cons_of_stays hstops]
      exact ih (h.cycle t)

theorem fits_initial (t : Transport) (direction : Direction) (cookie : Int32) :
    (Bench.initial (.ofTransport t direction cookie) t.data).Fits (.ofTransport t direction cookie) where
  capacity := by
    simp [initial, Setup.ofTransport, DataQueue.quantumCount, DataQueue.quantumSize]
  buffer := List.length_replicate

end Bench

end AudioStream
