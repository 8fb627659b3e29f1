import AudioStream.Proofs.Worker.Accounts

/-!
# The frame counter of a worker

Whatever the driver, the client and the connection do, the frame counter agrees with the replies: after
each cycle it is the sum of all that was told, in frames. Only an overflow could break this, and a
stream needs 2 ^ 43 bursts to come there.

The main statement is `Bench.frameCount_exact`.
-/

namespace AudioStream

def Turn.isBurst (t : Turn) : Bool := t.heard matches some (.burst _)

namespace Bench

variable {s : Setup} {t : Turn} {bench : Bench}

theorem min_asked_le {command : Command} (heard : t.heard = some command)
    (hsize : s.bufferSize ≤ Transport.maximumBytes) :
    min command.asked s.bufferSize ≤ if t.isBurst then 2 ^ 20 else 0 := by
  cases command with
  | burst n =>
    have hmax : s.bufferSize ≤ 2 ^ 20 := hsize
    simp only [Turn.isBurst, heard, if_true]
    omega
  | _ => simp [Command.asked]

/-- A cycle is in the accounts, and only a burst takes away room before an overflow. -/
theorem cycle_accounts (hpos : 0 < s.frameSize) (hsize : s.bufferSize ≤ Transport.maximumBytes)
    (h0 : 0 ≤ bench.worker.frameCount.toInt)
    (hroom : bench.worker.frameCount.toInt + (if t.isBurst then 2 ^ 20 else 0 : Nat) < 2 ^ 63) :
    Accounts s [t] bench.worker (bench.cycle s t).1.worker [(bench.cycle s t).2] ∧
      0 ≤ (bench.cycle s t).1.worker.frameCount.toInt ∧
      (bench.cycle s t).1.worker.frameCount.toInt ≤
        bench.worker.frameCount.toInt + (if t.isBurst then 2 ^ 20 else 0 : Nat) := by
  rcases cycle_counted s t bench with ⟨command, r, heard, hr, hcounted⟩ | ⟨hr, hcount⟩
  · have hasked := min_asked_le heard hsize
    obtain ⟨frames, hle, hbytes, hcount, hposition⟩ :=
      hcounted.exists_frames hpos hsize h0 (by omega)
    have hframes : frames ≤ frames * s.frameSize := Nat.le_mul_of_pos_right frames hpos
    refine ⟨.single ?_ ?_ ?_, by omega, by omega⟩
    · intro r' hr'
      obtain rfl : r = r' := by simpa [hr] using hr'
      refine ⟨command, heard, by omega, by omega, ?_⟩
      rw [hbytes]
      exact Int.ofNat_dvd.mpr (Nat.dvd_mul_left _ _)
    · simp [Cycle.bytes, hr, hbytes, hcount, Int.add_mul]
    · intro r' hr' hknown
      obtain rfl : r = r' := by simpa [hr] using hr'
      exact hposition.resolve_left hknown
  · refine ⟨.single ?_ ?_ ?_, by rw [hcount]; omega, by rw [hcount]; omega⟩
    · simp [hr]
    · simp [Cycle.bytes, hr, hcount]
    · simp [hr]

/-- A run is in the accounts as long as there is room for its bursts. -/
theorem run_accounts (hpos : 0 < s.frameSize) (hsize : s.bufferSize ≤ Transport.maximumBytes)
    (turns : List Turn) (bench : Bench) (h0 : 0 ≤ bench.worker.frameCount.toInt)
    (hroom : bench.worker.frameCount.toInt + (turns.countP Turn.isBurst * 2 ^ 20 : Nat) < 2 ^ 63) :
    Accounts s turns bench.worker (bench.run s turns).1.worker (bench.run s turns).2 := by
  induction turns generalizing bench with
  | nil => exact .nil s [] bench.worker
  | cons t turns ih =>
    rw [List.countP_cons, Nat.add_mul] at hroom
    have hturn : (if t.isBurst then 1 else 0) * 2 ^ 20 = if t.isBurst then 2 ^ 20 else 0 := by
      split <;> rfl
    rw [hturn] at hroom
    obtain ⟨hhead, hnonneg, hle⟩ := cycle_accounts (t := t) hpos hsize h0 (by omega)
    cases hstops : (bench.cycle s t).2.stops with
    | true =>
      rw [run_cons_of_stops hstops]
      exact hhead.cons (.nil s turns _)
    | false =>
      rw [run_cons_of_stays hstops]
      exact hhead.cons (ih (bench.cycle s t).1 hnonneg (by omega))

/-! ## Streams on a transport -/

section Transport

variable {config : StreamConfig} {debug : DebugParameters} {notifies : Bool} {t : Transport}

/-- The frame counter is exact over every run of a stream with fewer than 2 ^ 43 bursts: replies tell of
whole frames within bounds, the counter is the sum of what they tell, a known position is that sum at
its reply, positions never fall, and a burst without a device goes on to count all of its frames. -/
theorem frameCount_exact (ht : Transport.configure config debug notifies = .ok t)
    (direction : Direction) (cookie : Int32) (turns : List Turn)
    (hb : turns.countP Turn.isBurst < 2 ^ 43) :
    let s := Setup.ofTransport t direction cookie
    let bench (k : Nat) := ((Bench.initial s t.data).run s (turns.take k)).1
    let cycles := ((Bench.initial s t.data).run s turns).2
    (∀ (i : Nat) (c : Cycle) (r : Reply), cycles[i]? = some c → c.reply = some r →
      ∃ (turn : Turn) (command : Command), turns[i]? = some turn ∧ turn.heard = some command ∧
        0 ≤ r.byteCount.toInt ∧ r.byteCount.toInt ≤ (min command.asked t.data.capacity : Nat) ∧
        (t.frameSize : Int) ∣ r.byteCount.toInt) ∧
    (∀ k : Nat, (bench k).worker.frameCount.toInt * t.frameSize = movedBytes (cycles.take k)) ∧
    (∀ (i : Nat) (c : Cycle) (r : Reply), cycles[i]? = some c → c.reply = some r →
      r.observable ≠ .unknown →
      r.observable.frames.toInt * t.frameSize = movedBytes (cycles.take (i + 1))) ∧
    (∀ (i j : Nat) (c d : Cycle) (r q : Reply), i ≤ j → cycles[i]? = some c → cycles[j]? = some d →
      c.reply = some r → d.reply = some q → r.observable ≠ .unknown → q.observable ≠ .unknown →
      r.observable.frames ≤ q.observable.frames) ∧
    (∀ (i : Nat) (turn : Turn) (n : Int32) (c : Cycle) (r : Reply), turns[i]? = some turn →
      turn.heard = some (.burst n) → turn.connected = false → cycles[i]? = some c →
      c.reply = some r → r.status = .ok →
      r.byteCount.toInt =
        (s.frames (s.burstSize n.toInt.toNat ((bench i).ready s turn).data) * t.frameSize : Nat)) := by
  intro s bench cycles
  have hfresh := Transport.isFresh_of_configure ht
  have hcapacity : s.bufferSize = t.data.capacity := by
    simp [s, Setup.ofTransport, DataQueue.quantumCount, DataQueue.quantumSize]
  have hsize : s.bufferSize ≤ Transport.maximumBytes := hcapacity ▸ hfresh.capacity_le
  have hstart : (Bench.initial s t.data).worker.frameCount.toInt = 0 := rfl
  have hrun (part : List Turn) (h : part.countP Turn.isBurst < 2 ^ 43) :
      Accounts s part (Bench.initial s t.data).worker
        ((Bench.initial s t.data).run s part).1.worker ((Bench.initial s t.data).run s part).2 := by
    apply run_accounts hfresh.frameSize_pos hsize
    · exact Int.le_of_eq hstart.symm
    · rw [hstart]
      omega
  have haccounts := hrun turns hb
  have hposition : ∀ (i : Nat) (c : Cycle) (r : Reply), cycles[i]? = some c → c.reply = some r →
      r.observable ≠ .unknown →
      r.observable.frames.toInt * t.frameSize = movedBytes (cycles.take (i + 1)) := by
    intro i c r hc hr hknown
    have h := haccounts.position i c r hc hr hknown
    rwa [hstart, Int.zero_mul, Int.zero_add] at h
  refine ⟨?_, ?_, hposition, ?_, ?_⟩
  · rw [← hcapacity]
    exact haccounts.reply
  · intro k
    have hcount : (turns.take k).countP Turn.isBurst ≤ turns.countP Turn.isBurst :=
      (List.take_sublist k turns).countP_le
    have h := (hrun (turns.take k) (by omega)).count
    rwa [hstart, Int.zero_mul, Int.zero_add, run_take] at h
  · intro i j c d r q hij hc hd hr hq
    exact haccounts.frames_le hfresh.frameSize_pos hij hc hd hr hq
  · intro i turn n c r hturn heard hdisconnected hc hr hok
    have hcycle := eq_cycle_of_run hc hturn
    exact byteCount_cycle_of_disconnected hsize heard hdisconnected (hcycle ▸ hr) hok

/-- A turn with a driver that says it moved more frames than it was asked for. -/
def eagerTurn (command : Command) (connected : Bool) : Turn where
  begins := 0
  now := 0
  heard := some command
  connected := connected
  control _ := ⟨.ok (), 0⟩
  transfer buffer frames := ⟨⟨buffer, .ok ⟨frames + 7, 10⟩⟩, 0⟩

/-- Two bursts, the second one without a device. -/
def eagerRun : List Turn :=
  [eagerTurn .start true, eagerTurn (.burst 10) true, eagerTurn (.burst 9) false,
    eagerTurn .getStatus true]

theorem frameCount_exact_eagerRun :
    Transport.configure { bufferFrames := 256 } {} false = .ok .small ∧
    eagerRun.countP Turn.isBurst < 2 ^ 43 ∧
    ((((Bench.initial (.ofTransport .small .input 7) Transport.small.data).run
        (.ofTransport .small .input 7) eagerRun).2.map fun c =>
          c.reply.map fun r => (r.byteCount.toInt, r.observable.frames.toInt)) =
      [some (0, 0), some (8, 2), some (8, -1), some (0, 4)]) ∧
    ∀ k : Nat, ((Bench.initial (.ofTransport .small .input 7) Transport.small.data).run
        (.ofTransport .small .input 7) (eagerRun.take k)).1.worker.frameCount.toInt *
          Transport.small.frameSize =
      movedBytes (((Bench.initial (.ofTransport .small .input 7) Transport.small.data).run
        (.ofTransport .small .input 7) eagerRun).2.take k) := by
  have hb : eagerRun.countP Turn.isBurst < 2 ^ 43 := by decide
  exact ⟨Transport.configure_small, hb, by decide +kernel,
    (frameCount_exact Transport.configure_small .input 7 eagerRun hb).2.1⟩

end Transport

end Bench

end AudioStream
