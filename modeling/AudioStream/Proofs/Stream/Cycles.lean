import AudioStream.Proofs.Playback.Run
import AudioStream.Proofs.Stream.Places
import AudioStream.Proofs.Worker.FrameCount

/-!
# Cycles of a stream

A worker that goes step by step, with others coming in between, goes through cycles of a run. The turns of
this run can be read off what happens to the stream, and the run shows what was seen of the stream: the
notices, the calls of the driver, the replies, and the bytes that the client reads. So what holds of all runs
holds of all streams.

The main statement is `Chronicle.run_of_reaches`.
-/

open Relation

namespace AudioStream

/-- Reports tell of no bytes. -/
theorem movedBytes_unreported (cycles : List Cycle) :
    movedBytes (cycles.map Cycle.unreported) = movedBytes cycles := by
  induction cycles with
  | nil => rfl
  | cons c cycles ih =>
    rw [List.map_cons, movedBytes_cons, movedBytes_cons, ih]
    rfl

/-- It does not matter for a table what is reported. -/
theorem Table.Follows.unreported {T : Table} {mode : Mode} {turns : List Turn} {cycles : List Cycle}
    (h : T.Follows mode turns cycles) : T.Follows mode turns (cycles.map Cycle.unreported) := by
  induction h with
  | nil => exact .nil
  | wait heard reply call stays _ ih => exact .wait heard reply call stays ih
  | leave heard reply call stops => exact .leave heard reply call stops
  | answer heard answers stays _ ih => exact .answer heard (answers.congr rfl rfl rfl) stays ih

namespace Bench

variable {s : Setup} {t : Turn}

/-- When a turn ends makes no difference to what a transfer moves. -/
theorem transfer_endsAt (time size : Nat) (w : Worker) (started : t.now ≤ time)
    (silence : t.connected = false → t.now + s.silenceTime ≤ time) :
    transfer s (t.endsAt time (t.now + s.silenceTime)) size w = { transfer s t size w with ends := time } := by
  unfold transfer
  cases hc : t.connected with
  | true => simp [Turn.endsAt, hc, Nat.add_sub_cancel' started]
  | false => simp [Turn.endsAt, hc, Nat.add_sub_cancel' (silence hc)]

end Bench

namespace Chronicle

variable {first : Bench} {σ τ : Chronicle} {b : Stream} {d : Deed} {m : Moment} {command : Command}

/-- A turn that has just begun is the cycle of the run so far. -/
theorem Inv.ready_of_begun (inv : Inv first σ) (unlooked : σ.stream.hasLooked = false)
    (begun : Begun σ.stream.setup (σ.run first).1 σ) :
    (σ.run first).1.ready σ.stream.setup σ.turn = ⟨σ.stream.worker, σ.stream.transport.data⟩ ∧
      σ.seen = { ends := 0, notice := ((σ.run first).1.worker.resolve σ.stream.setup σ.turn.begins).2
                 served := ((σ.run first).1.data.serve σ.turn.before).2 } ∧
      σ.stream.transport.data.serve σ.later = (σ.stream.transport.data, σ.laterServed) := by
  obtain ⟨data, -, later, laterServed⟩ := fed_of_unlooked inv unlooked
  refine ⟨?_, by rw [begun.seen, data], by rw [later, laterServed]; rfl⟩
  rw [begun.worker]
  exact congrArg (Bench.mk _) (congrArg Prod.fst data)

/-- The worker begins a cycle. -/
theorem Inv.begin (inv : Inv first σ) (m : Moment) (hs : σ.stream.stage = .fresh) :
    Inv first (σ.work m (σ.stream.beginCycle m)) := by
  obtain ⟨data, during, later, laterServed⟩ := fed_of_unlooked inv (by rw [Stream.hasLooked, hs])
  have hplaced := inv.placed
  simp only [Placed, hs] at hplaced
  obtain ⟨reports, heq⟩ := σ.stream.beginCycle_eq m
  rw [heq]
  simp only [work, hs, Chronicle.begin, List.drop_left, Option.head?_toList]
  refine inv.goOn rfl rfl rfl (fun _ => by rw [hs]; rfl) (.before rfl data during later laterServed)
    ⟨?_, ?_, ?_⟩
  · rw [hplaced.turn]
    rfl
  · rw [hplaced.worker]
    rfl
  · rw [hplaced.seen, hplaced.worker]

theorem Inv.arm (inv : Inv first σ) (m : Moment) (deadline : Option Nat) (hs : σ.stream.stage = .arming) :
    Inv first (σ.work m { σ.stream with stage := .waiting deadline }) := by
  obtain ⟨data, during, later, laterServed⟩ := fed_of_unlooked inv (by rw [Stream.hasLooked, hs])
  have hplaced := inv.placed
  simp only [Placed, hs] at hplaced
  simp only [work, hs]
  exact inv.goOn rfl rfl rfl (fun _ => by rw [hs]; rfl) (.before rfl data during later laterServed)
    ⟨hplaced.1, hplaced.2.worker, hplaced.2.seen⟩

/-- The wait for a command is over, and none has come. -/
theorem Inv.hearNothing {clock : Nat} {deadline : Option Nat} (inv : Inv first σ)
    (hs : σ.stream.stage = .waiting deadline) (setup : b.setup = σ.stream.setup)
    (data : b.transport.data = σ.stream.transport.data)
    (place : b.stage = .fresh ∧ b.worker = σ.stream.worker ∨
      b.stage.isDone = true ∧ b.worker = { σ.stream.worker with state := .error }) :
    Inv first { σ.hearNothing with stream := b, clock } := by
  obtain ⟨hdata, -, later, laterServed⟩ := fed_of_unlooked inv (by rw [Stream.hasLooked, hs])
  have hplaced := inv.placed
  simp only [Placed, hs] at hplaced
  obtain ⟨heard, begun⟩ := hplaced
  have hcycle := Bench.cycle_of_unheard σ.stream.setup (σ.run first).1 heard
  refine inv.close (by rw [hs]; rfl) setup ?cycle ?data ?place
  case cycle =>
    rw [hcycle, begun.seen, hdata]
    rfl
  case data =>
    rw [hcycle, later, laterServed, data]
    exact congrArg (·, []) (congrArg Prod.fst hdata)
  case place =>
    rw [hcycle]
    rcases place with ⟨stage, worker⟩ | ⟨stage, worker⟩
    · exact .inl ⟨by rw [stage]; rfl, by rw [begun.seen], worker.trans begun.worker⟩
    · exact .inr ⟨stage, .inr (by rw [worker, begun.worker])⟩

theorem Inv.await {deadline : Option Nat} (inv : Inv first σ) (hs : σ.stream.stage = .waiting deadline)
    (h : σ.stream.awaitCommand m deadline = some b) : Inv first (σ.work m b) := by
  unfold Stream.awaitCommand at h
  split at h
  next command commands hread =>
    cases h
    obtain ⟨data, during, later, laterServed⟩ := fed_of_unlooked inv (by rw [Stream.hasLooked, hs])
    have hplaced := inv.placed
    simp only [Placed, hs] at hplaced
    simp only [work, hs]
    exact inv.goOn rfl rfl rfl (fun _ => by rw [hs]; rfl) (.before rfl data during later laterServed)
      ⟨rfl, hplaced.2.worker, hplaced.2.seen⟩
  next e hread =>
    cases h
    simp only [work, hs]
    exact inv.hearNothing hs rfl rfl (.inr ⟨rfl, rfl⟩)
  next hread =>
    split at h
    next time =>
      split at h <;> cases h
      simp only [work, hs]
      exact inv.hearNothing hs rfl rfl (.inl ⟨rfl, rfl⟩)
    next => cases h

/-- The worker is done with a command. -/
theorem Inv.handled {t : Turn} {seen c : Cycle} {after : Bench} {clock : Nat} (inv : Inv first σ)
    (on : σ.stream.stage.isDone = false) (setup : b.setup = σ.stream.setup) (heard : t.heard = some command)
    (handle : ((σ.run first).1.ready σ.stream.setup t).handle σ.stream.setup t command = (after, c))
    (worker : b.worker = after.worker)
    (data : after.data.serve σ.later = (b.transport.data, σ.laterServed))
    (hseen : seen = { c with
      notice := ((σ.run first).1.worker.resolve σ.stream.setup t.begins).2
      reports := []
      served := ((σ.run first).1.data.serve t.before).2 ++ c.served })
    (place : if c.stops then b.stage.isDone = true else b.stage.isResting = true) :
    Inv first { σ.close t seen with stream := b, clock } := by
  have hcycle := Bench.cycle_of_heard σ.stream.setup (σ.run first).1 heard
  rw [handle] at hcycle
  refine inv.close on setup (by rw [hcycle, hseen]; rfl) (by rw [hcycle, data]) ?_
  rw [hcycle, hseen]
  cases hstops : c.stops with
  | false => exact .inl ⟨by simpa [hstops] using place, rfl, worker⟩
  | true => exact .inr ⟨by simpa [hstops] using place, .inl worker⟩

/-- The worker looks whether a device is connected, and sets about the command. -/
theorem Inv.sample (inv : Inv first σ) (m : Moment) (hs : σ.stream.stage = .sampling command) :
    Inv first (σ.work m (σ.stream.beginCommand m command)) := by
  obtain ⟨data, during, later, laterServed⟩ := fed_of_unlooked inv (by rw [Stream.hasLooked, hs])
  have hplaced := inv.placed
  simp only [Placed, hs] at hplaced
  obtain ⟨heard, begun⟩ := hplaced
  have on : σ.stream.stage.isDone = false := by rw [hs]; rfl
  obtain ⟨hready, hseen, hlater⟩ := inv.ready_of_begun (by rw [Stream.hasLooked, hs]) begun
  have hreact : ((σ.run first).1.ready σ.stream.setup σ.turn).worker.react σ.stream.setup m.now
      σ.stream.connected command = σ.stream.worker.react σ.stream.setup m.now σ.stream.connected command := by
    rw [begun.worker]
  unfold Stream.beginCommand
  split
  next react =>
    simp only [work, hs]
    have hhandle := Bench.handle_of_react_stop (t := (σ.sample m).turn) (hreact.trans react)
    exact inv.handled on rfl heard hhandle begun.worker (hready ▸ hlater) (by simp [Chronicle.sample, hseen])
      rfl
  next h react =>
    obtain ⟨reports, heq⟩ := σ.stream.handled_eq command h
    rw [heq]
    simp only [work, hs, answer]
    have hhandle := Bench.handle_of_react_reply
      (t := (σ.sample m).turn.endsAt m.now (m.now + σ.stream.quietTime)) (hreact.trans react)
    exact inv.handled on rfl heard hhandle rfl (hready ▸ hlater)
      (by simp [Chronicle.sample, Turn.endsAt, hseen]) rfl
  next call next react =>
    simp only [work, hs]
    exact inv.goOn rfl rfl rfl (fun _ => on) (.before rfl data during later laterServed)
      ⟨heard, Nat.le_refl _, .controlling (hreact.trans react) ⟨begun.worker, begun.seen⟩⟩
  next bytes react =>
    simp only [work, hs]
    exact inv.goOn rfl rfl rfl (fun _ => on) (.before rfl data during later laterServed)
      ⟨heard, Nat.le_refl _, .looking (hreact.trans react) ⟨begun.worker, begun.seen⟩⟩

/-- The driver answers a control call. -/
theorem Inv.control {connected : Bool} {call : Control} {next : State} (inv : Inv first σ)
    (result : Except DriverError Unit)
    (hs : σ.stream.stage = .handling command (.controlling connected call next)) (order : σ.clock ≤ m.now) :
    Inv first ((σ.hearControl result).work m
      (σ.stream.handled command (σ.stream.worker.afterControl m.now connected call next result))) := by
  have hplaced := inv.placed
  simp only [Placed, hs] at hplaced
  obtain ⟨heard, started, pursues⟩ := hplaced
  cases pursues with
  | controlling react begun =>
    obtain ⟨hready, hseen, hlater⟩ := inv.ready_of_begun (by rw [Stream.hasLooked, hs]) begun
    have hends : σ.turn.now + (m.now - σ.turn.now) = m.now :=
      Nat.add_sub_cancel' (Nat.le_trans started order)
    obtain ⟨reports, heq⟩ := σ.stream.handled_eq command
      (σ.stream.worker.afterControl m.now σ.turn.connected call next result)
    rw [heq]
    simp only [work, hearControl, hs, answer]
    have hhandle := Bench.handle_of_react_control
      (t := (σ.hearControl result).turn.endsAt m.now (σ.turn.now + σ.stream.quietTime)) react
    refine inv.handled (by rw [hs]; rfl) rfl heard hhandle ?_ (hready ▸ hlater) ?_ rfl
    · simp [Turn.endsAt, hearControl, hends, begun.worker]
    · simp [Turn.endsAt, hearControl, hends, begun.worker, hseen, Stream.call?, hs]

/-- A burst looks at the data queue. -/
theorem Inv.look {burst : Burst} (inv : Inv first σ)
    (hs : σ.stream.stage = .handling command (.looking burst)) (order : σ.clock ≤ m.now)
    (h : σ.stream.continueTask m command (.looking burst) = some b) : Inv first (σ.work m b) := by
  obtain ⟨data, during, later, laterServed⟩ := fed_of_unlooked inv (by rw [Stream.hasLooked, hs])
  have hplaced := inv.placed
  simp only [Placed, hs] at hplaced
  obtain ⟨heard, started, pursues⟩ := hplaced
  have on : σ.stream.stage.isDone = false := by rw [hs]; rfl
  cases pursues with
  | looking react begun =>
    obtain ⟨hready, -⟩ := inv.ready_of_begun (by rw [Stream.hasLooked, hs]) begun
    have hdata : σ.stream.transport.data = ((σ.run first).1.ready σ.stream.setup σ.turn).data := by
      rw [hready]
    have hduring : ((σ.run first).1.ready σ.stream.setup σ.turn).data.serve σ.turn.during =
        (σ.stream.transport.data, []) := by
      rw [during, hready]
      rfl
    have hsum : σ.seen.served = σ.seen.served ++ [] := (List.append_nil _).symm
    have hbefore : ((σ.run first).1.data.serve σ.turn.before).2 = σ.seen.served := congrArg Prod.snd data
    simp only [Stream.continueTask] at h
    split at h <;> cases h
    next capture =>
      simp only [work, hs]
      refine inv.goOn rfl rfl rfl (fun _ => on)
        (.during rfl (by rw [Stream.hasTaken, capture]) hbefore hduring hsum later laterServed)
        ⟨heard, Nat.le_trans started order, ?_⟩
      rw [hdata]
      exact .sized react capture ⟨begun.worker, begun.seen⟩
    next playback =>
      simp only [work, hs]
      refine inv.goOn rfl rfl rfl (fun _ => on)
        (.during rfl rfl hbefore hduring hsum later laterServed)
        ⟨heard, Nat.le_trans started order, ?_⟩
      rw [hdata]
      exact .looked react playback ⟨begun.worker, begun.seen⟩

/-- A playback burst takes its bytes. -/
theorem Inv.take {burst : Burst} {count : Nat} (inv : Inv first σ)
    (hs : σ.stream.stage = .handling command (.taking burst count)) (order : σ.clock ≤ m.now)
    (h : σ.stream.continueTask m command (.taking burst count) = some b) : Inv first (σ.work m b) := by
  obtain ⟨data, sum, later, laterServed⟩ :=
    fed_of_looked inv (by rw [Stream.hasLooked, hs]) (by rw [Stream.hasTaken, hs])
  have hplaced := inv.placed
  simp only [Placed, hs] at hplaced
  obtain ⟨heard, started, pursues⟩ := hplaced
  have on : σ.stream.stage.isDone = false := by rw [hs]; rfl
  cases pursues with
  | @looked bytes react playback begun =>
    simp only [Stream.continueTask] at h
    split at h <;> cases h
    next taken rest hread =>
      have hfilled : (((σ.run first).1.ready σ.stream.setup σ.turn).data.serve σ.turn.during).1.read
          (σ.stream.setup.playbackTake ((σ.run first).1.ready σ.stream.setup σ.turn).data.readable) =
            some (taken, rest) := by
        rw [data]
        exact hread
      have hfill : σ.stream.worker.fill taken =
          ((σ.run first).1.ready σ.stream.setup σ.turn).worker.fill taken := by
        rw [begun.worker]
      have hlater : rest.serve σ.later = (rest, σ.laterServed) := by
        rw [later, laterServed]
        rfl
      simp only [work, hs]
      exact inv.goOn rfl rfl rfl (fun _ => on)
        (.later (by rw [Stream.hasTaken, playback]) rfl rfl sum hfilled hlater)
        ⟨heard, Nat.le_trans started order, .filled react playback hfilled ⟨hfill, begun.seen⟩⟩
    next hread =>
      have hstarved : (((σ.run first).1.ready σ.stream.setup σ.turn).data.serve σ.turn.during).1.read
          (σ.stream.setup.playbackTake ((σ.run first).1.ready σ.stream.setup σ.turn).data.readable) =
            none := by
        rw [data]
        exact hread
      have hends : σ.turn.now + (m.now - σ.turn.now) = m.now :=
        Nat.add_sub_cancel' (Nat.le_trans started order)
      have hquiet : σ.stream.quietTime = 0 := by rw [Stream.quietTime, hs]
      have hhandle := Bench.handle_of_react_burst (t := σ.turn.endsAt m.now σ.turn.now) react
      rw [Bench.burst_of_output playback,
        Bench.playback_of_starved (t := σ.turn.endsAt m.now σ.turn.now) hstarved] at hhandle
      obtain ⟨reports, heq⟩ := σ.stream.handled_eq command
        (σ.stream.worker.finishBurst σ.stream.setup m.now ⟨bytes, σ.turn.connected⟩ { frames := 0 } false)
      rw [heq]
      simp only [work, hs, answer, hquiet, Nat.add_zero]
      refine inv.handled on rfl heard hhandle ?worker ?data ?seen rfl
      case worker => simp [Turn.endsAt, hends, begun.worker]
      case data =>
        rw [later, laterServed]
        exact congrArg (·, []) data
      case seen =>
        rw [begun.seen, sum]
        simp [Turn.endsAt, hends, begun.worker]

/-- A burst that has not been moved is carried out with the flag that was found, and without a call so far. -/
theorem Inv.unmoved {burst : Burst} {size : Nat} (inv : Inv first σ)
    (hs : σ.stream.stage = .handling command (.moving burst size)) :
    σ.turn.connected = burst.connected ∧ σ.seen.call = none := by
  have hplaced := inv.placed
  simp only [Placed, hs] at hplaced
  cases hplaced.2.2 with
  | sized react capture begun => exact ⟨rfl, by rw [begun.seen]⟩
  | filled react playback read opened => exact ⟨rfl, by rw [opened.seen]⟩

/-- The bytes of a burst have been moved, by the driver or without a device. -/
theorem Inv.move {burst : Burst} {size : Nat} {r : Transferred} (inv : Inv first σ)
    (transfer : List UInt8 → Nat → Timed TransferAnswer)
    (hs : σ.stream.stage = .handling command (.moving burst size)) (order : σ.clock ≤ m.now)
    (silence : burst.connected = false → σ.clock + σ.stream.setup.silenceTime ≤ m.now)
    (hr : r = Bench.transfer σ.stream.setup (σ.turn.withTransfer transfer) size σ.stream.worker) :
    Inv first (work { σ with turn := σ.turn.withTransfer transfer, seen := { σ.seen with call := r.call } } m
      (σ.stream.afterMoving m command burst (r.worker, r.moved))) := by
  have hplaced := inv.placed
  simp only [Placed, hs] at hplaced
  obtain ⟨heard, started, pursues⟩ := hplaced
  have on : σ.stream.stage.isDone = false := by rw [hs]; rfl
  have hstarted : σ.turn.now ≤ m.now := Nat.le_trans started order
  cases pursues with
  | @sized bytes react capture begun =>
    obtain ⟨data, sum, later, laterServed⟩ :=
      fed_of_looked inv (by rw [Stream.hasLooked, hs]) (by rw [Stream.hasTaken, hs, capture])
    have hsilence (unconnected : σ.turn.connected = false) :
        σ.turn.now + σ.stream.setup.silenceTime ≤ m.now :=
      Nat.le_trans (Nat.add_le_add_right started _) (silence unconnected)
    rw [begun.worker] at hr
    simp only [work, hs, Stream.afterMoving, capture]
    exact inv.goOn rfl rfl rfl (fun _ => on)
      (.during rfl rfl rfl (Prod.ext data rfl) sum later laterServed)
      ⟨heard, hstarted, .captured react capture hr ⟨rfl, by rw [begun.seen]; rfl⟩ hsilence⟩
  | @filled bytes taken rest react playback read opened =>
    have hsilence (unconnected : σ.turn.connected = false) :
        σ.turn.now + σ.stream.setup.silenceTime ≤ m.now :=
      Nat.le_trans (Nat.add_le_add_right started _) (silence unconnected)
    obtain ⟨data, sum⟩ := fed_of_taken inv (by rw [Stream.hasTaken, hs, playback]) read
    have hends : Bench.transfer σ.stream.setup
        ((σ.turn.withTransfer transfer).endsAt m.now (σ.turn.now + σ.stream.setup.silenceTime))
        (σ.stream.setup.playbackSize bytes
          (σ.stream.setup.playbackTake ((σ.run first).1.ready σ.stream.setup σ.turn).data.readable))
        σ.stream.worker = { r with ends := m.now } := by
      rw [hr]
      exact Bench.transfer_endsAt (t := σ.turn.withTransfer transfer) m.now _ _ hstarted hsilence
    have hquiet : σ.stream.quietTime = σ.stream.setup.silenceTime := by rw [Stream.quietTime, hs]
    have hhandle := Bench.handle_of_react_burst
      (t := (σ.turn.withTransfer transfer).endsAt m.now (σ.turn.now + σ.stream.setup.silenceTime)) react
    rw [Bench.burst_of_output playback, Bench.playback_of_filled
      (t := (σ.turn.withTransfer transfer).endsAt m.now (σ.turn.now + σ.stream.setup.silenceTime)) read,
      ← opened.worker] at hhandle
    simp only [hends] at hhandle
    obtain ⟨reports, heq⟩ := σ.stream.handled_eq command
      (r.worker.finishBurst σ.stream.setup m.now ⟨bytes, σ.turn.connected⟩ r.moved true)
    simp only [Stream.afterMoving, playback]
    rw [heq]
    simp only [work, hs, answer, hquiet]
    refine inv.handled on rfl heard hhandle rfl data ?_ rfl
    rw [opened.seen, sum]
    rfl

/-- A capture burst appends what has been moved. -/
theorem Inv.append {burst : Burst} {moved : Moved} (inv : Inv first σ)
    (hs : σ.stream.stage = .handling command (.appending burst moved)) (order : σ.clock ≤ m.now)
    (h : σ.stream.continueTask m command (.appending burst moved) = some b) : Inv first (σ.work m b) := by
  obtain ⟨data, sum, later, laterServed⟩ :=
    fed_of_looked inv (by rw [Stream.hasLooked, hs]) (by rw [Stream.hasTaken, hs])
  have hplaced := inv.placed
  simp only [Placed, hs] at hplaced
  obtain ⟨heard, started, pursues⟩ := hplaced
  have on : σ.stream.stage.isDone = false := by rw [hs]; rfl
  cases pursues with
  | @captured bytes r react capture hr opened silence =>
    have hends := Bench.transfer_endsAt (s := σ.stream.setup) (t := σ.turn) m.now
      (σ.stream.setup.captureSize bytes ((σ.run first).1.ready σ.stream.setup σ.turn).data.writable)
      ((σ.run first).1.ready σ.stream.setup σ.turn).worker (Nat.le_trans started order)
      fun unconnected => Nat.le_trans (silence unconnected) order
    rw [← hr] at hends
    have hquiet : σ.stream.quietTime = σ.stream.setup.silenceTime := by rw [Stream.quietTime, hs]
    have hhandle := Bench.handle_of_react_burst
      (t := σ.turn.endsAt m.now (σ.turn.now + σ.stream.setup.silenceTime)) react
    rw [Bench.burst_of_input capture, Bench.capture_eq] at hhandle
    simp only [hends] at hhandle
    rw [show ((σ.run first).1.ready σ.stream.setup σ.turn).data.serve
      (σ.turn.endsAt m.now (σ.turn.now + σ.stream.setup.silenceTime)).during =
        (σ.stream.transport.data, _) from Prod.ext data rfl, ← opened.worker] at hhandle
    simp only [Stream.continueTask] at h
    split at h <;> cases h
    next queue hwrite =>
      obtain ⟨reports, heq⟩ := Stream.handled_eq
        { σ.stream with transport := { σ.stream.transport with data := queue } } command
        (σ.stream.worker.finishBurst σ.stream.setup m.now ⟨bytes, σ.turn.connected⟩ r.moved true)
      simp only [hwrite, Option.getD_some, Option.isSome_some] at hhandle
      rw [heq]
      simp only [work, hs, answer, hquiet]
      refine inv.handled on rfl heard hhandle rfl ?_ ?_ rfl
      · rw [later, laterServed]
        rfl
      · rw [opened.seen, sum]
        rfl
    next hwrite =>
      obtain ⟨reports, heq⟩ := σ.stream.handled_eq command
        (σ.stream.worker.finishBurst σ.stream.setup m.now ⟨bytes, σ.turn.connected⟩ r.moved false)
      simp only [hwrite, Option.getD_none, Option.isSome_none] at hhandle
      rw [heq]
      simp only [work, hs, answer, hquiet]
      refine inv.handled on rfl heard hhandle rfl ?_ ?_ rfl
      · rw [later, laterServed]
        rfl
      · rw [opened.seen, sum]
        rfl

/-- The worker writes its reply, or finds that nobody will read it. -/
theorem Inv.write {reply : Reply} (inv : Inv first σ) (hs : σ.stream.stage = .replying command reply)
    (h : σ.stream.writeReply reply = some b) : Inv first (σ.work m b) := by
  obtain ⟨data, during, later, laterServed⟩ := fed_of_unlooked inv (by rw [Stream.hasLooked, hs])
  have hplaced := inv.placed
  simp only [Placed, hs] at hplaced
  have on : σ.stream.stage.isDone = false := by rw [hs]; rfl
  unfold Stream.writeReply at h
  split at h
  next replies hwrite =>
    cases h
    simp only [work, hs]
    exact inv.goOn rfl rfl rfl (fun _ => on) (.before rfl data during later laterServed)
      ⟨hplaced.turn, hplaced.worker, hplaced.seen⟩
  next e hwrite =>
    cases h
    simp only [work, hs]
    exact inv.goOn rfl rfl rfl (fun _ => on) (.before rfl data during later laterServed)
      (placed_of_isDone rfl (.inr (by rw [← hplaced.worker]; rfl)))
  next => cases h

/-- A worker that has been through its last cycle leaves everything as it is. -/
theorem Inv.over (inv : Inv first σ) (hover : σ.stream.stage.isDone = true)
    (setup : b.setup = σ.stream.setup) (data : b.transport.data = σ.stream.transport.data)
    (worker : b.worker = σ.stream.worker) (stays : b.stage.isDone = true) :
    Inv first { σ with stream := b, clock := m.now } := by
  obtain ⟨hdata, during, later, laterServed⟩ :=
    fed_of_unlooked inv (Stream.hasLooked_of_isResting_or (.inr hover))
  have hworker : σ.stream.worker = (σ.run first).1.worker ∨
      σ.stream.worker = { (σ.run first).1.worker with state := .error } := by
    have hplaced := inv.placed
    unfold Placed at hplaced
    cases hs : σ.stream.stage with
    | reporting | closingCommands | closingReplies | leaving | stopped =>
      rw [hs] at hplaced
      exact hplaced
    | _ =>
      rw [hs] at hover
      cases hover
  refine inv.goOn setup rfl rfl (fun h => absurd (stays.symm.trans h) nofun)
    (.before (Stream.hasLooked_of_isResting_or (.inr stays)) ?_ during later laterServed)
    (placed_of_isDone stays ?_)
  · rw [data]
    exact hdata
  · rwa [worker]

theorem Inv.step (inv : Inv first σ) (h : σ.stream.step m = some b) (order : σ.clock ≤ m.now)
    (silence : σ.stream.isSilent = true → σ.clock + σ.stream.setup.silenceTime ≤ m.now) :
    Inv first (σ.work m b) := by
  unfold Stream.step at h
  split at h
  next hs =>
    cases h
    exact inv.begin m hs
  next hs =>
    cases h
    exact inv.arm m _ hs
  next hs => exact inv.await hs h
  next hs =>
    cases h
    exact inv.sample m hs
  next command task hs =>
    cases task with
    | looking burst => exact inv.look hs order h
    | taking burst count => exact inv.take hs order h
    | moving burst size =>
      simp only [Stream.continueTask] at h
      split at h <;> cases h
      next unconnected =>
        obtain ⟨hconnected, hcall⟩ := inv.unmoved hs
        have hsilent : σ.turn.connected = false := by simpa [hconnected] using unconnected
        have hmove := inv.move σ.turn.transfer hs order
          (fun _ => silence (by simp [Stream.isSilent, hs, unconnected])) rfl
        rw [Bench.transfer_of_unconnected (t := σ.turn.withTransfer σ.turn.transfer) hsilent,
          ← hcall] at hmove
        exact hmove
    | appending burst moved => exact inv.append hs order h
    | controlling connected call next => cases h
  next hs => exact inv.write hs h
  next reason hs =>
    cases h
    obtain ⟨reports, heq⟩ := Stream.report_eq { σ.stream with stage := .closingCommands } (.queueFailure reason)
    rw [heq]
    simp only [work, hs]
    exact inv.over (by rw [hs]; rfl) rfl rfl rfl rfl
  next hs =>
    cases h
    simp only [work, hs]
    exact inv.over (by rw [hs]; rfl) rfl rfl rfl rfl
  next hs =>
    cases h
    simp only [work, hs]
    exact inv.over (by rw [hs]; rfl) rfl rfl rfl rfl
  next hs =>
    cases h
    simp only [work, hs]
    exact inv.over (by rw [hs]; rfl) rfl rfl rfl rfl
  next => cases h

theorem Inv.note (inv : Inv first σ) (h : σ.stream.perform d = some b) (timely : σ.Timely d) :
    Inv first (σ.note d b) := by
  cases d with
  | work m => exact inv.step h timely.1 timely.2
  | endControl m result =>
    simp only [Stream.perform, Stream.answerControl] at h
    split at h <;> cases h
    next command connected call next hs => exact inv.control result hs timely
  | endTransfer m answer =>
    simp only [Stream.perform, Stream.answerTransfer] at h
    split at h
    next command burst size hs =>
      split at h <;> cases h
      next connected =>
        obtain ⟨hconnected, -⟩ := inv.unmoved hs
        have hmove := inv.move (fun _ _ => ⟨answer, 0⟩) hs timely
          (by simp [connected]) rfl
        rw [Bench.transfer_of_connected (t := σ.turn.withTransfer fun _ _ => ⟨answer, 0⟩)
          (hconnected.trans connected)] at hmove
        have hcall : σ.stream.call? = some (σ.stream.worker.transferCall σ.stream.setup size) := by
          simp [Stream.call?, hs, connected]
        simp only [Chronicle.note, hearTransfer, hcall]
        exact hmove
    next => cases h
  | _ => exact inv.outside rfl h

/-! ## Runs -/

theorem inv_opened (direction : Direction) (t : Transport) (cookie : Int32)
    (microphones : List (Device × String)) :
    Inv (Bench.initial (Setup.ofTransport t direction cookie) t.data)
      { stream := Stream.opened direction t cookie microphones } where
  cycles := rfl
  stays _ c hc := by cases hc
  fed := .before rfl rfl rfl rfl rfl
  placed := ⟨rfl, rfl, rfl⟩

theorem Inv.next (inv : Inv first σ) (h : σ.Step τ) : Inv first τ := by
  cases h with
  | deed d h timely => exact inv.note h timely
  | takeNotices count => exact inv.leave rfl rfl rfl rfl

theorem inv_of_reaches (inv : Inv first σ) (h : ReflTransGen Step σ τ) : Inv first τ := by
  induction h with
  | refl => exact inv
  | tail _ hstep ih => exact ih.next hstep

theorem setup_of_reaches (h : ReflTransGen Step σ τ) : τ.stream.setup = σ.stream.setup := by
  induction h with
  | refl => rfl
  | tail _ hstep ih =>
    cases hstep with
    | deed d h timely =>
      rw [stream_note, Stream.setup_of_step (Stream.exists_perform_iff.mp ⟨d, h⟩), ih]
    | takeNotices count => exact ih

section Opened

variable {direction : Direction} {t : Transport} {cookie : Int32} {microphones : List (Device × String)}

/-- Whatever others do between the steps of a worker, what is seen of its stream are the cycles of a run. When
no cycle is under way, the worker is where this run leads, and so is the data queue but for what the client
has done since. -/
theorem run_of_reaches
    (h : ReflTransGen Step { stream := Stream.opened direction t cookie microphones } σ) :
    let s := Setup.ofTransport t direction cookie
    let r := (Bench.initial s t.data).run s σ.turns
    r.2.map Cycle.unreported = σ.cycles ∧
      (σ.stream.stage.isResting = true → σ.stream.worker = r.1.worker ∧
        σ.stream.transport.data = (r.1.data.serve σ.turn.before).1) := by
  have inv := inv_of_reaches (inv_opened direction t cookie microphones) h
  have hrun : σ.run (Bench.initial (Setup.ofTransport t direction cookie) t.data) =
      (Bench.initial (Setup.ofTransport t direction cookie) t.data).run
        (Setup.ofTransport t direction cookie) σ.turns := by
    rw [run, setup_of_reaches h]
    rfl
  refine ⟨hrun ▸ inv.cycles, fun resting => ?_⟩
  obtain ⟨data, -⟩ := fed_of_unlooked inv (Stream.hasLooked_of_isResting_or (.inl resting))
  rw [← hrun]
  exact ⟨(inv.rested resting).worker, (congrArg Prod.fst data).symm⟩

/-! ## What holds of all runs -/

/-- When no cycle is under way, the frames that the worker has counted are the sum of what its replies tell,
unless there have been 2 ^ 43 bursts. -/
theorem counted_of_reaches {config : StreamConfig} {debug : DebugParameters} {notifies : Bool}
    (ht : Transport.configure config debug notifies = .ok t)
    (h : ReflTransGen Step { stream := Stream.opened direction t cookie microphones } σ)
    (hb : σ.turns.countP Turn.isBurst < 2 ^ 43) (resting : σ.stream.stage.isResting = true) :
    σ.stream.worker.frameCount.toInt * t.frameSize = movedBytes σ.cycles := by
  obtain ⟨hcycles, hrest⟩ := run_of_reaches h
  have hfresh := Transport.isFresh_of_configure ht
  have hsize : (Setup.ofTransport t direction cookie).bufferSize ≤ Transport.maximumBytes := by
    simpa [Setup.ofTransport, DataQueue.quantumCount, DataQueue.quantumSize] using hfresh.capacity_le
  have hstart : (Bench.initial (Setup.ofTransport t direction cookie) t.data).worker.frameCount.toInt = 0 := rfl
  have haccounts := Bench.run_accounts (s := Setup.ofTransport t direction cookie) hfresh.frameSize_pos hsize
    σ.turns (Bench.initial _ t.data) (Int.le_of_eq hstart.symm) (by rw [hstart]; omega)
  have hcount := haccounts.count
  rwa [hstart, Int.zero_mul, Int.zero_add, ← movedBytes_unreported, hcycles, ← (hrest resting).1] at hcount

/-- The cycles of a playback stream whose client does not read follow the table. -/
theorem follows_of_reaches
    (h : ReflTransGen Step { stream := Stream.opened .output t cookie microphones } σ)
    (hw : ∀ turn ∈ σ.turns, turn.OnlyWrites) :
    (Playback.table (Setup.ofTransport t .output cookie)).Follows {} σ.turns σ.cycles := by
  have hfollows : (Playback.table (Setup.ofTransport t .output cookie)).Follows {} σ.turns
      ((Bench.initial (Setup.ofTransport t .output cookie) t.data).run
        (Setup.ofTransport t .output cookie) σ.turns).2 := by
    refine Table.run_follows (T := Playback.table (Setup.ofTransport t .output cookie))
      (Playback.Known _) Turn.OnlyWrites (fun w now hk => Playback.resolve_elapse rfl now hk) ?_ σ.turns hw
      (Bench.initial _ t.data) fun _ => ⟨by simp [Bench.initial, Worker.initial],
        by simp [Bench.initial, Worker.initial]⟩
    intro turn command bench hturn hk hexit
    have hhandles := Playback.handles rfl hturn command bench hexit
    exact ⟨hhandles.answers, Playback.known_of_answers hhandles.answers hk, hhandles.stays⟩
  rw [← (run_of_reaches h).1]
  exact hfollows.unreported

end Opened

end Chronicle

end AudioStream
