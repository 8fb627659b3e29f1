import AudioStream.Proofs.Worker.Roles

/-!
# Captured audio arrives intact

Each burst of a capture stream contributes bytes: what the driver has left in the buffer for the frames
that it moved, silence if there is no device, and nothing if the driver failed. A client that reads as much
as it likes whenever it likes gets all contributions in their order, and what it has not read is in the
data queue.

The main statement is `Bench.served_append_contents`.
-/

namespace AudioStream

/-- What a transfer leaves in the part of the buffer that it was given. Behind the bytes of the answer the
buffer is as it was. -/
def TransferAnswer.left (answer : TransferAnswer) (given : List UInt8) : List UInt8 :=
  answer.buffer.take given.length ++ given.drop answer.buffer.length

/-- What a capture burst contributes that asks for frames and gives the driver a part of the buffer. -/
def Turn.yield (s : Setup) (t : Turn) (requested : Nat) (given : List UInt8) : List UInt8 :=
  if t.connected then
    let answer := (t.transfer given requested).answer
    match answer.result with
    | .ok r => (answer.left given).take (min r.frames requested * s.frameSize)
    | .error _ => []
  else List.replicate (requested * s.frameSize) 0

namespace Worker

variable (s : Setup) (w : Worker)

/-- A transfer overwrites the front of the buffer with what it leaves there. -/
theorem take_afterTransfer {size : Nat} (hsize : size ≤ w.buffer.length) (answer : TransferAnswer) :
    (w.afterTransfer s size answer).1.buffer.take size = answer.left (w.buffer.take size) := by
  have hgiven : (w.buffer.take size).length = size := List.length_take_of_le hsize
  simp only [afterTransfer]
  rw [w.take_fill (List.length_take_le _ _) hsize, TransferAnswer.left, hgiven, List.length_take]
  rcases Nat.le_total size answer.buffer.length with hle | hle
  · rw [Nat.min_eq_left hle, List.drop_of_length_le (by omega), List.drop_of_length_le (by omega)]
  · rw [Nat.min_eq_right hle]

end Worker

namespace Bench

variable {s : Setup} {t : Turn} {bench : Bench}

/-- The bytes that a transfer has moved are those that it contributes. -/
theorem movedBytes_transfer (hd : s.direction = .input) {size : Nat} {w : Worker}
    (hsize : size ≤ w.buffer.length) :
    (transfer s t size w).worker.movedBytes s (transfer s t size w).moved =
      t.yield s (s.frames size) (w.buffer.take size) := by
  have hfront : (transfer s t size w).worker.movedBytes s (transfer s t size w).moved =
      ((transfer s t size w).worker.buffer.take size).take
        ((transfer s t size w).moved.frames * s.frameSize) := by
    rw [List.take_take, Nat.min_eq_left (frames_transfer_mul_le_size s t size w)]
    rfl
  rw [hfront, Turn.yield]
  cases hc : t.connected with
  | true =>
    simp only [transfer, hc, if_true, w.take_afterTransfer s hsize]
    cases hr : (t.transfer (w.buffer.take size) (s.frames size)).answer.result with
    | ok r => simp only [Worker.afterTransfer, Moved.ofAnswer, hr, Setup.frames] at hr ⊢
    | error e =>
      simp only [Worker.afterTransfer, Moved.ofAnswer, hr, Setup.frames] at hr ⊢
      rw [Nat.zero_mul, List.take_zero]
  | false =>
    have hsilence : (w.withoutDevice s size).1.buffer.take size = List.replicate size 0 := by
      simp only [Worker.withoutDevice, hd]
      rw [w.take_fill (by simp) hsize]
      simp
    simp only [transfer, hc, Bool.false_eq_true, if_false, hsilence, Worker.moved_withoutDevice,
      Moved.withoutDevice, List.take_replicate]
    rw [Nat.min_eq_left (s.frames_mul_le size)]

/-- What the burst of a turn contributes, if one is carried out: it gets as much of the buffer as it asks
for and as there is room for. -/
def contribution (s : Setup) (t : Turn) (bench : Bench) : List UInt8 :=
  match bench.accepted s t with
  | some asked =>
    let free := (bench.ready s t).data.writable
    let size := min (min asked free) s.bufferSize
    t.yield s (size / s.frameSize) (bench.worker.buffer.take size)
  | none => []

/-- What the bursts of a run contribute, in their order. -/
def contributions (s : Setup) (bench : Bench) (turns : List Turn) : List UInt8 :=
  (bench.steps s turns).flatMap fun step => step.1.contribution s step.2

theorem passes_capture_cycle (hd : s.direction = .input) (fits : bench.Fits s) (hr : t.OnlyReads) :
    Passes bench.data.contents (bench.contribution s t) (bench.cycle s t).2.served
      (bench.cycle s t).1.data.contents := by
  have hbefore : Passes bench.data.contents [] (bench.data.serve t.before).2
      (bench.ready s t).data.contents := by
    rw [Passes, List.append_nil]
    exact bench.data.contents_serve_of_reads fun a ha => hr a (List.mem_append_left _ ha)
  cases ha : bench.accepted s t with
  | none =>
    have hidle := idles_of_accepted_eq_none ha
    rw [contribution, ha, hidle.data, hidle.served]
    exact hbefore
  | some asked =>
    have hduring : ∀ access ∈ t.during, access.IsRead := fun a ha => hr a (List.mem_append_right _ ha)
    have hready := fits.ready t
    obtain ⟨data, hdata, hcapture⟩ := capture_of_reads s (bench.ready s t) hduring asked
    have hsize : s.captureSize asked (bench.ready s t).data.writable ≤
        (bench.ready s t).worker.buffer.length := by
      rw [hready.buffer]
      exact Nat.min_le_right _ _
    have hgiven : (bench.ready s t).worker.buffer = bench.worker.buffer :=
      Worker.buffer_resolve s bench.worker t.begins
    rw [movedBytes_transfer hd hsize, hgiven] at hdata
    -- What the client reads during the burst was there before it; what the burst adds comes behind.
    have hburst : Passes (bench.ready s t).data.contents (bench.contribution s t)
        ((bench.ready s t).data.serve t.during).2 data.contents := by
      rw [Passes, hdata, contribution, ha, ← List.append_assoc,
        ← (bench.ready s t).data.contents_serve_of_reads hduring]
      rfl
    rw [cycle_of_accepted ha, burst, hd]
    dsimp only
    rw [hcapture]
    exact hbefore.trans hburst

theorem passes_capture_run (hd : s.direction = .input) {turns : List Turn}
    (hr : ∀ t ∈ turns, t.OnlyReads) (fits : bench.Fits s) :
    Passes bench.data.contents (bench.contributions s turns)
      ((bench.run s turns).2.flatMap Cycle.served) (bench.run s turns).1.data.contents := by
  rw [cycles_run, List.flatMap_map]
  apply passes_run
  intro step hmem
  obtain ⟨hfits, hturn⟩ := fits.of_mem_steps hmem
  exact passes_capture_cycle hd hfits (hr step.2 hturn)

/-! ## Streams on a transport -/

/-- A client that only reads gets the contributions of all bursts in their order, and what it has not read
at the end is in the data queue. -/
theorem served_append_contents {config : StreamConfig} {debug : DebugParameters} {notifies : Bool}
    {t : Transport} (ht : Transport.configure config debug notifies = .ok t) (cookie : Int32)
    (turns : List Turn) (hr : ∀ turn ∈ turns, turn.OnlyReads) (later : List Access)
    (hl : ∀ access ∈ later, access.IsRead) :
    let s := Setup.ofTransport t .input cookie
    let bench := Bench.initial s t.data
    let run := bench.run s turns
    let emptied := run.1.data.serve later
    run.2.flatMap Cycle.served ++ emptied.2 ++ emptied.1.contents = bench.contributions s turns := by
  intro s bench run emptied
  have hrun := passes_capture_run (s := s) rfl hr (fits_initial t .input cookie)
  have hempty : bench.data.contents = [] := (Transport.isFresh_of_configure ht).data_empty
  calc run.2.flatMap Cycle.served ++ emptied.2 ++ emptied.1.contents
      = run.2.flatMap Cycle.served ++ run.1.data.contents := by
        rw [List.append_assoc, ← run.1.data.contents_serve_of_reads hl]
    _ = bench.data.contents ++ bench.contributions s turns := hrun.symm
    _ = bench.contributions s turns := by rw [hempty, List.nil_append]

/-- A turn with a driver that fills the buffer with a number and says how many frames it got. -/
def fillingTurn (command : Command) (mark : UInt8) (result : Except DriverError Nat)
    (connected : Bool) (during : List Access) : Turn where
  begins := 0
  now := 0
  heard := some command
  connected := connected
  during := during
  control _ := ⟨.ok (), 0⟩
  transfer buffer _ := ⟨⟨List.replicate buffer.length mark, result.map (⟨·, 10⟩)⟩, 0⟩

/-- A burst of which the driver moves only one frame, one without a device, and one that fails. -/
def fillingRun : List Turn :=
  [fillingTurn .start 0 (.ok 0) true [], fillingTurn (.burst 10) 1 (.ok 1) true [],
    fillingTurn (.burst 5) 2 (.ok 9) false [.read 3], fillingTurn (.burst 8) 3 (.ok 9) true [.read 2],
    fillingTurn (.burst 8) 4 (.error (.callFailed "transfer" (-5))) true []]

theorem served_append_contents_fillingRun :
    Transport.configure { bufferFrames := 256 } {} false = .ok .small ∧
    (∀ turn ∈ fillingRun, turn.OnlyReads) ∧
    let s := Setup.ofTransport .small .input 7
    let run := (Bench.initial s Transport.small.data).run s fillingRun
    run.2.flatMap Cycle.served = [1, 1, 1, 1, 0] ∧
      run.1.data.contents = [0, 0, 0, 3, 3, 3, 3, 3, 3, 3, 3] ∧
      (Bench.initial s Transport.small.data).contributions s fillingRun =
        [1, 1, 1, 1, 0, 0, 0, 0, 3, 3, 3, 3, 3, 3, 3, 3] := by
  have hr : ∀ turn ∈ fillingRun, turn.OnlyReads := by
    simp [fillingRun, fillingTurn, Turn.OnlyReads, Access.IsRead]
  have hserved : ((Bench.initial (.ofTransport .small .input 7) Transport.small.data).run
      (.ofTransport .small .input 7) fillingRun).2.flatMap Cycle.served = [1, 1, 1, 1, 0] := by
    decide +kernel
  have hleft : ((Bench.initial (.ofTransport .small .input 7) Transport.small.data).run
      (.ofTransport .small .input 7) fillingRun).1.data.contents =
        [0, 0, 0, 3, 3, 3, 3, 3, 3, 3, 3] := by
    decide +kernel
  refine ⟨Transport.configure_small, hr, hserved, hleft, ?_⟩
  have hintact := served_append_contents Transport.configure_small 7 fillingRun hr [] nofun
  rw [← hintact]
  simp only [DataQueue.serve, hserved, hleft]
  rfl

end Bench

end AudioStream
