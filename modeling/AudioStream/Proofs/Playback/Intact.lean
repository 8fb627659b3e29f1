import AudioStream.Proofs.Worker.Roles
import AudioStream.Proofs.Worker.Table

/-!
# Playback data reaches the driver as written

Each burst of a playback stream takes all that is queued at that moment, and gives the driver as much of
its front as was asked for. If nothing is held back and a device stays connected, the driver gets all that
the client wrote, in the order in which it was written.

The main statement is `Bench.playback_intact`.
-/

namespace AudioStream

/-- The buffer that a cycle gives to the driver. -/
def Cycle.played (c : Cycle) : List UInt8 :=
  match c.call with
  | some (.transfer buffer _) => buffer
  | _ => []

namespace Bench

variable {s : Setup} {t : Turn} {bench : Bench}

/-- What the client gets into the data queue in a turn. Only in a burst there is a time at which the worker
has looked at the queue and is not yet done with it. -/
def written (s : Setup) (t : Turn) (bench : Bench) : List UInt8 :=
  bench.data.admitted t.before ++
    if (bench.accepted s t).isSome then (bench.ready s t).data.admitted t.during else []

/-- What the worker takes off the data queue in a turn. -/
def taken (s : Setup) (t : Turn) (bench : Bench) : List UInt8 :=
  if (bench.accepted s t).isSome then (bench.ready s t).data.contents else []

theorem playback_of_accepted (hd : s.direction = .output) (fits : bench.Fits s) (hw : t.OnlyWrites)
    {asked : Nat} (ha : bench.accepted s t = some asked) :
    let size := s.playbackSize asked (bench.ready s t).data.readable
    (bench.cycle s t).1.data.contents = (bench.ready s t).data.admitted t.during ∧
    (bench.cycle s t).2.call =
      if t.connected then
        some (.transfer ((bench.ready s t).data.contents.take size) (s.frames size))
      else none := by
  intro size
  have hready := fits.ready t
  obtain ⟨data, hdata, hplayback⟩ := playback_of_writes s (bench.ready s t)
    (fun a ha => hw a (List.mem_append_right _ ha)) (Nat.le_of_eq hready.capacity) asked
  have hcycle := cycle_of_accepted ha
  rw [burst, hd] at hcycle
  dsimp only at hcycle
  rw [hplayback] at hcycle
  rw [hcycle]
  refine ⟨hdata, ?_⟩
  cases hc : t.connected with
  | true =>
    simp only [transfer, hc, if_true, Worker.transferCall]
    rw [take_fill_contents hready (s.playbackSize_le_taken _ _)]
  | false => simp [transfer, hc]

/-! ## What a step moves -/

section Step

variable (hd : s.direction = .output) (fits : bench.Fits s) (hw : t.OnlyWrites)

include hd fits hw

theorem passes_playback_cycle :
    Passes bench.data.contents (bench.written s t) (bench.taken s t)
      (bench.cycle s t).1.data.contents := by
  have hbefore : (bench.ready s t).data.contents = bench.data.contents ++ bench.data.admitted t.before :=
    bench.data.contents_serve_of_writes fun a ha => hw a (List.mem_append_left _ ha)
  cases ha : bench.accepted s t with
  | none =>
    have hidle := idles_of_accepted_eq_none ha
    simp [Passes, written, taken, ha, hidle.data, hbefore]
  | some asked =>
    obtain ⟨hleft, -⟩ := playback_of_accepted hd fits hw ha
    simp [Passes, written, taken, ha, hleft, hbefore]

/-- With a device, the driver gets all that a burst takes if the burst asks for it and holds nothing
back. -/
theorem played_eq_taken (hc : t.connected = true) (hshort : s.shortBursts = false)
    (hall : ∀ asked, bench.accepted s t = some asked → (bench.ready s t).data.readable ≤ asked) :
    (bench.cycle s t).2.played = bench.taken s t := by
  unfold Cycle.played taken
  cases ha : bench.accepted s t with
  | none =>
    have hidle := idles_of_accepted_eq_none ha
    split
    next buffer frames hcall => exact absurd hcall (hidle.call buffer frames)
    next => rfl
  | some asked =>
    have hbuffer : (bench.ready s t).data.readable ≤ s.bufferSize :=
      (fits.ready t).capacity ▸ (bench.ready s t).data.length_le
    obtain ⟨-, hcall⟩ := playback_of_accepted hd fits hw ha
    rw [hcall, hc, if_pos rfl, s.playbackSize_eq (hall asked ha) hbuffer hshort]
    exact List.take_length

end Step

/-! ## What a run moves -/

section Run

variable {turns : List Turn} (hd : s.direction = .output) (fits : bench.Fits s)
  (hw : ∀ turn ∈ turns, turn.OnlyWrites)

include hd fits hw

theorem passes_playback_run :
    Passes bench.data.contents ((bench.steps s turns).flatMap fun step => step.1.written s step.2)
      ((bench.steps s turns).flatMap fun step => step.1.taken s step.2)
      (bench.run s turns).1.data.contents := by
  apply passes_run
  intro step hmem
  obtain ⟨hfits, hturn⟩ := fits.of_mem_steps hmem
  exact passes_playback_cycle hd hfits (hw step.2 hturn)

theorem played_run_eq_taken (hc : ∀ turn ∈ turns, turn.connected = true)
    (hshort : s.shortBursts = false)
    (hall : ∀ before turn asked, (before, turn) ∈ bench.steps s turns →
      before.accepted s turn = some asked → (before.ready s turn).data.readable ≤ asked) :
    (bench.run s turns).2.flatMap Cycle.played =
      (bench.steps s turns).flatMap fun step => step.1.taken s step.2 := by
  rw [cycles_run, List.flatMap_map]
  apply congrArg List.flatten
  apply List.map_congr_left
  rintro ⟨before, turn⟩ hmem
  obtain ⟨hfits, hturn⟩ := fits.of_mem_steps hmem
  exact played_eq_taken hd hfits (hw turn hturn) (hc turn hturn) hshort
    fun asked => hall before turn asked hmem

end Run

/-! ## Streams on a transport -/

/-- What becomes of the bytes that a client writes which only writes. Every burst takes all that is queued
when the worker looks, and leaves what comes later. If a device is connected, the driver gets the front of
what was taken. All that was taken and what is left in the data queue is what was written, in this order;
and so is all that the driver got and what is left, if a device stays connected, no frame is held back and
every burst asks for all that is queued. -/
theorem playback_intact {config : StreamConfig} {debug : DebugParameters} {notifies : Bool}
    {t : Transport} (ht : Transport.configure config debug notifies = .ok t) (cookie : Int32)
    (turns : List Turn) (hw : ∀ turn ∈ turns, turn.OnlyWrites) (later : List Access)
    (hl : ∀ access ∈ later, access.IsWrite) :
    let s := Setup.ofTransport t .output cookie
    let bench := Bench.initial s t.data
    let run := bench.run s turns
    let left := (run.1.data.serve later).1.contents
    let sent := ((bench.steps s turns).flatMap fun step => step.1.written s step.2) ++
      run.1.data.admitted later
    (∀ before turn asked, (before, turn) ∈ bench.steps s turns →
      before.accepted s turn = some asked →
        let queued := (before.ready s turn).data.contents
        let whole := min asked queued.length
        let size :=
          if t.debug.shortBursts = true ∧ t.frameSize ≤ whole then whole - t.frameSize else whole
        (before.cycle s turn).1.data.contents = (before.ready s turn).data.admitted turn.during ∧
        (before.cycle s turn).2.call =
          if turn.connected then some (.transfer (queued.take size) (size / t.frameSize)) else none) ∧
    ((bench.steps s turns).flatMap fun step => step.1.taken s step.2) ++ left = sent ∧
    (t.debug.shortBursts = false → (∀ turn ∈ turns, turn.connected = true) →
      (∀ before turn asked, (before, turn) ∈ bench.steps s turns →
        before.accepted s turn = some asked → (before.ready s turn).data.readable ≤ asked) →
      run.2.flatMap Cycle.played ++ left = sent) := by
  intro s bench run left sent
  have fits : bench.Fits s := fits_initial t .output cookie
  have hempty : bench.data.contents = [] := (Transport.isFresh_of_configure ht).data_empty
  have hintact : ((bench.steps s turns).flatMap fun step => step.1.taken s step.2) ++ left = sent := by
    have hrun := passes_playback_run (s := s) rfl fits hw
    have hlast : Passes run.1.data.contents (run.1.data.admitted later) [] left :=
      (run.1.data.contents_serve_of_writes hl).symm
    have hall := hrun.trans hlast
    rw [Passes, hempty, List.nil_append, List.append_nil] at hall
    exact hall.symm
  refine ⟨?_, hintact, ?_⟩
  · intro before turn asked hmem ha queued whole size
    obtain ⟨hfits, hturn⟩ := fits.of_mem_steps hmem
    have hbuffer : queued.length ≤ s.bufferSize :=
      (hfits.ready turn).capacity ▸ (before.ready s turn).data.length_le
    have hsize : s.playbackSize asked queued.length = size := s.playbackSize_of_le hbuffer asked
    rw [← hsize]
    exact playback_of_accepted rfl hfits (hw turn hturn) ha
  · intro hshort hc hall
    have hplayed := played_run_eq_taken (s := s) rfl fits hw hc hshort hall
    rw [hplayed, hintact]

/-- A turn with a device, and a client that writes. -/
def writingTurn (before during : List (List UInt8)) (command : Command) : Turn where
  begins := 0
  now := 0
  heard := some command
  connected := true
  before := before.map .write
  during := during.map .write
  control _ := ⟨.ok (), 0⟩
  transfer buffer frames := ⟨⟨buffer, .ok ⟨frames, 10⟩⟩, 0⟩

/-- Two bursts. The second one gets what was written during the first one. -/
def writingRun : List Turn :=
  [writingTurn [[1, 2]] [] .start, writingTurn [[3, 4, 5]] [[6], [7, 8]] (.burst 8),
    writingTurn [[9]] [[10]] (.burst 4), writingTurn [[11]] [] .pause]

theorem playback_intact_writingRun :
    Transport.configure { bufferFrames := 256 } {} false = .ok .small ∧
    (∀ turn ∈ writingRun, turn.OnlyWrites) ∧ (∀ turn ∈ writingRun, turn.connected = true) ∧
    let s := Setup.ofTransport .small .output 7
    let run := (Bench.initial s Transport.small.data).run s writingRun
    run.2.map Cycle.played = [[], [1, 2, 3, 4, 5], [6, 7, 8, 9], []] ∧
      run.1.data.contents = [10, 11] ∧
      ((Bench.initial s Transport.small.data).steps s writingRun).flatMap
        (fun step => step.1.written s step.2) = [1, 2, 3, 4, 5, 6, 7, 8, 9, 10, 11] := by
  have hw : ∀ turn ∈ writingRun, turn.OnlyWrites := by
    simp [writingRun, writingTurn, Turn.OnlyWrites]
  have hc : ∀ turn ∈ writingRun, turn.connected = true := by decide
  have hall : ∀ step ∈ (Bench.initial (.ofTransport .small .output 7) Transport.small.data).steps
      (.ofTransport .small .output 7) writingRun,
      (step.1.accepted (.ofTransport .small .output 7) step.2).all
        ((step.1.ready (.ofTransport .small .output 7) step.2).data.readable ≤ ·) = true := by
    decide +kernel
  have hplayed : ((Bench.initial (.ofTransport .small .output 7) Transport.small.data).run
      (.ofTransport .small .output 7) writingRun).2.map Cycle.played =
        [[], [1, 2, 3, 4, 5], [6, 7, 8, 9], []] := by
    decide +kernel
  have hleft : ((Bench.initial (.ofTransport .small .output 7) Transport.small.data).run
      (.ofTransport .small .output 7) writingRun).1.data.contents = [10, 11] := by
    decide +kernel
  obtain ⟨-, -, hintact⟩ := playback_intact Transport.configure_small 7 writingRun hw [] nofun
  have hsent := hintact rfl hc fun before turn asked hmem ha => by simpa [ha] using hall _ hmem
  refine ⟨Transport.configure_small, hw, hc, hplayed, hleft, ?_⟩
  rw [List.flatMap_def, hplayed] at hsent
  simp only [DataQueue.serve, DataQueue.admitted, hleft, List.append_nil] at hsent
  exact hsent.symm

end Bench

end AudioStream
