import AudioStream.Worker.Cycle

/-!
# What a cycle consists of

A cycle resolves a transient state, lets the client at the data queue, and handles the command that was
heard. The lemmas here take a cycle, and a run, apart into these pieces, and say what the handling of a
command comes to for each decision about it.
-/

namespace AudioStream

/-- Only the exit command with the cookie of the stream ends a worker. -/
theorem Setup.decide_eq_stop_iff (s : Setup) {state : State} {command : Command} :
    s.decide state command = .stop ↔ command = .exit s.cookie := by
  cases command with
  | exit cookie =>
    cases hd : s.direction <;> by_cases hc : cookie = s.cookie <;>
      simp [decide, hd, hc, Decision.capture, Decision.playback]
  | burst n =>
    cases hd : s.direction <;> by_cases hn : n < 0 <;> cases state <;>
      simp [decide, hd, hn, Decision.capture, Decision.playback]
  | drain mode =>
    cases hd : s.direction <;> cases mode <;> cases state <;>
      simp [decide, hd, Decision.capture, Decision.playback]
  | _ => cases hd : s.direction <;> cases state <;>
      simp [decide, hd, Decision.capture, Decision.playback]

/-- The states in which a stream carries out a burst. -/
def Setup.moves (s : Setup) (state : State) : Bool :=
  match s.direction, state with
  | .input, .idle | .input, .active | .input, .paused | .input, .draining => true
  | .input, _ => false
  | .output, .transferring | .output, .transferPaused | .output, .error => false
  | .output, _ => true

theorem Setup.decide_burst (s : Setup) (state : State) (n : Int32) :
    s.decide state (.burst n) =
      if n < 0 then .reject else if s.moves state then .burst n.toInt.toNat else .refuse := by
  by_cases hn : n < 0
  · cases hd : s.direction <;> simp [decide, hd, hn, Decision.capture, Decision.playback]
  · cases hd : s.direction <;> cases state <;>
      simp [decide, hd, hn, moves, Decision.capture, Decision.playback]

theorem Setup.decide_eq_burst_iff (s : Setup) {state : State} {command : Command} {bytes : Nat} :
    s.decide state command = .burst bytes ↔
      ∃ n, command = .burst n ∧ 0 ≤ n ∧ s.moves state = true ∧ n.toInt.toNat = bytes := by
  cases command with
  | burst n =>
    rw [decide_burst]
    by_cases hn : n < 0
    · simp [hn, Int32.not_le.mpr hn]
    · cases s.moves state <;> simp [hn, Int32.not_lt.mp hn]
  | exit cookie =>
    cases hd : s.direction <;> by_cases hc : cookie = s.cookie <;>
      simp [decide, hd, hc, Decision.capture, Decision.playback]
  | drain mode =>
    cases hd : s.direction <;> cases mode <;> cases state <;>
      simp [decide, hd, Decision.capture, Decision.playback]
  | _ =>
    cases hd : s.direction <;> cases state <;>
      simp [decide, hd, Decision.capture, Decision.playback]

namespace Bench

/-- The worker and the data queue at the moment when the command of a turn is carried out. -/
def ready (s : Setup) (t : Turn) (bench : Bench) : Bench :=
  ⟨(bench.worker.resolve s t.begins).1, (bench.data.serve t.before).1⟩

variable {t : Turn} {turns : List Turn} {command : Command}

@[simp] theorem ready_worker (s : Setup) (t : Turn) (bench : Bench) :
    (bench.ready s t).worker = (bench.worker.resolve s t.begins).1 := rfl

/-- The reports of a client that fails to take the notice of a cycle. -/
def refusals (s : Setup) (t : Turn) (bench : Bench) : List StreamError :=
  ((bench.worker.resolve s t.begins).2.bind fun n => (t.refusal n).map n.failure).toList

theorem cycle_of_unheard (s : Setup) (bench : Bench) (h : t.heard = none) :
    bench.cycle s t = (bench.ready s t,
      { ends := t.begins
        notice := (bench.worker.resolve s t.begins).2
        reports := bench.refusals s t
        served := (bench.data.serve t.before).2 }) := by
  simp [cycle, h, ready, refusals]

theorem cycle_of_heard (s : Setup) (bench : Bench) (h : t.heard = some command) :
    bench.cycle s t = (((bench.ready s t).handle s t command).1,
      { ((bench.ready s t).handle s t command).2 with
        notice := (bench.worker.resolve s t.begins).2
        reports := bench.refusals s t ++ ((bench.ready s t).handle s t command).2.reports
        served := (bench.data.serve t.before).2
          ++ ((bench.ready s t).handle s t command).2.served }) := by
  simp [cycle, h, ready, refusals]

theorem run_cons_of_stays {s : Setup} {bench : Bench} (h : (bench.cycle s t).2.stops = false) :
    bench.run s (t :: turns) = (((bench.cycle s t).1.run s turns).1,
      (bench.cycle s t).2 :: ((bench.cycle s t).1.run s turns).2) := by
  simp [run, h]

theorem run_cons_of_stops {s : Setup} {bench : Bench} (h : (bench.cycle s t).2.stops = true) :
    bench.run s (t :: turns) = ((bench.cycle s t).1, [(bench.cycle s t).2]) := by
  simp [run, h]

/-- A part of a list of turns gives a part of the cycles. -/
theorem run_take (s : Setup) (bench : Bench) (turns : List Turn) (k : Nat) :
    (bench.run s (turns.take k)).2 = (bench.run s turns).2.take k := by
  induction turns generalizing bench k with
  | nil => simp [run]
  | cons t turns ih =>
    cases k with
    | zero => rfl
    | succ k =>
      rw [List.take_succ_cons]
      cases h : (bench.cycle s t).2.stops with
      | true => simp [run_cons_of_stops h]
      | false => simp [run_cons_of_stays h, ih]

/-- A cycle of a run is that of the bench which the cycles before it have left. -/
theorem eq_cycle_of_run {s : Setup} {bench : Bench} {i : Nat} {c : Cycle}
    (hc : (bench.run s turns).2[i]? = some c) (ht : turns[i]? = some t) :
    c = ((bench.run s (turns.take i)).1.cycle s t).2 := by
  induction turns generalizing bench i with
  | nil => simp at ht
  | cons u turns ih =>
    cases h : (bench.cycle s u).2.stops with
    | true =>
      rw [run_cons_of_stops h] at hc
      cases i with
      | zero =>
        obtain rfl : u = t := by simpa using ht
        simpa [run] using hc.symm
      | succ i => simp at hc
    | false =>
      rw [run_cons_of_stays h] at hc
      cases i with
      | zero =>
        obtain rfl : u = t := by simpa using ht
        simpa [run] using hc.symm
      | succ i =>
        rw [List.take_succ_cons, run_cons_of_stays h]
        exact ih (by simpa using hc) (by simpa using ht)

/-- One more turn is one more cycle, unless the worker has ended before. -/
theorem run_concat {s : Setup} {bench : Bench} (h : ∀ c ∈ (bench.run s turns).2, c.stops = false) (t : Turn) :
    bench.run s (turns ++ [t]) = (((bench.run s turns).1.cycle s t).1,
      (bench.run s turns).2 ++ [((bench.run s turns).1.cycle s t).2]) := by
  induction turns generalizing bench with
  | nil =>
    simp only [List.nil_append, run]
    split <;> rfl
  | cons first turns ih =>
    cases hstops : (bench.cycle s first).2.stops with
    | true =>
      rw [run_cons_of_stops hstops] at h
      have hstays := h _ List.mem_cons_self
      rw [hstops] at hstays
      cases hstays
    | false =>
      rw [run_cons_of_stays hstops] at h ⊢
      rw [List.cons_append, run_cons_of_stays hstops,
        ih fun c hc => h c (List.mem_cons_of_mem _ hc)]
      rfl

/-! ## Handling a command -/

section Handle

variable {s : Setup} {bench : Bench}

theorem handle_of_stop (h : s.decide bench.worker.state command = .stop) :
    bench.handle s t command = (bench, { ends := t.now, stops := true }) := by
  simp [handle, Worker.react, h]

theorem handle_of_reject (h : s.decide bench.worker.state command = .reject) :
    bench.handle s t command =
      (bench, { ends := t.now, reply := some { state := bench.worker.state } }) := by
  simp [handle, Worker.react, h, Handled.answer]

theorem handle_of_refuse (h : s.decide bench.worker.state command = .refuse) :
    bench.handle s t command = (bench,
      { ends := t.now
        reply := some { status := .invalidOperation, state := bench.worker.state } }) := by
  simp [handle, Worker.react, h, Handled.answer]

theorem handle_of_tell (h : s.decide bench.worker.state command = .tell) :
    bench.handle s t command = (bench,
      { ends := t.now
        reply := some { status := .ok, state := bench.worker.state
                        observable := bench.worker.position t.now t.connected } }) := by
  simp [handle, Worker.react, h, Handled.answer, Worker.succeed]

theorem handle_of_move {next : State} (h : s.decide bench.worker.state command = .move next) :
    bench.handle s t command = (⟨bench.worker.enter t.now next, bench.data⟩,
      { ends := t.now
        reply := some { status := .ok, state := (bench.worker.enter t.now next).state
                        observable := (bench.worker.enter t.now next).position t.now t.connected } }) := by
  simp [handle, Worker.react, h, Handled.answer, Worker.succeed]

theorem handle_of_control {call : Control} {next : State}
    (h : s.decide bench.worker.state command = .control call next) :
    bench.handle s t command =
      let ends := t.now + (t.control call).duration
      let done := bench.worker.afterControl ends t.connected call next (t.control call).answer
      (⟨done.worker, bench.data⟩,
        { ends, call := some (.control call), reply := some done.answer
          reports := done.report.toList }) := by
  simp [handle, Worker.react, h]

theorem handle_of_burst {bytes : Nat} (h : s.decide bench.worker.state command = .burst bytes) :
    bench.handle s t command =
      let (data, done, seen) := bench.burst s t bytes
      (⟨done.worker, data⟩,
        { seen with reply := some done.answer, reports := done.report.toList }) := by
  simp [handle, Worker.react, h]

theorem handle_exit (s : Setup) (t : Turn) (bench : Bench) :
    bench.handle s t (.exit s.cookie) = (bench, { ends := t.now, stops := true }) :=
  handle_of_stop (s.decide_eq_stop_iff.mpr rfl)

theorem handle_of_react_reply {h : Handled}
    (react : bench.worker.react s t.now t.connected command = .reply h) :
    bench.handle s t command = (⟨h.worker, bench.data⟩,
      { ends := t.now, reply := some h.answer, reports := h.report.toList }) := by
  simp [handle, react]

theorem handle_of_react_stop (react : bench.worker.react s t.now t.connected command = .stop) :
    bench.handle s t command = (bench, { ends := t.now, stops := true }) := by
  simp [handle, react]

theorem handle_of_react_control {call : Control} {next : State}
    (react : bench.worker.react s t.now t.connected command = .control call next) :
    bench.handle s t command =
      let ends := t.now + (t.control call).duration
      let done := bench.worker.afterControl ends t.connected call next (t.control call).answer
      (⟨done.worker, bench.data⟩,
        { ends, call := some (.control call), reply := some done.answer
          reports := done.report.toList }) := by
  simp [handle, react]

theorem handle_of_react_burst {bytes : Nat}
    (react : bench.worker.react s t.now t.connected command = .burst bytes) :
    bench.handle s t command = (⟨(bench.burst s t bytes).2.1.worker, (bench.burst s t bytes).1⟩,
      { (bench.burst s t bytes).2.2 with
        reply := some (bench.burst s t bytes).2.1.answer
        reports := (bench.burst s t bytes).2.1.report.toList }) := by
  simp [handle, react]

end Handle

end Bench

namespace Worker

variable (w : Worker) (now : Nat) (next : State)

@[simp] theorem state_enter : (w.enter now next).state = next := by
  unfold enter
  split <;> rfl

@[simp] theorem frameCount_enter : (w.enter now next).frameCount = w.frameCount := by
  unfold enter
  split <;> rfl

end Worker

end AudioStream
