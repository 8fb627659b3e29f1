import AudioStream.Proofs.Queue.Data
import AudioStream.Proofs.Worker.Cycle

/-!
# The steps of a run

A step of a run is a turn with the worker and the data queue that it finds. The turns after the one in
which the worker ends are no steps. What holds of each step holds of the run: in particular what passes
through the data queue in a run is what passes through it in the steps.
-/

namespace AudioStream

namespace Bench

variable (s : Setup)

/-- The turns that a worker takes, each with what it finds. -/
def steps (bench : Bench) : List Turn → List (Bench × Turn)
  | [] => []
  | t :: turns =>
    (bench, t) :: if (bench.cycle s t).2.stops then [] else (bench.cycle s t).1.steps turns

variable {s} {bench : Bench} {t : Turn} {turns : List Turn}

theorem steps_cons_of_stops (h : (bench.cycle s t).2.stops = true) :
    bench.steps s (t :: turns) = [(bench, t)] := by
  simp [steps, h]

theorem steps_cons_of_stays (h : (bench.cycle s t).2.stops = false) :
    bench.steps s (t :: turns) = (bench, t) :: (bench.cycle s t).1.steps s turns := by
  simp [steps, h]

theorem cycles_run (s : Setup) (bench : Bench) (turns : List Turn) :
    (bench.run s turns).2 = (bench.steps s turns).map fun step => (step.1.cycle s step.2).2 := by
  induction turns generalizing bench with
  | nil => rfl
  | cons t turns ih =>
    cases hstops : (bench.cycle s t).2.stops with
    | true => rw [run_cons_of_stops hstops, steps_cons_of_stops hstops, List.map_cons, List.map_nil]
    | false => rw [run_cons_of_stays hstops, steps_cons_of_stays hstops, List.map_cons, ih]

/-- What every cycle preserves holds at every step. -/
theorem of_mem_steps (Inv : Bench → Prop) (hcycle : ∀ bench t, Inv bench → Inv (bench.cycle s t).1)
    (h : Inv bench) {step : Bench × Turn} (hmem : step ∈ bench.steps s turns) :
    Inv step.1 ∧ step.2 ∈ turns := by
  induction turns generalizing bench with
  | nil => cases hmem
  | cons t turns ih =>
    cases hstops : (bench.cycle s t).2.stops with
    | true =>
      rw [steps_cons_of_stops hstops, List.mem_singleton] at hmem
      subst hmem
      exact ⟨h, List.mem_cons_self⟩
    | false =>
      rw [steps_cons_of_stays hstops, List.mem_cons] at hmem
      rcases hmem with rfl | hmem
      · exact ⟨h, List.mem_cons_self⟩
      · obtain ⟨hinv, hturn⟩ := ih (hcycle bench t h) hmem
        exact ⟨hinv, List.mem_cons_of_mem t hturn⟩

theorem passes_run {inflow outflow : Bench × Turn → List UInt8}
    (h : ∀ step ∈ bench.steps s turns, Passes step.1.data.contents (inflow step) (outflow step)
      (step.1.cycle s step.2).1.data.contents) :
    Passes bench.data.contents ((bench.steps s turns).flatMap inflow)
      ((bench.steps s turns).flatMap outflow) (bench.run s turns).1.data.contents := by
  induction turns generalizing bench with
  | nil => exact .refl _
  | cons t turns ih =>
    cases hstops : (bench.cycle s t).2.stops with
    | true =>
      rw [steps_cons_of_stops hstops] at h ⊢
      rw [run_cons_of_stops hstops]
      simpa using h (bench, t) List.mem_cons_self
    | false =>
      rw [steps_cons_of_stays hstops] at h ⊢
      rw [run_cons_of_stays hstops]
      exact (h (bench, t) List.mem_cons_self).trans
        (ih fun step hmem => h step (List.mem_cons_of_mem _ hmem))

end Bench

end AudioStream
