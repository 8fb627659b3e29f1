import AudioStream.Proofs.Queue.Data
import AudioStream.Proofs.Transport
import AudioStream.Proofs.Worker.Burst
import AudioStream.Proofs.Worker.Steps

/-!
# Replies to commands whose driver call failed

Whatever a worker calls the driver for, a call that fails leaves it in the error state, and the reply says
so. The status of the reply depends on the kind of the call: after a control call it is the one of a fresh
reply, while a burst fills in its reply as if it had succeeded in moving nothing.

The main statement is `Bench.reply_of_failed_call`.
-/

namespace AudioStream

/-- The status of the reply to a command whose driver call failed. -/
def DriverCall.statusOfFailure : DriverCall → Status
  | .control _ => .badValue
  | .transfer _ _ => .ok

/-- What the reply says to a command whose driver call failed. -/
structure Reply.Admits (r : Reply) (call : DriverCall) : Prop where
  status : r.status = call.statusOfFailure
  state : r.state = .error
  byteCount : r.byteCount = 0

namespace Bench

variable {s : Setup} {t : Turn} {bench : Bench} {call : DriverCall} {command : Command}

/-- A burst whose transfer failed has got its bytes, and moved none of them. -/
theorem admits_transfer {size : Nat} {w : Worker} {b : Burst}
    (hcall : (transfer s t size w).call = some call) (hfails : t.Fails call) :
    let r := transfer s t size w
    (r.worker.finishBurst s r.ends b r.moved true).answer.Admits call := by
  obtain ⟨e, he⟩ := (failure_transfer_iff s t size w).mpr ⟨call, hcall, hfails⟩
  have hnothing := frames_transfer_of_failure s t size w he
  have hkind := kind_transfer s t size w
  rw [hcall] at hkind
  intro r
  have hreply := r.worker.reply_finishBurst s r.ends b r.moved
  have hworker := r.worker.worker_finishBurst_of_failure s r.ends b r.moved he
  refine ⟨?_, ?_, ?_⟩
  · simp only [Handled.answer, hreply]
    cases call with
    | control control => split at hkind <;> cases hkind
    | transfer buffer frames => rfl
  · simp only [Handled.answer, hworker]
  · simp only [Handled.answer, hreply, r, hnothing, Nat.zero_mul]
    rfl

theorem admits_burst {bytes : Nat} (hcall : (bench.burst s t bytes).2.2.call = some call)
    (hfails : t.Fails call) : (bench.burst s t bytes).2.1.answer.Admits call := by
  unfold burst at hcall ⊢
  split at hcall
  next =>
    simp only [capture_eq] at hcall ⊢
    -- No bytes were moved, and there is room for none.
    obtain ⟨e, he⟩ := (failure_transfer_iff s t _ _).mpr ⟨call, hcall, hfails⟩
    rw [Worker.movedBytes, frames_transfer_of_failure s t _ _ he, Nat.zero_mul, List.take_zero,
      DataQueue.write_nil]
    exact admits_transfer hcall hfails
  next =>
    unfold playback at hcall ⊢
    dsimp only at hcall ⊢
    split at hcall
    next => exact admits_transfer hcall hfails
    next => cases hcall

theorem admits_handle (hcall : (bench.handle s t command).2.call = some call) (hfails : t.Fails call) :
    ∃ r, (bench.handle s t command).2.reply = some r ∧ r.Admits call := by
  cases hd : s.decide bench.worker.state command with
  | stop =>
    rw [handle_of_stop hd] at hcall
    cases hcall
  | reject =>
    rw [handle_of_reject hd] at hcall
    cases hcall
  | refuse =>
    rw [handle_of_refuse hd] at hcall
    cases hcall
  | tell =>
    rw [handle_of_tell hd] at hcall
    cases hcall
  | move next =>
    rw [handle_of_move hd] at hcall
    cases hcall
  | control control next =>
    rw [handle_of_control hd] at hcall ⊢
    cases hcall
    obtain ⟨e, he⟩ := hfails
    refine ⟨_, rfl, ?_⟩
    rw [he]
    exact ⟨rfl, rfl, rfl⟩
  | burst bytes =>
    rw [handle_of_burst hd] at hcall ⊢
    exact ⟨_, rfl, admits_burst hcall hfails⟩

theorem admits_cycle (hcall : (bench.cycle s t).2.call = some call) (hfails : t.Fails call) :
    ∃ r, (bench.cycle s t).2.reply = some r ∧ r.Admits call := by
  cases heard : t.heard with
  | none =>
    rw [cycle_of_unheard s bench heard] at hcall
    cases hcall
  | some command =>
    rw [cycle_of_heard s bench heard] at hcall ⊢
    exact admits_handle hcall hfails

/-- In every run of either direction, a command whose driver call fails is answered. The reply tells of the
error state and of no bytes. Its status is that of a malformed command if it was a control call that
failed, and that of success if it was a transfer. -/
theorem reply_of_failed_call (s : Setup) (data : DataQueue) (turns : List Turn) (step : Bench × Turn)
    (call : DriverCall) (hstep : step ∈ (Bench.initial s data).steps s turns)
    (hcall : (step.1.cycle s step.2).2.call = some call) (hfails : step.2.Fails call) :
    (step.1.cycle s step.2).2 ∈ ((Bench.initial s data).run s turns).2 ∧
    ∃ r, (step.1.cycle s step.2).2.reply = some r ∧ r.state = .error ∧ r.byteCount = 0 ∧
      r.status = call.statusOfFailure := by
  refine ⟨?_, ?_⟩
  · rw [cycles_run]
    exact List.mem_map_of_mem hstep
  · obtain ⟨r, hr, hadmits⟩ := admits_cycle hcall hfails
    exact ⟨r, hr, hadmits.state, hadmits.byteCount, hadmits.status⟩

/-- A turn with a device whose driver fails in whatever it is called for. -/
def failingTurn (command : Command) : Turn where
  begins := 0
  now := 0
  heard := some command
  connected := true
  control call := ⟨.error (.callFailed call.name (-5)), 0⟩
  transfer buffer _ := ⟨⟨buffer, .error (.callFailed "transfer" (-5))⟩, 0⟩

/-- The step in which a stream that has been started hears a command. -/
def stepOf (direction : Direction) (command : Command) : Bench × Turn :=
  let s := Setup.ofTransport .small direction 7
  (((Bench.initial s Transport.small.data).cycle s (failingTurn .start)).1, failingTurn command)

theorem stepOf_mem_steps (direction : Direction) (command : Command) :
    stepOf direction command ∈ (Bench.initial (.ofTransport .small direction 7) Transport.small.data).steps
      (.ofTransport .small direction 7) [failingTurn .start, failingTurn command] := by
  have hstays : ((Bench.initial (.ofTransport .small direction 7) Transport.small.data).cycle
      (.ofTransport .small direction 7) (failingTurn .start)).2.stops = false := by
    cases direction <;> rfl
  rw [steps_cons_of_stays hstays]
  exact List.mem_cons_of_mem _ List.mem_cons_self

/-- A playback stream is to go on standby, and the driver fails. -/
theorem reply_of_failed_call_standby :
    let s := Setup.ofTransport .small .output 7
    let step := stepOf .output .standby
    step ∈ (Bench.initial s Transport.small.data).steps s [failingTurn .start, failingTurn .standby] ∧
    (step.1.cycle s step.2).2.call = some (.control .standby) ∧ step.2.Fails (.control .standby) ∧
    ∃ r, (step.1.cycle s step.2).2.reply = some r ∧ r.state = .error ∧ r.byteCount = 0 ∧
      r.status = .badValue := by
  have hcall : ((stepOf .output .standby).1.cycle (.ofTransport .small .output 7)
      (stepOf .output .standby).2).2.call = some (.control .standby) := rfl
  have hfails : (stepOf .output .standby).2.Fails (.control .standby) := ⟨_, rfl⟩
  have hmem := stepOf_mem_steps .output .standby
  exact ⟨hmem, hcall, hfails, (reply_of_failed_call _ _ _ _ _ hmem hcall hfails).2⟩

/-- Not every reply to a command whose driver call failed tells of a failure by its status: a capture burst
whose transfer failed is answered as one that succeeds. -/
theorem exists_failed_call_ok : ¬ ∀ (turns : List Turn) (step : Bench × Turn) (call : DriverCall) (r : Reply),
    let s := Setup.ofTransport .small .input 7
    step ∈ (Bench.initial s Transport.small.data).steps s turns →
    (step.1.cycle s step.2).2.call = some call → step.2.Fails call →
    (step.1.cycle s step.2).2.reply = some r → r.status ≠ .ok := by
  intro h
  exact h [failingTurn .start, failingTurn (.burst 8)] (stepOf .input (.burst 8))
    (.transfer (List.replicate 8 0) 2)
    { status := .ok, state := .error, observable := ⟨0, 0⟩, byteCount := 0, latency := 10 }
    (stepOf_mem_steps .input (.burst 8)) rfl ⟨_, rfl⟩ rfl rfl

end Bench

end AudioStream
