import AudioStream.Proofs.Worker.Cycle

/-!
# The timer of transient states

A transient state of a playback stream is due once the delay since its entry has run out. What is due
stays due, so it does not matter at which of two checks it is found to be, and a worker that is checked
twice is where the later check alone would have led it.
-/

namespace AudioStream

namespace Setup

/-- Where a state leads when it is due. A client that is not told knows only drains. -/
def settle (s : Setup) : State → State
  | .draining => .idle
  | .transferring => if s.notifies then .active else .idle
  | state => state

/-- What a client is told when a state is due. -/
def notice (s : Setup) : State → Option Notice
  | .draining => if s.notifies then some .drainReady else none
  | .transferring => if s.notifies then some .transferReady else none
  | _ => none

theorem isTransient_settle (s : Setup) (state : State) : (s.settle state).isTransient = false := by
  cases state with
  | transferring => cases hn : s.notifies <;> simp [settle, State.isTransient, hn]
  | _ => rfl

end Setup

namespace Worker

/-- The delay of a transient state has run out. -/
structure Due (s : Setup) (now : Nat) (w : Worker) : Prop where
  output : s.direction = .output
  transient : w.state.isTransient = true
  elapsed : s.delay ≤ now - w.since

variable {s : Setup} {w : Worker} {now later : Nat}

theorem due_iff : w.Due s now ↔
    s.direction = .output ∧ w.state.isTransient = true ∧ s.delay ≤ now - w.since :=
  ⟨fun h => ⟨h.output, h.transient, h.elapsed⟩, fun ⟨output, transient, elapsed⟩ =>
    ⟨output, transient, elapsed⟩⟩

instance : Decidable (w.Due s now) := decidable_of_iff' _ due_iff

theorem Due.mono (h : w.Due s now) (hle : now ≤ later) : w.Due s later :=
  ⟨h.output, h.transient, Nat.le_trans h.elapsed (Nat.sub_le_sub_right hle _)⟩

theorem resolve_of_due (h : w.Due s now) :
    w.resolve s now = ({ w with state := s.settle w.state }, s.notice w.state) := by
  unfold resolve
  rw [if_pos (due_iff.mp h)]
  have htransient := h.transient
  cases hs : w.state with
  | draining | transferring => cases hn : s.notifies <;> simp [Setup.settle, Setup.notice, hn]
  | _ => simp [hs, State.isTransient] at htransient

theorem resolve_of_not_due (h : ¬ w.Due s now) : w.resolve s now = (w, none) := by
  unfold resolve
  exact if_neg (mt due_iff.mpr h)

theorem due_of_resolve_ne (h : (w.resolve s now).1 ≠ w) : w.Due s now :=
  Decidable.byContradiction fun hdue => h (congrArg Prod.fst (resolve_of_not_due hdue))

theorem not_due_of_settled (h : w.Due s now) :
    ¬ (w.resolve s now).1.Due s later := by
  intro hdue
  have htransient := hdue.transient
  rw [resolve_of_due h] at htransient
  exact absurd htransient (by simp [s.isTransient_settle])

/-- After an earlier check the later one leads to the same worker. -/
theorem resolve_resolve (hle : now ≤ later) :
    ((w.resolve s now).1.resolve s later).1 = (w.resolve s later).1 := by
  by_cases h : w.Due s now
  · rw [resolve_of_not_due (not_due_of_settled h), resolve_of_due h, resolve_of_due (h.mono hle)]
  · rw [resolve_of_not_due h]

/-- Between them, the two checks tell what the later one alone would have told. -/
theorem notices_resolve (hle : now ≤ later) :
    (w.resolve s now).2.toList ++ ((w.resolve s now).1.resolve s later).2.toList =
      (w.resolve s later).2.toList := by
  by_cases h : w.Due s now
  · rw [resolve_of_not_due (not_due_of_settled h), resolve_of_due h, resolve_of_due (h.mono hle)]
    simp
  · simp [resolve_of_not_due h]

end Worker

namespace Bench

/-- The notice of a cycle is that of its check. -/
theorem notice_cycle (s : Setup) (bench : Bench) (t : Turn) :
    (bench.cycle s t).2.notice = (bench.worker.resolve s t.begins).2 := by
  cases heard : t.heard with
  | none => rw [cycle_of_unheard s bench heard]
  | some command => rw [cycle_of_heard s bench heard]

end Bench

end AudioStream
