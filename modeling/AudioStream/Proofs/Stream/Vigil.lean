import AudioStream.Proofs.Stream.Outside
import AudioStream.Proofs.Stream.Timing
import AudioStream.Proofs.Transport
import AudioStream.Proofs.Worker.Rejected
import Mathlib.Logic.Relation

/-!
# Transient states last as long as they should

A watcher who hears the replies of a playback stream and sees the clock knows how long the stream stays in
a transient state. A stay begins when a start, a burst or a drain is answered with a transient state, and
ends when a command is answered with another one, or with the first cycle that begins when the delay is
over. Commands that are rejected, and those that ask for the state, do not postpone this. The watcher also
counts how often the worker has waited for the next command in vain.

The main statement is `Vigil.timely_of_reaches`.
-/

open Relation

namespace AudioStream

/-- What a step of a worker is to a watcher. -/
inductive Beat where
  | begins
  | takes
  | timesOut
  | answers (command : Command) (reply : Reply)
  | aborts
  | other

def Stage.beat : Stage → Stage → Beat
  | fresh, _ => .begins
  | waiting _, sampling _ => .takes
  | waiting _, fresh => .timesOut
  | sampling _, replying command reply | handling _ _, replying command reply => .answers command reply
  | _, reporting _ => .aborts
  | _, _ => .other

namespace Stage

variable {a b : Stage} {command : Command} {task : Task} {reply : Reply} {reason : String}

theorem beat_handling (h : a.isBusy = true) : a.beat (.handling command task) = .other := by
  cases a <;> first | rfl | cases h

theorem beat_replying (h : a.isBusy = true) :
    a.beat (.replying command reply) = .answers command reply := by
  cases a <;> first | rfl | cases h

theorem beat_reporting (h : a ≠ .fresh) : a.beat (.reporting reason) = .aborts := by
  cases a <;> first | rfl | exact absurd rfl h

theorem beat_ending (h : a ≠ .fresh) (hb : b.isEnding = true) : a.beat b = .other := by
  cases a <;> cases b <;> first | rfl | exact absurd rfl h | cases hb

end Stage

/-- A stay in a transient state. -/
structure Stay where
  state : State
  entered : Nat

namespace Stay

/-- The stay after a step at some time. A cycle ends a stay that has lasted for the delay. A command ends it
unless it is answered with a transient state; a start, a burst or a drain then begins another one. -/
def after (delay now : Nat) (stay : Option Stay) : Beat → Option Stay
  | .begins => stay.filter fun stay => now < stay.entered + delay
  | .answers command reply =>
    if reply.state.isTransient then
      if command.rearms ∧ ¬ reply.Rejects then some ⟨reply.state, now⟩ else stay
    else none
  | .aborts => none
  | .takes | .timesOut | .other => stay

end Stay

/-- A stream that is watched. -/
structure Vigil where
  stream : Stream
  /-- The last reading of the clock. -/
  clock : Nat := 0
  stay : Option Stay := none
  /-- How often the worker has waited in vain since it took its last command. -/
  waits : Nat := 0

namespace Vigil

/-- What the watcher knows after a step of the worker. -/
def work (σ : Vigil) (now : Nat) (b : Stream) : Vigil where
  stream := b
  clock := now
  stay := Stay.after σ.stream.setup.delay now σ.stay (σ.stream.stage.beat b.stage)
  waits := match σ.stream.stage.beat b.stage with
    | .takes => 0
    | .timesOut => σ.waits + 1
    | _ => σ.waits

/-- The clock does not go back. -/
inductive Step : Vigil → Vigil → Prop where
  | work {σ : Vigil} {b : Stream} (m : Moment) (later : σ.clock ≤ m.now) (h : σ.stream.WorksAt m b) :
      Step σ (σ.work m.now b)
  | outside {σ : Vigil} {b : Stream} (h : σ.stream.Outside b) : Step σ { σ with stream := b }

end Vigil

/-! ## Stays and the timer of the worker -/

namespace Mode

/-- The stay of a mode, by the timer of the worker. -/
def stay? (m : Mode) : Option Stay := if m.state.isTransient then some ⟨m.state, m.since⟩ else none

variable {m n : Mode} {now : Nat} {command : Command} {reply : Reply}

theorem stay?_of_transient (h : m.state.isTransient = true) : m.stay? = some ⟨m.state, m.since⟩ :=
  if_pos h

theorem stay?_eq_none_iff : m.stay? = none ↔ m.state.isTransient = false := by
  simp [stay?]

theorem stay?_of_becomes (h : m.Becomes now command reply n) (delay : Nat) :
    n.stay? = Stay.after delay now m.stay? (.answers command reply) := by
  cases h with
  | keep state told =>
    have hkept : ¬ (command.rearms = true ∧ ¬ reply.Rejects) := by
      rcases told with rfl | hrejects
      · simp [Command.rearms]
      · exact fun h => h.2 hrejects
    rw [Stay.after, if_neg hkept, state]
    split
    next => rfl
    next h => exact stay?_eq_none_iff.mpr (by simpa using h)
  | @enter next state accepts rearms =>
    rw [Stay.after, state]
    by_cases h : next.isTransient = true
    · simp [stay?, enter, h, rearms h, accepts]
    · simp [stay?, enter, h]
  | fail state => simp [stay?, Stay.after, state, State.isTransient]

end Mode

namespace Worker

variable {s : Setup} {w : Worker} {now : Nat}

theorem due_iff_of_le (hd : s.direction = .output) (hle : w.since ≤ now) :
    w.Due s now ↔ w.state.isTransient = true ∧ w.since + s.delay ≤ now := by
  constructor
  · intro h
    have := h.elapsed
    exact ⟨h.transient, by omega⟩
  · rintro ⟨htransient, hover⟩
    exact ⟨hd, htransient, by omega⟩

/-- The check of a cycle ends the stay that has lasted for the delay. -/
theorem stay?_resolve (hd : s.direction = .output) (hle : w.since ≤ now) :
    (w.resolve s now).1.mode.stay? = Stay.after s.delay now w.mode.stay? .begins := by
  cases ht : w.state.isTransient with
  | false =>
    have hnone : w.mode.stay? = none := Mode.stay?_eq_none_iff.mpr ht
    rw [resolve_of_not_due fun h => by simp [h.transient] at ht, hnone]
    rfl
  | true =>
    have hsome : w.mode.stay? = some ⟨w.state, w.since⟩ := Mode.stay?_of_transient ht
    have hdue := due_iff_of_le hd hle
    by_cases hover : w.since + s.delay ≤ now
    · have hsettled : ({ w with state := s.settle w.state } : Worker).mode.stay? = none :=
        Mode.stay?_eq_none_iff.mpr (s.isTransient_settle w.state)
      rw [resolve_of_due (hdue.mpr ⟨ht, hover⟩), hsome]
      exact hsettled.trans (by simp [Stay.after, Option.filter, Nat.not_lt.mpr hover])
    · have hkept : (w.resolve s now).1 = w := by
        rw [resolve_of_not_due fun h => hover (hdue.mp h).2]
      rw [hkept, hsome]
      simp [Stay.after, Option.filter, Nat.not_le.mp hover]

theorem since_resolve (s : Setup) (now : Nat) (w : Worker) : (w.resolve s now).1.since = w.since := by
  fun_cases resolve <;> rfl

end Worker

namespace Vigil

/-! ## What a watcher knows -/

/-- How often the worker has waited in vain, by its stage. When a wait was in vain there is no stay that is
not over, so the next wait has no deadline. A wait with a deadline is for the end of the stay, and ends at
once if the stay is over already. -/
def Alert (σ : Vigil) : Prop :=
  match σ.stream.stage with
  | .fresh => σ.waits = 0 ∨
      σ.waits = 1 ∧ ∀ stay, σ.stay = some stay → stay.entered + σ.stream.setup.delay ≤ σ.clock
  | .arming => σ.waits = 0 ∨ σ.waits = 1 ∧ σ.stay = none
  | .waiting none => σ.waits ≤ 1 ∧ σ.stay = none
  | .waiting (some deadline) => σ.waits = 0 ∧
      ∃ stay, σ.stay = some stay ∧ deadline = max σ.clock (stay.entered + σ.stream.setup.delay)
  | .sampling _ | .handling _ _ | .replying _ _ => σ.waits = 0
  | _ => σ.waits ≤ 1

structure Inv (σ : Vigil) : Prop where
  output : σ.stream.setup.direction = .output
  decided : σ.stream.Decided
  /-- The watcher knows what the timer of the worker says. -/
  stay : σ.stay = σ.stream.worker.mode.stay?
  since : σ.stream.worker.since ≤ σ.clock
  alert : σ.Alert

variable {σ τ : Vigil} {b : Stream} {m : Moment}

theorem Alert.waits_le (h : σ.Alert) : σ.waits ≤ 1 := by
  unfold Alert at h
  split at h <;> omega

theorem Alert.waits_of_busy (h : σ.Alert) (hs : σ.stream.stage.isBusy = true) : σ.waits = 0 := by
  unfold Alert at h
  split at h <;> simp_all [Stage.isBusy]

theorem alert_of_ending (hs : σ.stream.stage.isEnding = true) (hle : σ.waits ≤ 1) : σ.Alert := by
  unfold Alert
  split <;> simp_all [Stage.isEnding]

theorem stay_work (inv : Inv σ) (since : σ.stream.worker.since ≤ m.now) (h : σ.stream.Ticks m.now b) :
    (σ.work m.now b).stay = b.worker.mode.stay? := by
  -- A step in which the state is kept, and in which the watcher sees nothing.
  have keeps : b.worker.mode = σ.stream.worker.mode → (σ.work m.now b).stay = σ.stay →
      (σ.work m.now b).stay = b.worker.mode.stay? := fun hmode hstay => by rw [hstay, inv.stay, hmode]
  cases h with
  | begin hs hb hmode =>
    have hstay : (σ.work m.now b).stay = Stay.after σ.stream.setup.delay m.now σ.stay .begins := by
      simp only [work, hs, Stage.beat]
    rw [hstay, inv.stay, hmode, Worker.stay?_resolve inv.output since]
  | answer hs hb becomes =>
    rw [Mode.stay?_of_becomes becomes σ.stream.setup.delay, ← inv.stay]
    simp only [work, hb, Stage.beat_replying hs]
  | abort hs hb hmode =>
    rw [hmode]
    simp only [work, hb, Stage.beat_reporting hs]
    rfl
  | arm hs hb hmode => exact keeps hmode (by simp only [work, hs, hb, Stage.beat, Stay.after])
  | take hs hb hmode => exact keeps hmode (by simp only [work, hs, hb, Stage.beat, Stay.after])
  | timeOut hs _ hb hmode => exact keeps hmode (by simp only [work, hs, hb, Stage.beat, Stay.after])
  | carry hs hb _ hmode => exact keeps hmode (by simp only [work, hb, Stage.beat_handling hs, Stay.after])
  | reply hs hb hmode => exact keeps hmode (by simp only [work, hs, hb, Stage.beat, Stay.after])
  | finish hs hb hmode => exact keeps hmode (by simp only [work, Stage.beat_ending hs hb, Stay.after])

theorem since_work (since : σ.stream.worker.since ≤ m.now) (h : σ.stream.Ticks m.now b) :
    b.worker.since ≤ m.now := by
  have kept : b.worker.mode.since = σ.stream.worker.since → b.worker.since ≤ m.now := fun hsame =>
    Nat.le_trans (Nat.le_of_eq hsame) since
  cases h with
  | begin hs hb hmode => exact kept (by rw [hmode]; exact Worker.since_resolve _ _ _)
  | answer hs hb becomes =>
    generalize hmode : b.worker.mode = mode at becomes
    have hsince : b.worker.since = mode.since := congrArg Mode.since hmode
    rw [hsince]
    cases becomes with
    | keep | fail => exact since
    | enter =>
      simp only [Mode.enter]
      split
      · exact Nat.le_refl _
      · exact since
  | abort hs hb hmode => exact kept (by rw [hmode])
  | arm _ _ hmode | take _ _ hmode | timeOut _ _ _ hmode | carry _ _ _ hmode | reply _ _ hmode
  | finish _ _ hmode => exact kept (by rw [hmode]; rfl)

theorem decided_work (h : σ.stream.Ticks m.now b) (hsetup : b.setup = σ.stream.setup) : b.Decided := by
  intro command task hs
  cases h with
  | carry _ hb hdecided hmode =>
    have hstate : b.worker.state = σ.stream.worker.state := congrArg Mode.state hmode
    rw [hb] at hs
    cases hs
    rw [hsetup, hstate, hdecided]
  | finish _ hb _ =>
    rw [hs] at hb
    cases hb
  | begin _ hb | arm _ hb | take _ hb | timeOut _ _ hb | answer _ hb | reply _ hb | abort _ hb =>
    rw [hb] at hs
    cases hs

theorem alert_begin (halert : σ.Alert) (later : σ.clock ≤ m.now) (hs : σ.stream.stage = .fresh)
    (hb : b.stage = .arming) : (σ.work m.now b).Alert := by
  simp only [Alert, work, hs, hb, Stage.beat] at halert ⊢
  refine halert.imp_right fun ⟨hwaits, hover⟩ => ⟨hwaits, ?_⟩
  cases hstay : σ.stay with
  | none => rfl
  | some stay => simp [Stay.after, Option.filter, Nat.not_lt.mpr (Nat.le_trans (hover stay hstay) later)]

theorem alert_arm (inv : Inv σ) (since : σ.stream.worker.since ≤ m.now)
    (hs : σ.stream.stage = .arming) (hsetup : b.setup = σ.stream.setup)
    (hb : b.stage =
      .waiting ((σ.stream.worker.timeLeft σ.stream.setup m.now).map (m.now + ·))) :
    (σ.work m.now b).Alert := by
  have halert := inv.alert
  simp only [Alert, hs] at halert
  simp only [Alert, work, hs, hb, Stage.beat, Stay.after, hsetup]
  cases ht : σ.stream.worker.state.isTransient with
  | false =>
    have hnone : σ.stay = none := inv.stay.trans (Mode.stay?_eq_none_iff.mpr ht)
    simp only [Worker.timeLeft, ht, Bool.false_eq_true, and_false, if_false, Option.map_none]
    exact ⟨by omega, hnone⟩
  | true =>
    have hsome := inv.stay.trans (Mode.stay?_of_transient ht)
    have hwaits : σ.waits = 0 := halert.resolve_right fun ⟨_, hnone⟩ => by simp [hsome] at hnone
    simp only [Worker.timeLeft, ht, inv.output, and_self, if_true, Option.map_some]
    refine ⟨hwaits, _, hsome, ?_⟩
    simp only [Worker.mode]
    omega

/-- After a wait in vain the stay is over. -/
theorem alert_timeOut {deadline : Nat} (halert : σ.Alert) (hs : σ.stream.stage = .waiting (some deadline))
    (hover : deadline ≤ m.now) (hsetup : b.setup = σ.stream.setup) (hb : b.stage = .fresh) :
    (σ.work m.now b).Alert := by
  simp only [Alert, hs] at halert
  obtain ⟨hwaits, stay, hsome, hdeadline⟩ := halert
  simp only [Alert, work, hs, hb, Stage.beat, Stay.after, hsetup, hwaits, hsome]
  refine .inr ⟨trivial, ?_⟩
  rintro _ ⟨⟩
  omega

theorem alert_work (inv : Inv σ) (later : σ.clock ≤ m.now) (hsetup : b.setup = σ.stream.setup)
    (h : σ.stream.Ticks m.now b) : (σ.work m.now b).Alert := by
  have halert := inv.alert
  have hle := halert.waits_le
  cases h with
  | begin hs hb => exact alert_begin halert later hs hb
  | arm hs hb => exact alert_arm inv (Nat.le_trans inv.since later) hs hsetup hb
  | take hs hb => simp only [Alert, work, hs, hb, Stage.beat]
  | timeOut hs hover hb => exact alert_timeOut halert hs hover hsetup hb
  | carry hs hb =>
    simp only [Alert, work, hb, Stage.beat_handling hs]
    exact halert.waits_of_busy hs
  | answer hs hb =>
    simp only [Alert, work, hb, Stage.beat_replying hs]
    exact halert.waits_of_busy hs
  | reply hs hb =>
    simp only [Alert, hs] at halert
    simp only [Alert, work, hs, hb, Stage.beat]
    exact .inl halert
  | abort hs hb =>
    simp only [Alert, work, hb, Stage.beat_reporting hs]
    exact hle
  | finish hs hb =>
    have hwaits : (σ.work m.now b).waits = σ.waits := by simp only [work, Stage.beat_ending hs hb]
    exact alert_of_ending hb (hwaits ▸ hle)

theorem inv_work (inv : Inv σ) (later : σ.clock ≤ m.now) (h : σ.stream.WorksAt m b) :
    Inv (σ.work m.now b) := by
  have hsetup : b.setup = σ.stream.setup := (Stream.acts_of_works h.works).setup
  have since : σ.stream.worker.since ≤ m.now := Nat.le_trans inv.since later
  have hticks := Stream.ticks_of_worksAt inv.output inv.decided h
  exact ⟨hsetup ▸ inv.output, decided_work hticks hsetup, stay_work inv since hticks,
    since_work since hticks, alert_work inv later hsetup hticks⟩

theorem inv_outside (inv : Inv σ) (h : σ.stream.Outside b) : Inv { σ with stream := b } := by
  have hleaves := h.leaves
  refine ⟨hleaves.setup ▸ inv.output, ?_, ?_, ?_, ?_⟩
  · rw [Stream.Decided, hleaves.stage, hleaves.setup, hleaves.worker]
    exact inv.decided
  · rw [hleaves.worker]
    exact inv.stay
  · rw [hleaves.worker]
    exact inv.since
  · have halert := inv.alert
    unfold Alert at halert ⊢
    rw [hleaves.stage, hleaves.setup]
    exact halert

theorem inv_of_reaches {t : Transport} {cookie : Int32} {microphones : List (Device × String)}
    (h : ReflTransGen Step { stream := Stream.opened .output t cookie microphones } σ) : Inv σ := by
  induction h with
  | refl => exact ⟨rfl, nofun, rfl, Nat.zero_le _, .inl rfl⟩
  | tail _ hstep ih =>
    cases hstep with
    | work m later h => exact inv_work ih later h
    | outside h => exact inv_outside ih h

/-! ## What a watcher can rely on -/

end Vigil

/-- The state in which a stay is held when it is paused. -/
def State.held : State → State
  | draining => .drainPaused
  | transferring => .transferPaused
  | state => state

namespace Vigil

/-- Transient states last as long as they should. -/
structure Timely (σ : Vigil) : Prop where
  /-- The stream is in a transient state if and only if there is a stay. -/
  state : σ.stay.map Stay.state =
    if σ.stream.worker.state.isTransient then some σ.stream.worker.state else none
  /-- A cycle ends a stay if and only if it begins when the delay is over. -/
  resolves : ∀ (m : Moment) (b : Stream) (stay : Stay), σ.stream.stage = .fresh → σ.clock ≤ m.now →
    σ.stream.WorksAt m b → σ.stay = some stay →
      b.worker.state =
        if stay.entered + σ.stream.setup.delay ≤ m.now then σ.stream.setup.settle stay.state
        else stay.state
  /-- A command that asks for the state or is rejected leaves a stay as it is. -/
  keeps : ∀ (m : Moment) (b : Stream) (command : Command), σ.stream.stage = .sampling command →
    (command = .getStatus ∨ σ.stream.setup.Malformed command ∨
      σ.stream.setup.decide σ.stream.worker.state command = .refuse) →
    σ.clock ≤ m.now → σ.stream.WorksAt m b → (σ.work m.now b).stay = σ.stay
  /-- A stay that was paused is over, and a start begins another one. -/
  resumes : ∀ (m : Moment) (b : Stream) (state : State), state.isTransient = true →
    σ.stream.worker.state = state.held → σ.stream.stage = .sampling .start →
    σ.clock ≤ m.now → σ.stream.WorksAt m b →
      σ.stay = none ∧ (σ.work m.now b).stay = some ⟨state, m.now⟩
  waits : σ.waits ≤ 1
  /-- A wait has a deadline if and only if there is a stay. It is the end of the stay, or the beginning of
  the wait if the stay is over already. -/
  bounded : ∀ deadline, σ.stream.stage = .waiting deadline →
    deadline = σ.stay.map fun stay => max σ.clock (stay.entered + σ.stream.setup.delay)

section

variable {a : Stream} {command : Command}

/-- Only the check changes the state when a cycle begins. -/
theorem state_of_fresh (hs : a.stage = .fresh) (h : a.WorksAt m b) :
    b.worker.state = (a.worker.resolve a.setup m.now).1.state := by
  have hstep := h.step_of_not_handling (by simp [hs])
  simp only [Stream.step, hs] at hstep
  cases hstep
  obtain ⟨reports, heq⟩ := a.beginCycle_eq m
  rw [heq]

/-- A command that is answered at once. -/
theorem worker_of_react {done : Handled} (hs : a.stage = .sampling command)
    (hreact : a.worker.react a.setup m.now a.connected command = .reply done) (h : a.WorksAt m b) :
    b.worker = done.worker := by
  have hstep := h.step_of_not_handling (by simp [hs])
  simp only [Stream.step, hs, Stream.beginCommand, hreact] at hstep
  obtain ⟨reports, heq⟩ := a.handled_eq command done
  rw [← Option.some.inj hstep, heq]

end

theorem Inv.resolves (inv : Inv σ) (later : σ.clock ≤ m.now) (hs : σ.stream.stage = .fresh)
    (h : σ.stream.WorksAt m b) {stay : Stay} (hstay : σ.stay = some stay) :
    b.worker.state =
      if stay.entered + σ.stream.setup.delay ≤ m.now then σ.stream.setup.settle stay.state
      else stay.state := by
  have hdue := Worker.due_iff_of_le inv.output (Nat.le_trans inv.since later)
  rw [inv.stay, Mode.stay?] at hstay
  split at hstay
  next ht =>
    cases hstay
    rw [state_of_fresh hs h]
    split
    next hover => rw [Worker.resolve_of_due (hdue.mpr ⟨ht, hover⟩)]; rfl
    next hover => rw [Worker.resolve_of_not_due fun h => hover (hdue.mp h).2]; rfl
  next => cases hstay

theorem Inv.resumes (inv : Inv σ) (later : σ.clock ≤ m.now) {state : State}
    (ht : state.isTransient = true) (hheld : σ.stream.worker.state = state.held)
    (hs : σ.stream.stage = .sampling .start) (h : σ.stream.WorksAt m b) :
    σ.stay = none ∧ (σ.work m.now b).stay = some ⟨state, m.now⟩ := by
  have hnot : state.held.isTransient = false := by cases state <;> rfl
  have hdecide : σ.stream.setup.decide σ.stream.worker.state .start = .move state := by
    rw [Playback.decide_eq inv.output, hheld]
    cases state <;> first | rfl | cases ht
  refine ⟨inv.stay.trans (Mode.stay?_eq_none_iff.mpr ?_), ?_⟩
  · exact (congrArg State.isTransient hheld).trans hnot
  · have hworker := worker_of_react hs (by rw [Worker.react, hdecide]) h
    have hstay : (σ.work m.now b).stay = b.worker.mode.stay? := (inv_work inv later h).stay
    rw [hstay, hworker]
    simp only [Worker.mode_enter, Mode.enter, ht, if_true]
    exact Mode.stay?_of_transient ht

theorem Inv.timely (inv : Inv σ) : σ.Timely where
  state := by
    rw [inv.stay]
    cases ht : σ.stream.worker.state.isTransient with
    | true => rw [Mode.stay?_of_transient ht]; rfl
    | false => rw [Mode.stay?_eq_none_iff.mpr ht]; rfl
  resolves m b stay hs later h hstay := inv.resolves later hs h hstay
  keeps m b command hs hspared later h := by
    obtain ⟨done, hreact, hdone⟩ := Worker.react_of_spared hspared
    have hworker := (worker_of_react hs hreact h).trans hdone
    rw [inv.stay, ← hworker]
    exact (inv_work inv later h).stay
  resumes m b state ht hheld hs later h := inv.resumes later ht hheld hs h
  waits := inv.alert.waits_le
  bounded deadline hs := by
    have halert := inv.alert
    simp only [Alert, hs] at halert
    cases deadline with
    | none => rw [halert.2]; rfl
    | some time =>
      obtain ⟨-, stay, hstay, rfl⟩ := halert
      rw [hstay]; rfl

/-- Whatever happens to a playback stream: the watcher knows in which transient state it is and since when,
and the stay ends with the first cycle that begins when the delay is over, if no command ends it before. A
command that is rejected or that asks for the state changes nothing about this, and a start after a pause
gives the full delay again. The worker waits in vain at most once between two commands, and without a
deadline outside transient states. -/
theorem timely_of_reaches {t : Transport} {cookie : Int32} {microphones : List (Device × String)}
    (h : ReflTransGen Step { stream := Stream.opened .output t cookie microphones } σ) : σ.Timely :=
  (inv_of_reaches h).timely

/-- A transport whose transient states last for a millisecond. -/
def slowTransport : Transport :=
  { Transport.small with
    data := ⟨8, [], by decide, by decide⟩
    debug := { transientDelay := 1 }
    notifies := true }

/-- A playback stream between two cycles, in some state. -/
def resting (state : State) (since : Nat) : Stream :=
  let stream := Stream.opened .output slowTransport 7 []
  { stream with worker := { stream.worker with state, since } }

/-- The worker takes steps at the given times. -/
def works (σ : Vigil) : List Nat → Option Vigil
  | [] => some σ
  | now :: times =>
    if σ.clock ≤ now then (σ.stream.step { now }).bind fun b => (σ.work now b).works times else none

theorem reaches_of_works (times : List Nat) (h : σ.works times = some τ) : ReflTransGen Step σ τ := by
  induction times generalizing σ with
  | nil =>
    cases h
    exact .refl
  | cons now times ih =>
    rw [works] at h
    split at h
    next later =>
      obtain ⟨b, hstep, hrest⟩ := Option.bind_eq_some_iff.mp h
      exact (ih hrest).head (.work { now } later (.step hstep))
    next => cases h

/-- A stream that drains, is paused, and goes on with draining after a start. The client then asks for the
state. -/
theorem reaches_resumed : ReflTransGen Step { stream := Stream.opened .output slowTransport 7 [] }
    { stream := resting .draining 900003, clock := 1000024, stay := some ⟨.draining, 900003⟩ } := by
  have opened : ReflTransGen Step { stream := Stream.opened .output slowTransport 7 [] }
      { stream := resting .standby 0 } := .refl
  have started : ReflTransGen Step { stream := Stream.opened .output slowTransport 7 [] }
      { stream := resting .idle 0, clock := 5 } :=
    ((opened.tail (.outside (.writeCommand .start rfl))).trans
      (reaches_of_works [1, 2, 3, 4, 5] rfl)).tail (.outside .tryReadReply)
  have moved : ReflTransGen Step { stream := Stream.opened .output slowTransport 7 [] }
      { stream := resting .active 0, clock := 13 } :=
    ((started.tail (.outside (.writeCommand (.burst 0) rfl))).trans
      (reaches_of_works [6, 7, 8, 9, 10, 11, 12, 13] rfl)).tail (.outside .tryReadReply)
  have draining := (moved.tail (.outside (.writeCommand (.drain .all) rfl))).trans
    (reaches_of_works [14, 15, 16, 17] rfl)
  have drained : ReflTransGen Step { stream := Stream.opened .output slowTransport 7 [] }
      { stream := resting .draining 20, clock := 21, stay := some ⟨.draining, 20⟩ } :=
    ((draining.tail (.work ⟨20, fun _ => none⟩ (by decide) (.control (.ok ()) rfl))).trans
      (reaches_of_works [21] rfl)).tail (.outside .tryReadReply)
  have pausing := (drained.tail (.outside (.writeCommand .pause rfl))).trans
    (reaches_of_works [22, 23, 24, 25] rfl)
  have paused : ReflTransGen Step { stream := Stream.opened .output slowTransport 7 [] }
      { stream := resting .drainPaused 20, clock := 31 } :=
    ((pausing.tail (.work ⟨30, fun _ => none⟩ (by decide) (.control (.ok ()) rfl))).trans
      (reaches_of_works [31] rfl)).tail (.outside .tryReadReply)
  have resumed : ReflTransGen Step { stream := Stream.opened .output slowTransport 7 [] }
      { stream := resting .draining 900003, clock := 900004, stay := some ⟨.draining, 900003⟩ } :=
    ((paused.tail (.outside (.writeCommand .start rfl))).trans
      (reaches_of_works [900000, 900001, 900002, 900003, 900004] rfl)).tail (.outside .tryReadReply)
  exact ((resumed.tail (.outside (.writeCommand .getStatus rfl))).trans
    (reaches_of_works [1000020, 1000021, 1000022, 1000023, 1000024] rfl)).tail (.outside .tryReadReply)

/-- The worker has waited for the end of the stay. The next cycle leads out of it, and one that began before
did not. -/
theorem timely_of_reaches_resumed :
    ReflTransGen Step { stream := Stream.opened .output slowTransport 7 [] }
      { stream := resting .draining 900003, clock := 1900003
        stay := some ⟨.draining, 900003⟩, waits := 1 } ∧
    (∃ b, (resting .draining 900003).step { now := 1900002 } = some b ∧ b.worker.state = .draining) ∧
    ∃ b, (resting .draining 900003).step { now := 1900003 } = some b ∧ b.worker.state = .idle := by
  have waited : ReflTransGen Step { stream := Stream.opened .output slowTransport 7 [] }
      { stream := resting .draining 900003, clock := 1900003
        stay := some ⟨.draining, 900003⟩, waits := 1 } :=
    reaches_resumed.trans (reaches_of_works [1000025, 1000026, 1900003] rfl)
  have kept := (timely_of_reaches reaches_resumed).resolves { now := 1900002 } _ _ rfl (by decide)
    (.step rfl) rfl
  have left := (timely_of_reaches waited).resolves { now := 1900003 } _ _ rfl (by decide) (.step rfl) rfl
  exact ⟨waited, ⟨_, rfl, kept.trans (by decide)⟩, ⟨_, rfl, left.trans (by decide)⟩⟩

end Vigil

end AudioStream
