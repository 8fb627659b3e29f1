import AudioStream.Proofs.Capture.Table
import AudioStream.Proofs.Stream.Deeds
import AudioStream.Proofs.Stream.Timing
import AudioStream.Proofs.Transport

/-!
# The states that a stream gets into

Which states a stream gets into depends on its direction, on whether its client is told of transient states,
and on whether these last at all. The states cannot be gone through one at a time: drain paused leads to
transfer paused and back, and either can only be left out with the other. So a set of states is confined as a
whole. States that do not last are found only between the answer to a command and the next check of the
timer, so a second, smaller set is kept from the check until the command is over.

The main statement is `Stream.states_of_mode`.
-/

namespace AudioStream

/-- The state that a decision leads to, if it names one. -/
def Decision.next? : Decision → Option State
  | .move next | .control _ next => some next
  | _ => none

/-- A worker that is on standby or in error is in `P`, stays there, and is in `Q` from the check of its timer
until its command is over. -/
structure Setup.Confines (s : Setup) (P Q : State → Prop) : Prop where
  standby : P .standby
  error : P .error
  weaken {state : State} : Q state → P state
  resolve {w : Worker} (now : Nat) : P w.state → Q (w.resolve s now).1.state
  enter {state next : State} {command : Command} : Q state →
    (s.decide state command).next? = some next → P next
  burst {w : Worker} {command : Command} {bytes : Nat} (now : Nat) (moved : Int32) : Q w.state →
    s.decide w.state command = .burst bytes → P (w.afterBurst s now bytes moved).state

/-- From the check of the timer until the command is over. -/
def Stage.isChecked : Stage → Bool
  | arming | waiting _ | sampling _ | handling _ _ => true
  | _ => false

theorem Stage.isChecked_of_isBusy {stage : Stage} (h : stage.isBusy = true) : stage.isChecked = true := by
  cases stage with
  | sampling | handling => rfl
  | _ => cases h

namespace Stream

/-- The state of the worker is where it is confined to. -/
structure Within (P Q : State → Prop) (a : Stream) : Prop where
  inside : P a.worker.state
  checked : a.stage.isChecked = true → Q a.worker.state
  decided : a.Decided

variable {P Q : State → Prop} {a b : Stream} {command : Command}

theorem Moves.state {burst : Burst} {size : Nat} {moved : Worker × Moved} (h : a.Moves burst size moved) :
    moved.1.state = a.worker.state := by
  cases h with
  | silent => exact congrArg Mode.state (a.worker.mode_withoutDevice a.setup size)
  | answered => rfl

/-- A worker that is about to check its timer, or has no command any more, is within if its state is. -/
theorem within_of_unchecked (inside : P b.worker.state) (hs : b.stage.isChecked = false) : b.Within P Q where
  inside := inside
  checked hc := by rw [hs] at hc; cases hc
  decided command task htask := by rw [htask] at hs; cases hs

theorem within_handled {h : Handled} (s : Stream) (inside : P h.worker.state) :
    (s.handled command h).Within P Q := by
  obtain ⟨reports, heq⟩ := s.handled_eq command h
  rw [heq]
  exact within_of_unchecked inside rfl

/-- A worker that waits for a command, or has just taken one, keeps its state. -/
theorem Within.await (h : a.Within P Q) (hchecked : a.stage.isChecked = true)
    (hstate : b.worker.state = a.worker.state) (hs : ∀ command task, b.stage ≠ .handling command task) :
    b.Within P Q where
  inside := hstate ▸ h.inside
  checked _ := hstate ▸ h.checked hchecked
  decided command task hb := absurd hb (hs command task)

/-- A worker that begins to carry out what it has decided keeps its state. -/
theorem Within.begin (h : a.Within P Q) {task : Task} (hchecked : a.stage.isChecked = true)
    (hdecide : a.setup.decide a.worker.state command = task.decision) (hb : b.stage = .handling command task)
    (hsetup : b.setup = a.setup) (hstate : b.worker.state = a.worker.state) : b.Within P Q where
  inside := hstate ▸ h.inside
  checked _ := hstate ▸ h.checked hchecked
  decided command' task' hs := by
    rw [hb] at hs
    cases hs
    rw [hsetup, hstate, hdecide]

/-- So does one that goes on with it. -/
theorem Within.goOn (h : a.Within P Q) {task task' : Task} (hs : a.stage = .handling command task)
    (hb : b.stage = .handling command task') (same : task'.decision = task.decision)
    (hsetup : b.setup = a.setup) (hstate : b.worker.state = a.worker.state) : b.Within P Q :=
  h.begin (by rw [hs]; rfl) (same ▸ h.decided command task hs) hb hsetup hstate

end Stream

namespace Setup.Confines

variable {s : Setup} {P Q : State → Prop} {w : Worker} {command : Command}

theorem react (confines : s.Confines P Q) {now : Nat} {connected : Bool} {h : Handled} (hw : Q w.state)
    (hreact : w.react s now connected command = .reply h) : P h.worker.state := by
  unfold Worker.react at hreact
  split at hreact <;> cases hreact
  next => exact confines.weaken hw
  next => exact confines.weaken hw
  next => exact confines.weaken hw
  next next hdecide =>
    rw [Worker.state_enter]
    exact confines.enter hw (congrArg Decision.next? hdecide)

theorem afterControl (confines : s.Confines P Q) {now : Nat} {connected : Bool} {call : Control}
    {next : State} (hw : Q w.state) (hdecide : s.decide w.state command = .control call next)
    (result : Except DriverError Unit) : P (w.afterControl now connected call next result).worker.state := by
  cases result with
  | ok done =>
    simp only [Worker.afterControl, Worker.state_enter]
    exact confines.enter hw (congrArg Decision.next? hdecide)
  | error e => exact confines.error

theorem finishBurst (confines : s.Confines P Q) {v : Worker} (hv : v.state = w.state) {b : Burst}
    (hw : Q w.state) (hdecide : s.decide w.state command = .burst b.bytes) (now : Nat) (m : Moved)
    (queued : Bool) : P (v.finishBurst s now b m queued).worker.state := by
  rw [← hv] at hw hdecide
  cases hf : m.failure with
  | some e =>
    have hmode := v.mode_finishBurst_of_failure s now b m hf queued
    rw [show (v.finishBurst s now b m queued).worker.state = .error from congrArg Mode.state hmode]
    exact confines.error
  | none =>
    cases queued with
    | true =>
      rw [v.worker_finishBurst_of_success s now b m hf]
      exact confines.burst (w := v.count m.frames) now _ hw hdecide
    | false =>
      rw [v.worker_finishBurst_false_of_success s now b m hf]
      exact confines.burst now 0 hw hdecide

end Setup.Confines

namespace Stream

variable {P Q : State → Prop} {a b : Stream}

theorem within_acts (confines : a.setup.Confines P Q) (h : a.Within P Q) (hacts : a.Acts b) :
    b.Within P Q := by
  -- What was decided about the command in hand, and that the state is checked while it is carried out.
  have hdecided {command : Command} {task : Task} (hs : a.stage = .handling command task) :
      a.setup.decide a.worker.state command = task.decision := h.decided command task hs
  have hchecked (hs : a.stage.isChecked = true) : Q a.worker.state := h.checked hs
  cases hacts with
  | resolve m hs =>
    obtain ⟨reports, heq⟩ := a.beginCycle_eq m
    have hresolved := confines.resolve m.now h.inside
    rw [heq]
    exact ⟨confines.weaken hresolved, fun _ => hresolved, by rintro _ _ ⟨⟩⟩
  | arm deadline hs => exact h.await (by rw [hs]; rfl) rfl (by rintro _ _ ⟨⟩)
  | take hs hread => exact h.await (by rw [hs]; rfl) rfl (by rintro _ _ ⟨⟩)
  | timeOut hs hread => exact within_of_unchecked h.inside rfl
  | failToRead reason hs hread => exact within_of_unchecked confines.error rfl
  | leave now hs hreact => exact within_of_unchecked h.inside rfl
  | tell now hs hreact =>
    exact within_handled a (confines.react (hchecked (by rw [hs]; rfl)) hreact)
  | call now hs hreact =>
    exact h.begin (by rw [hs]; rfl) (Worker.decide_of_react_control hreact) rfl rfl rfl
  | begin now hs hreact =>
    exact h.begin (by rw [hs]; rfl) (Worker.decide_of_react_burst hreact) rfl rfl rfl
  | size capture hs => exact h.goOn hs rfl rfl rfl rfl
  | look playback hs => exact h.goOn hs rfl rfl rfl rfl
  | fill hs hread => exact h.goOn hs rfl rfl rfl rfl
  | capture capture hs moves => exact h.goOn hs rfl rfl rfl moves.state
  | starve now hs hread =>
    exact within_handled a (confines.finishBurst rfl (hchecked (by rw [hs]; rfl)) (hdecided hs) ..)
  | play now playback hs moves =>
    exact within_handled a (confines.finishBurst moves.state (hchecked (by rw [hs]; rfl)) (hdecided hs) ..)
  | append now hs write =>
    exact within_handled _ (confines.finishBurst rfl (hchecked (by rw [hs]; rfl)) (hdecided hs) ..)
  | overflow now hs write =>
    exact within_handled a (confines.finishBurst rfl (hchecked (by rw [hs]; rfl)) (hdecided hs) ..)
  | control now hs result =>
    exact within_handled a (confines.afterControl (hchecked (by rw [hs]; rfl)) (hdecided hs) result)
  | reply hs write => exact within_of_unchecked h.inside rfl
  | failToWrite reason hs write => exact within_of_unchecked confines.error rfl
  | giveUp hs =>
    refine within_of_unchecked ?_ ?_
    · rw [worker_report]
      exact h.inside
    · rw [stage_report]
      rfl
  | shutCommands hs => exact within_of_unchecked h.inside rfl
  | shutReplies hs => exact within_of_unchecked h.inside rfl
  | stop hs => exact within_of_unchecked h.inside rfl

theorem within_outside (h : a.Within P Q) (ho : a.Outside b) : b.Within P Q where
  inside := ho.leaves.worker ▸ h.inside
  checked hb := ho.leaves.worker ▸ h.checked (ho.leaves.stage ▸ hb)
  decided command task hs := by
    rw [ho.leaves.setup, ho.leaves.worker]
    exact h.decided command task (ho.leaves.stage ▸ hs)

theorem setup_of_follow {deeds : List Deed} (h : a.follow deeds = some b) : b.setup = a.setup := by
  refine follow_induction (P := fun c => c.setup = a.setup) (fun c d hc hcd => ?_) h rfl
  rcases hcd with hw | ho
  · exact (acts_of_works hw).setup.trans hc
  · exact ho.leaves.setup.trans hc

/-- A stream that was opened stays where its setup confines it to. -/
theorem within_of_follow {s : Setup} (confines : s.Confines P Q) {deeds : List Deed} (hsetup : a.setup = s)
    (ha : a.Within P Q) (h : a.follow deeds = some b) : b.Within P Q := by
  have hinv : b.setup = s ∧ b.Within P Q := by
    refine follow_induction (P := fun c => c.setup = s ∧ c.Within P Q) (fun c d hc hcd => ?_) h ⟨hsetup, ha⟩
    obtain ⟨rfl, hwithin⟩ := hc
    rcases hcd with hw | ho
    · exact ⟨(acts_of_works hw).setup, within_acts confines hwithin (acts_of_works hw)⟩
    · exact ⟨ho.leaves.setup, within_outside hwithin ho⟩
  exact hinv.2

end Stream

/-! ## The states of each mode -/

namespace Capture

variable {s : Setup} {state next : State} {command : Command}

/-- A command that leads to a state has a row. -/
theorem row_of_next (h : (Decision.capture s state command).next? = some next) :
    ∃ kind, ∀ connected, Row connected state command kind next := by
  cases command with
  | start =>
    cases state with
    | standby => cases h; exact ⟨_, fun _ => .start_standby⟩
    | draining => cases h; exact ⟨_, fun _ => .start_draining⟩
    | _ => cases h
  | drain mode =>
    cases mode with
    | unspecified =>
      cases state with
      | active => cases h; exact ⟨_, fun _ => .drain⟩
      | _ => cases h
    | all | earlyNotify => cases h
  | standby =>
    cases state with
    | idle => cases h; exact ⟨_, fun _ => .standby⟩
    | _ => cases h
  | pause =>
    cases state with
    | active => cases h; exact ⟨_, fun _ => .pause⟩
    | _ => cases h
  | flush =>
    cases state with
    | paused => cases h; exact ⟨_, fun _ => .flush⟩
    | _ => cases h
  | exit cookie =>
    simp only [Decision.capture] at h
    split at h <;> cases h
  | burst n =>
    simp only [Decision.capture] at h
    split at h
    · cases h
    · split at h <;> cases h
  | getStatus => cases h

theorem Row.plain {connected : Bool} {kind : Option DriverCall.Kind}
    (h : Row connected state command kind next) : next ∉ [State.drainPaused, .transferring, .transferPaused] := by
  cases h <;> simp

/-- No row of capture leads to a paused drain or to a transfer. -/
theorem confines (hd : s.direction = .input) :
    s.Confines (· ∉ [.drainPaused, .transferring, .transferPaused])
      (· ∉ [.drainPaused, .transferring, .transferPaused]) where
  standby := by simp
  error := by simp
  weaken h := h
  resolve now h := by rwa [resolve_eq hd]
  enter _ hnext := by
    rw [Setup.decide, hd] at hnext
    obtain ⟨kind, row⟩ := row_of_next hnext
    exact (row true).plain
  burst {w command bytes} now moved _ hdecide := by
    obtain ⟨n, rfl, nonneg, accepted, rfl⟩ := s.decide_eq_burst_iff.mp hdecide
    have hstate : (w.afterBurst s now n.toInt.toNat moved).state = burstTo w.state :=
      congrArg Mode.state (mode_afterBurst hd now n.toInt.toNat moved accepted)
    rw [hstate]
    exact (row_burst hd true nonneg accepted).plain

end Capture

namespace Playback

variable {s : Setup} {P Q : State → Prop}

/-- What the rows of the table keep is kept by the commands. -/
theorem confines_of_rows (hd : s.direction = .output) (standby : P .standby) (error : P .error)
    (weaken : ∀ {state}, Q state → P state)
    (resolve : ∀ {w : Worker} now, P w.state → Q (w.resolve s now).1.state)
    (row : ∀ {connected moved state command kind next}, Row s connected moved state command kind next →
      Q state → P next) : s.Confines P Q where
  standby := standby
  error := error
  weaken := weaken
  resolve := resolve
  enter {state next command} hq hnext := by
    have hv := verdict s state command
    rw [decide_eq hd] at hnext
    generalize Decision.playback s state command = decision at hv hnext
    cases hv with
    | stop | reject | refuse | tell | burst => cases hnext
    | move notBurst rows =>
      cases hnext
      exact row (rows true 0) hq
    | control rows =>
      cases hnext
      exact row (rows true 0) hq
  burst {w command bytes} now moved hq hdecide := by
    have hv := verdict s w.state command
    rw [← decide_eq hd, hdecide] at hv
    cases hv with
    | burst hburst nonneg accepted =>
      obtain ⟨next, hrow, hnext⟩ := afterBurst_row hd true now nonneg moved accepted
      rw [hnext, Worker.state_enter]
      exact row hrow hq

/-- No row leads a stream into a transfer whose client is not told, and without transfers only a drain is
ever due. -/
theorem confines_of_silent (hd : s.direction = .output) (hn : s.notifies = false) :
    s.Confines (· ∉ [.transferring, .transferPaused]) (· ∉ [.transferring, .transferPaused]) := by
  have hknown {state : State} : Known s state ↔ state ∉ [.transferring, .transferPaused] := by
    simp [Known, hn]
  refine confines_of_rows hd (by simp) (by simp) (fun h => h) (fun {w} now hw => ?_) ?_
  · by_cases hdue : w.Due s now
    · rw [Worker.resolve_of_due hdue]
      cases hs : w.state <;> simp [Setup.settle, hs] at hw ⊢
    · rwa [Worker.resolve_of_not_due hdue]
  · intro connected moved state command kind next hrow hstate
    exact hknown.mp (hrow.known (hknown.mpr hstate))

/-- No row leads a stream that is not in a transient state, or paused in one, to a pause in one. -/
theorem Row.unpaused {connected : Bool} {moved : Int32} {state next : State} {command : Command}
    {kind : Option DriverCall.Kind} (h : Row s connected moved state command kind next)
    (hs : state ∉ [.drainPaused, .transferPaused, .draining, .transferring]) :
    next ∉ [.drainPaused, .transferPaused] := by
  cases h <;> simp_all
  case drain_active => split <;> simp

/-- Transient states that do not last are over at the next check, so nothing can be paused in them. -/
theorem confines_of_instant (hd : s.direction = .output) (hdelay : s.delay = 0) :
    s.Confines (· ∉ [.drainPaused, .transferPaused])
      (· ∉ [.drainPaused, .transferPaused, .draining, .transferring]) := by
  refine confines_of_rows hd (by simp) (by simp) (fun h => ?_) (fun {w} now hw => ?_) Row.unpaused
  · simp only [List.mem_cons, not_or] at h ⊢
    exact ⟨h.1, h.2.1, by simp⟩
  · cases htransient : w.state.isTransient with
    | true =>
      have hdue : w.Due s now := ⟨hd, htransient, hdelay ▸ Nat.zero_le _⟩
      rw [Worker.resolve_of_due hdue]
      cases hs : w.state <;> cases hn : s.notifies <;> simp_all [Setup.settle, State.isTransient]
    | false =>
      rw [Worker.resolve_of_not_due fun hdue => Bool.false_ne_true (htransient ▸ hdue.transient)]
      cases hs : w.state <;> simp_all [State.isTransient]

end Playback

namespace Stream

variable {direction : Direction} {t : Transport} {cookie : Int32} {microphones : List (Device × String)}
  {P Q : State → Prop} {a : Stream} {deeds : List Deed}

theorem within_of_opened (confines : (Setup.ofTransport t direction cookie).Confines P Q)
    (h : (opened direction t cookie microphones).follow deeds = some a) : a.Within P Q :=
  within_of_follow confines rfl (within_of_unchecked confines.standby rfl) h

/-- Whatever is done to a stream, it stays in the states of its mode. A capture stream knows no transfers
that wait and no paused drain. A playback stream whose client is not told never waits with a transfer, so its
timer only ever ends a drain. A playback stream whose transient states do not last carries out no command in
them, and is never paused in them. -/
theorem states_of_mode (direction : Direction) (t : Transport) (cookie : Int32)
    (microphones : List (Device × String)) (deeds : List Deed) (a : Stream)
    (h : (opened direction t cookie microphones).follow deeds = some a) :
    (direction = .input → a.worker.state ∉ [.drainPaused, .transferring, .transferPaused]) ∧
    (direction = .output → t.notifies = false →
      a.worker.state ∉ [.transferring, .transferPaused] ∧
      ∀ now, (a.worker.resolve a.setup now).1 ≠ a.worker →
        a.worker.state = .draining ∧
          a.worker.resolve a.setup now = ({ a.worker with state := .idle }, none)) ∧
    (direction = .output → t.debug.transientDelay = 0 →
      a.worker.state ∉ [.drainPaused, .transferPaused] ∧
      (a.stage.isBusy = true → a.worker.state ∉ [.draining, .transferring])) := by
  have hsetup : a.setup = .ofTransport t direction cookie := setup_of_follow h
  refine ⟨?capture, ?silent, ?instant⟩
  case capture =>
    rintro rfl
    exact (within_of_opened (Capture.confines rfl) h).inside
  case silent =>
    rintro rfl hn
    have hinside := (within_of_opened (Playback.confines_of_silent rfl hn) h).inside
    refine ⟨hinside, fun now hfires => ?_⟩
    have hdue := Worker.due_of_resolve_ne hfires
    have hdraining : a.worker.state = .draining := by
      have htransient := hdue.transient
      cases hs : a.worker.state <;> simp_all [State.isTransient]
    refine ⟨hdraining, ?_⟩
    rw [Worker.resolve_of_due hdue, hdraining, hsetup]
    simp [Setup.settle, Setup.notice, Setup.ofTransport, hn]
  case instant =>
    rintro rfl hdelay
    have hdelay' : (Setup.ofTransport t .output cookie).delay = 0 := by simp [Setup.ofTransport, hdelay]
    have hwithin := within_of_opened (Playback.confines_of_instant rfl hdelay') h
    refine ⟨hwithin.inside, fun hbusy => ?_⟩
    have hchecked := hwithin.checked (Stage.isChecked_of_isBusy hbusy)
    simp only [List.mem_cons, not_or] at hchecked ⊢
    exact hchecked.2.2

/-- A client that starts, has a burst made and drains, with no device connected. -/
def drains (mode : DrainMode) : List Deed :=
  let work (n : Nat) : List Deed := List.replicate n (.work { now := 0 })
  [.post .start] ++ work 5 ++ [.readReply, .post (.burst 0)] ++ work 8 ++
    [.readReply, .post (.drain mode)] ++ work 4 ++ [.endControl { now := 0 } (.ok ())] ++ work 1

/-- In both directions the stream drains in the end. A capture stream goes on with it, and a playback stream
whose transient states do not last is done with it before the next command. -/
theorem states_of_mode_drains :
    (∃ a, (opened .input .small 7 []).follow (drains .unspecified) = some a ∧ a.worker.state = .draining ∧
      a.worker.state ≠ .drainPaused) ∧
    ∃ a, (opened .output .small 7 []).follow (drains .all) = some a ∧ a.worker.state = .draining ∧
      a.worker.resolve a.setup 0 = ({ a.worker with state := .idle }, none) ∧ a.stage.isBusy = false := by
  constructor
  · obtain ⟨a, ha, hstate⟩ : ∃ a, (opened .input .small 7 []).follow (drains .unspecified) = some a ∧
        a.worker.state = .draining := ⟨_, rfl, rfl⟩
    obtain ⟨hcapture, -, -⟩ := states_of_mode .input .small 7 [] (drains .unspecified) a ha
    exact ⟨a, ha, hstate, fun h => hcapture rfl (by rw [h]; simp)⟩
  · obtain ⟨a, ha, hstate⟩ : ∃ a, (opened .output .small 7 []).follow (drains .all) = some a ∧
        a.worker.state = .draining := ⟨_, rfl, rfl⟩
    obtain ⟨-, hsilent, hinstant⟩ := states_of_mode .output .small 7 [] (drains .all) a ha
    have hdue : a.worker.Due a.setup 0 := by
      rw [setup_of_follow ha]
      exact ⟨rfl, by rw [hstate]; rfl, Nat.zero_le _⟩
    have hfires : (a.worker.resolve a.setup 0).1 ≠ a.worker := fun hsame => by
      have hidle := congrArg Worker.state hsame
      rw [Worker.resolve_of_due hdue, hstate] at hidle
      cases hidle
    refine ⟨a, ha, hstate, ((hsilent rfl rfl).2 0 hfires).2, Bool.eq_false_iff.mpr fun hbusy => ?_⟩
    exact (hinstant rfl rfl).2 hbusy (by rw [hstate]; simp)

end Stream

end AudioStream
