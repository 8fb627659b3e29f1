import AudioStream.Proofs.Worker.Burst

/-!
# The table of a playback stream

The table is written out row by row, and what a worker decides about a command is what it says. A
stream whose client is not told when a transfer has resolved is never transferring, as no row leads it
there.
-/

namespace AudioStream

/-- The commands that lead into transient states. -/
def Command.rearms : Command → Bool
  | start | burst _ | drain _ => true
  | _ => false

namespace Playback

def transferIf (connected : Bool) : Option DriverCall.Kind :=
  if connected then some .transfer else none

inductive Row (s : Setup) (connected : Bool) (moved : Int32) :
    State → Command → Option DriverCall.Kind → State → Prop where
  | start_standby : Row s connected moved .standby .start none .idle
  | start_paused : Row s connected moved .paused .start none .active
  | start_drainPaused : Row s connected moved .drainPaused .start none .draining
  | start_transferPaused : Row s connected moved .transferPaused .start none .transferring
  | burst_standby {n} (h : 0 ≤ n) :
      Row s connected moved .standby (.burst n) (transferIf connected) .paused
  | burst_paused {n} (h : 0 ≤ n) :
      Row s connected moved .paused (.burst n) (transferIf connected) .paused
  | burst_drainPaused {n} (h : 0 ≤ n) :
      Row s connected moved .drainPaused (.burst n) (transferIf connected)
        (if s.notifies then .transferPaused else .paused)
  /-- All was moved, or nobody is told when the rest can be. -/
  | burst_whole {n state} (h : 0 ≤ n) (from_ : state ∈ [State.idle, .active, .draining])
      (whole : s.notifies = false ∨ moved = n) :
      Row s connected moved state (.burst n) (transferIf connected) .active
  /-- Not all was moved, and the client will be told when the rest can be. -/
  | burst_partial {n state} (h : 0 ≤ n) (from_ : state ∈ [State.idle, .active, .draining])
      (notifies : s.notifies = true) (part : moved ≠ n) :
      Row s connected moved state (.burst n) (transferIf connected) .transferring
  | drain_active {mode} (h : mode ≠ .unspecified) :
      Row s connected moved .active (.drain mode) (some (.control (.drain mode)))
        (if s.synchronousDrain then .idle else .draining)
  | drain_transferring {mode} (h : mode ≠ .unspecified) :
      Row s connected moved .transferring (.drain mode) (some (.control (.drain mode))) .draining
  | drain_transferPaused {mode} (h : mode ≠ .unspecified) :
      Row s connected moved .transferPaused (.drain mode) none .drainPaused
  | standby_idle : Row s connected moved .idle .standby (some (.control .standby)) .standby
  | pause_active : Row s connected moved .active .pause (some (.control .pause)) .paused
  | pause_draining : Row s connected moved .draining .pause (some (.control .pause)) .drainPaused
  | pause_transferring :
      Row s connected moved .transferring .pause (some (.control .pause)) .transferPaused
  | flush {state} (from_ : state ∈ [State.paused, .drainPaused, .transferPaused]) :
      Row s connected moved state .flush (some (.control .flush)) .idle

/-- The commands with a value that they cannot have. -/
inductive Malformed (s : Setup) : Command → Prop where
  | exit {cookie} (h : cookie ≠ s.cookie) : Malformed s (.exit cookie)
  | burst {n} (h : n < 0) : Malformed s (.burst n)
  | drain : Malformed s (.drain .unspecified)

/-- Draining ends on idle and transferring on active, once the delay since the entry is over. -/
def elapse (s : Setup) (now : Nat) (m : Mode) : Mode :=
  if s.delay ≤ now - m.since then
    match m.state with
    | .draining => { m with state := .idle }
    | .transferring => { m with state := .active }
    | _ => m
  else m

def table (s : Setup) : Table where
  setup := s
  Row := Row s
  Malformed := Malformed s
  Fine r := r.status = .ok
  elapse := elapse s

/-- The states of a stream: one whose client is not told is never transferring. -/
def Known (s : Setup) (state : State) : Prop :=
  s.notifies = false → state ≠ .transferring ∧ state ≠ .transferPaused

variable {s : Setup} {connected : Bool} {moved : Int32} {state next : State} {command : Command}
  {kind : Option DriverCall.Kind}

theorem Row.known (h : Row s connected moved state command kind next) (hk : Known s state) :
    Known s next := by
  intro hn
  cases h <;> simp_all [Known]
  case drain_active => split <;> simp

theorem Row.rearms (h : Row s connected moved state command kind next) (ht : next.isTransient = true) :
    command.rearms = true := by
  cases h <;> first | rfl | cases ht

/-- What the worker decides is what the table says. -/
inductive Verdict (s : Setup) (state : State) (command : Command) : Decision → Prop where
  | stop (h : command = .exit s.cookie) : Verdict s state command .stop
  | reject (h : Malformed s command) : Verdict s state command .reject
  | refuse (wellFormed : ¬ Malformed s command) (notTold : command ≠ .getStatus)
      (noRow : ∀ connected moved kind next, ¬ Row s connected moved state command kind next) :
      Verdict s state command .refuse
  | tell (h : command = .getStatus) : Verdict s state command .tell
  | move {after} (notBurst : ∀ n, command ≠ .burst n)
      (row : ∀ connected moved, Row s connected moved state command none after) :
      Verdict s state command (.move after)
  | control {call after}
      (row : ∀ connected moved, Row s connected moved state command (some (.control call)) after) :
      Verdict s state command (.control call after)
  | burst {n} (h : command = .burst n) (nonneg : 0 ≤ n)
      (accepted : state ≠ .error ∧ state ≠ .transferring ∧ state ≠ .transferPaused) :
      Verdict s state command (.burst n.toInt.toNat)

theorem verdict (s : Setup) (state : State) (command : Command) :
    Verdict s state command (Decision.playback s state command) := by
  cases command with
  | exit cookie =>
    by_cases h : cookie = s.cookie
    · simpa [Decision.playback, h] using Verdict.stop rfl
    · simpa [Decision.playback, h] using Verdict.reject (.exit h)
  | getStatus => exact .tell rfl
  | start =>
    cases state with
    | standby => exact .move (by simp) fun _ _ => .start_standby
    | paused => exact .move (by simp) fun _ _ => .start_paused
    | drainPaused => exact .move (by simp) fun _ _ => .start_drainPaused
    | transferPaused => exact .move (by simp) fun _ _ => .start_transferPaused
    | _ => exact .refuse (by rintro ⟨⟩) (by simp) (by rintro _ _ _ _ ⟨⟩)
  | burst n =>
    by_cases h : n < 0
    · simpa [Decision.playback, h] using Verdict.reject (.burst h)
    · have h0 : 0 ≤ n := Int32.not_lt.mp h
      have hm : ¬ Malformed s (.burst n) := by
        rintro ⟨⟩
        contradiction
      cases state with
      | error | transferring | transferPaused =>
        simp only [Decision.playback, h, if_false]
        refine .refuse hm (by simp) ?_
        rintro _ _ _ _ ⟨⟩ <;> simp_all
      | _ =>
        simp only [Decision.playback, h, if_false]
        exact .burst rfl h0 (by simp)
  | drain mode =>
    cases mode with
    | unspecified => exact .reject .drain
    | all | earlyNotify =>
      have hm : ∀ mode, mode ≠ DrainMode.unspecified → ¬ Malformed s (.drain mode) := by
        rintro _ hne ⟨⟩
        exact hne rfl
      cases state with
      | active => exact .control fun _ _ => .drain_active (by simp)
      | transferring => exact .control fun _ _ => .drain_transferring (by simp)
      | transferPaused => exact .move (by simp) fun _ _ => .drain_transferPaused (by simp)
      | _ => exact .refuse (hm _ (by simp)) (by simp) (by rintro _ _ _ _ ⟨⟩)
  | standby =>
    cases state with
    | idle => exact .control fun _ _ => .standby_idle
    | _ => exact .refuse (by rintro ⟨⟩) (by simp) (by rintro _ _ _ _ ⟨⟩)
  | pause =>
    cases state with
    | active => exact .control fun _ _ => .pause_active
    | draining => exact .control fun _ _ => .pause_draining
    | transferring => exact .control fun _ _ => .pause_transferring
    | _ => exact .refuse (by rintro ⟨⟩) (by simp) (by rintro _ _ _ _ ⟨⟩)
  | flush =>
    cases state with
    | paused | drainPaused | transferPaused => exact .control fun _ _ => .flush (by simp)
    | _ =>
      refine .refuse (by rintro ⟨⟩) (by simp) ?_
      rintro _ _ _ _ (_ | _)
      simp_all

end Playback

end AudioStream
