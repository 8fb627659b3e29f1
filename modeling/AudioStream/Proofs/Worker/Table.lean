import AudioStream.Proofs.Worker.Cycle

/-!
# Machines given by tables

A table says which commands a state accepts, which call of the driver each of them makes, and which
state it leads to. The machine of a table starts on standby and is shown the cycles of a worker one by
one: before a command it lets its transient states run out, and then the reply and the driver call of
the cycle have to be those of the row that the command falls on. A command without a row is refused,
and leaves everything as it is.

`Table.Follows` compares a whole run, and `Table.run_follows` obtains it from single commands.
-/

namespace AudioStream

namespace DriverCall

/-- What a driver is called for, without the bytes of a transfer. -/
inductive Kind where
  | control (call : Control)
  | transfer
  deriving DecidableEq

def kind : DriverCall → Kind
  | control call => .control call
  | transfer _ _ => .transfer

end DriverCall

namespace Turn

def Fails (t : Turn) : DriverCall → Prop
  | .control call => ∃ e, (t.control call).answer = .error e
  | .transfer buffer frames => ∃ e, (t.transfer buffer frames).answer.result = .error e

/-- The time at which a command is over: when the driver returns if it is called, and at once if it is
not. Only a burst without a device takes its time on its own. -/
def overAt (t : Turn) (s : Setup) (command : Command) : Option DriverCall → Nat
  | some (.control call) => t.now + (t.control call).duration
  | some (.transfer buffer frames) => t.now + (t.transfer buffer frames).duration
  | none =>
    match command with
    | .burst _ => t.now + s.silenceTime + t.lag
    | _ => t.now

/-- The client only writes to the data queue in this turn. -/
def OnlyWrites (t : Turn) : Prop :=
  ∀ access ∈ t.before ++ t.during, ∃ bytes, access = .write bytes

end Turn

/-- A state of a machine, with the time of entry into a transient one. -/
structure Mode where
  state : State := .standby
  since : Nat := 0

namespace Mode

/-- Enters a state. The time counts only if the state is transient. -/
def enter (m : Mode) (now : Nat) (next : State) : Mode :=
  ⟨next, if next.isTransient then now else m.since⟩

end Mode

def Worker.mode (w : Worker) : Mode := ⟨w.state, w.since⟩

/-- A table, and what else a machine is made of. -/
structure Table where
  setup : Setup
  /-- A row: the state and the command, the call that is made, and the state that follows. Rows of
  bursts also depend on the connection and on the count of bytes in the reply. -/
  Row (connected : Bool) (moved : Int32) :
    State → Command → Option DriverCall.Kind → State → Prop
  /-- The commands with a value that they cannot have. -/
  Malformed : Command → Prop
  /-- What a reply says of a command that was carried out. -/
  Fine : Reply → Prop
  /-- Lets a transient state run out. -/
  elapse : Nat → Mode → Mode

namespace Table

/-- What a cycle shows of a command that comes in one mode and leads to another. -/
inductive Answers (T : Table) (t : Turn) (c : Cycle) : Mode → Command → Mode → Prop where
  | reject {m command r} (malformed : T.Malformed command) (reply : c.reply = some r)
      (call : c.call = none) (status : r.status = .badValue) (state : r.state = m.state) :
      Answers T t c m command m
  /-- The state can be asked for at any time. -/
  | tell {m r} (reply : c.reply = some r) (call : c.call = none) (status : r.status = .ok)
      (state : r.state = m.state) : Answers T t c m .getStatus m
  /-- A command with a row is carried out, and the driver call in it succeeds. -/
  | accept {m command r kind next} (reply : c.reply = some r)
      (row : T.Row t.connected r.byteCount m.state command kind next)
      (call : c.call.map DriverCall.kind = kind)
      (success : ∀ call, c.call = some call → ¬ t.Fails call)
      (time : c.ends = t.overAt T.setup command c.call)
      (fine : T.Fine r) (state : r.state = next) :
      Answers T t c m command (m.enter c.ends next)
  /-- The driver call of a row fails. -/
  | fail {m command r kind next made} (reply : c.reply = some r)
      (row : T.Row t.connected r.byteCount m.state command kind next)
      (call : c.call.map DriverCall.kind = kind)
      (is_made : c.call = some made) (failure : t.Fails made) (state : r.state = .error) :
      Answers T t c m command ⟨.error, m.since⟩
  | refuse {m command r} (wellFormed : ¬ T.Malformed command) (notTold : command ≠ .getStatus)
      (notExit : command ≠ .exit T.setup.cookie)
      (noRow : ∀ connected moved kind next, ¬ T.Row connected moved m.state command kind next)
      (reply : c.reply = some r) (call : c.call = none) (status : r.status = .invalidOperation)
      (state : r.state = m.state) : Answers T t c m command m

/-- What the cycles of a run show of a machine that starts in a mode. -/
inductive Follows (T : Table) : Mode → List Turn → List Cycle → Prop where
  | nil {m} : Follows T m [] []
  | wait {m t c turns cycles} (heard : t.heard = none) (reply : c.reply = none)
      (call : c.call = none) (stays : c.stops = false)
      (rest : Follows T (T.elapse t.begins m) turns cycles) :
      Follows T m (t :: turns) (c :: cycles)
  /-- The exit command with the right cookie ends the run. -/
  | leave {m t c turns} (heard : t.heard = some (.exit T.setup.cookie)) (reply : c.reply = none)
      (call : c.call = none) (stops : c.stops = true) : Follows T m (t :: turns) [c]
  | answer {m n t c command turns cycles} (heard : t.heard = some command)
      (answers : T.Answers t c (T.elapse t.begins m) command n) (stays : c.stops = false)
      (rest : Follows T n turns cycles) : Follows T m (t :: turns) (c :: cycles)

variable {T : Table}

/-- Only the reply, the call and the time of a cycle count for a machine. -/
theorem Answers.congr {t : Turn} {c c' : Cycle} {m n : Mode} {command : Command}
    (h : T.Answers t c m command n) (reply : c'.reply = c.reply) (call : c'.call = c.call)
    (ends : c'.ends = c.ends) : T.Answers t c' m command n := by
  cases h with
  | reject malformed hr hc hs hst =>
    exact .reject malformed (reply.trans hr) (call.trans hc) hs hst
  | tell hr hc hs hst => exact .tell (reply.trans hr) (call.trans hc) hs hst
  | accept hr row hc success time fine hst =>
    rw [← ends]
    refine .accept (reply.trans hr) row (call ▸ hc) ?_ ?_ fine hst
    · exact fun made hm => success made (call ▸ hm)
    · rw [ends, call, time]
  | fail hr row hc made failure hst =>
    exact .fail (reply.trans hr) row (call ▸ hc) (call.trans made) failure hst
  | refuse wellFormed notTold notExit noRow hr hc hs hst =>
    exact .refuse wellFormed notTold notExit noRow (reply.trans hr) (call.trans hc) hs hst

/-- A run follows a table if each command that is handled does. The invariant is one that the handling
of commands and the resolution of transient states keep. -/
theorem run_follows (Inv : State → Prop) (Meets : Turn → Prop)
    (resolve : ∀ (w : Worker) now, Inv w.state →
      (w.resolve T.setup now).1.mode = T.elapse now w.mode ∧ Inv (w.resolve T.setup now).1.state)
    (handle : ∀ t command (bench : Bench), Meets t → Inv bench.worker.state →
      command ≠ .exit T.setup.cookie →
        T.Answers t (bench.handle T.setup t command).2 bench.worker.mode command
            (bench.handle T.setup t command).1.worker.mode ∧
          Inv (bench.handle T.setup t command).1.worker.state ∧
          (bench.handle T.setup t command).2.stops = false)
    (turns : List Turn) (meets : ∀ t ∈ turns, Meets t) (bench : Bench)
    (inv : Inv bench.worker.state) :
    T.Follows bench.worker.mode turns (bench.run T.setup turns).2 := by
  induction turns generalizing bench with
  | nil => exact .nil
  | cons t turns ih =>
    have meets' : ∀ t ∈ turns, Meets t := fun u hu => meets u (List.mem_cons_of_mem _ hu)
    obtain ⟨hmode, hinv⟩ := resolve bench.worker t.begins inv
    cases heard : t.heard with
    | none =>
      have hc := Bench.cycle_of_unheard T.setup bench heard
      rw [Bench.run_cons_of_stays (by rw [hc])]
      refine .wait heard (by rw [hc]) (by rw [hc]) (by rw [hc]) ?_
      rw [← hmode]
      simpa [hc, Bench.ready] using ih meets' (bench.cycle T.setup t).1 (by simpa [hc] using hinv)
    | some command =>
      have hc := Bench.cycle_of_heard T.setup bench heard
      by_cases hexit : command = .exit T.setup.cookie
      · subst hexit
        rw [Bench.handle_exit] at hc
        rw [Bench.run_cons_of_stops (by rw [hc])]
        exact .leave heard (by rw [hc]) (by rw [hc]) (by rw [hc])
      · obtain ⟨hanswers, hinv', hstays⟩ :=
          handle t command (bench.ready T.setup t) (meets t List.mem_cons_self) hinv hexit
        rw [Bench.run_cons_of_stays (by rw [hc]; exact hstays)]
        refine .answer heard ?_ (by rw [hc]; exact hstays)
          (ih meets' (bench.cycle T.setup t).1 (by rw [hc]; exact hinv'))
        rw [← hmode, hc]
        exact hanswers.congr rfl rfl rfl

end Table

end AudioStream
