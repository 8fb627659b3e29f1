import AudioStream.Proofs.Stream.Chronicle
import AudioStream.Proofs.Stream.Roles

/-!
# Where a stream is in a run

A chronicle of a stream has the turns that are over, and the run of these turns is where the worker of the
stream was when the last of them ended. What has happened since is in the turn under way: the client may have
been at the data queue, and the worker may be anywhere in its cycle. `Fed` says what the data queue is, and
`Placed` what the worker is, by what has been taken down. Nothing that the others do makes a difference to
this.
-/

namespace AudioStream

namespace Stage

/-- The worker is between two cycles. -/
def isResting : Stage → Bool
  | fresh | replying _ _ => true
  | _ => false

/-- The worker has been through its last cycle. -/
def isDone : Stage → Bool
  | reporting _ | closingCommands | closingReplies | leaving | stopped => true
  | _ => false

end Stage

/-- Only a worker that carries out a command has looked at the data queue for it. -/
theorem Stream.hasLooked_of_isResting_or {x : Stream}
    (h : x.stage.isResting = true ∨ x.stage.isDone = true) : x.hasLooked = false := by
  unfold hasLooked
  cases hs : x.stage with
  | handling command task =>
    rw [hs] at h
    rcases h with h | h <;> cases h
  | _ => rfl

namespace Chronicle

/-! ## Streams and runs -/

/-- The data queue of a stream is that of a run to which the client has done what has been taken down of the
turn under way. -/
inductive Fed (s : Setup) (bench : Bench) (σ : Chronicle) : Prop where
  | before (unlooked : σ.stream.hasLooked = false)
      (data : bench.data.serve σ.turn.before = (σ.stream.transport.data, σ.seen.served))
      (during : σ.turn.during = []) (later : σ.later = []) (laterServed : σ.laterServed = [])
  | during {served more : List UInt8} (looked : σ.stream.hasLooked = true)
      (left : σ.stream.hasTaken = false) (before : (bench.data.serve σ.turn.before).2 = served)
      (data : (bench.ready s σ.turn).data.serve σ.turn.during = (σ.stream.transport.data, more))
      (sum : σ.seen.served = served ++ more) (later : σ.later = []) (laterServed : σ.laterServed = [])
  | later {served more taken : List UInt8} {seen rest : DataQueue} (taking : σ.stream.hasTaken = true)
      (before : (bench.data.serve σ.turn.before).2 = served)
      (during : (bench.ready s σ.turn).data.serve σ.turn.during = (seen, more))
      (sum : σ.seen.served = served ++ more)
      (read : seen.read (s.playbackTake (bench.ready s σ.turn).data.readable) = some (taken, rest))
      (data : rest.serve σ.later = (σ.stream.transport.data, σ.laterServed))

/-- The worker of a stream has been through a cycle, and no turn has begun since. -/
structure Rested (bench : Bench) (σ : Chronicle) : Prop where
  turn : σ.turn = .blank σ.turn.before
  worker : σ.stream.worker = bench.worker
  seen : σ.seen = { ends := 0, served := σ.seen.served }

/-- The worker of a stream has begun a turn, in which it may have called the driver. -/
structure Opened (s : Setup) (bench : Bench) (σ : Chronicle) (w : Worker) (call : Option DriverCall) :
    Prop where
  worker : σ.stream.worker = w
  seen : σ.seen =
    { ends := 0, notice := (bench.worker.resolve s σ.turn.begins).2, call, served := σ.seen.served }

/-- The worker of a stream has begun a turn and done nothing else. -/
abbrev Begun (s : Setup) (bench : Bench) (σ : Chronicle) : Prop :=
  Opened s bench σ (bench.ready s σ.turn).worker none

/-- How far the worker of a stream has come with a command. -/
inductive Pursues (s : Setup) (bench : Bench) (σ : Chronicle) (command : Command) : Task → Prop where
  | controlling {call : Control} {next : State}
      (react : (bench.ready s σ.turn).worker.react s σ.turn.now σ.turn.connected command =
        .control call next)
      (begun : Begun s bench σ) : Pursues s bench σ command (.controlling σ.turn.connected call next)
  | looking {bytes : Nat}
      (react : (bench.ready s σ.turn).worker.react s σ.turn.now σ.turn.connected command = .burst bytes)
      (begun : Begun s bench σ) : Pursues s bench σ command (.looking ⟨bytes, σ.turn.connected⟩)
  | sized {bytes : Nat}
      (react : (bench.ready s σ.turn).worker.react s σ.turn.now σ.turn.connected command = .burst bytes)
      (capture : s.direction = .input) (begun : Begun s bench σ) :
      Pursues s bench σ command (.moving ⟨bytes, σ.turn.connected⟩
        (s.captureSize bytes (bench.ready s σ.turn).data.writable))
  | captured {bytes : Nat} {r : Transferred}
      (react : (bench.ready s σ.turn).worker.react s σ.turn.now σ.turn.connected command = .burst bytes)
      (capture : s.direction = .input)
      (moved : r = Bench.transfer s σ.turn (s.captureSize bytes (bench.ready s σ.turn).data.writable)
        (bench.ready s σ.turn).worker)
      (opened : Opened s bench σ r.worker r.call)
      (silence : σ.turn.connected = false → σ.turn.now + s.silenceTime ≤ σ.clock) :
      Pursues s bench σ command (.appending ⟨bytes, σ.turn.connected⟩ r.moved)
  | looked {bytes : Nat}
      (react : (bench.ready s σ.turn).worker.react s σ.turn.now σ.turn.connected command = .burst bytes)
      (playback : s.direction = .output) (begun : Begun s bench σ) :
      Pursues s bench σ command (.taking ⟨bytes, σ.turn.connected⟩
        (s.playbackTake (bench.ready s σ.turn).data.readable))
  | filled {bytes : Nat} {taken : List UInt8} {rest : DataQueue}
      (react : (bench.ready s σ.turn).worker.react s σ.turn.now σ.turn.connected command = .burst bytes)
      (playback : s.direction = .output)
      (read : ((bench.ready s σ.turn).data.serve σ.turn.during).1.read
        (s.playbackTake (bench.ready s σ.turn).data.readable) = some (taken, rest))
      (opened : Opened s bench σ ((bench.ready s σ.turn).worker.fill taken) none) :
      Pursues s bench σ command (.moving ⟨bytes, σ.turn.connected⟩
        (s.playbackSize bytes (s.playbackTake (bench.ready s σ.turn).data.readable)))

/-- The worker of a stream is where that of a run has come, with what it has done since. -/
def Placed (s : Setup) (bench : Bench) (σ : Chronicle) : Prop :=
  match σ.stream.stage with
  | .fresh | .replying _ _ => Rested bench σ
  | .arming | .waiting _ => σ.turn.heard = none ∧ Begun s bench σ
  | .sampling command => σ.turn.heard = some command ∧ Begun s bench σ
  | .handling command task =>
    σ.turn.heard = some command ∧ σ.turn.now ≤ σ.clock ∧ Pursues s bench σ command task
  | .reporting _ | .closingCommands | .closingReplies | .leaving | .stopped =>
    σ.stream.worker = bench.worker ∨ σ.stream.worker = { bench.worker with state := .error }

/-- The run of the turns that are over. -/
def run (first : Bench) (σ : Chronicle) : Bench × List Cycle := first.run σ.stream.setup σ.turns

/-- A stream shows what the run of its turns shows, and is where this run has come. -/
structure Inv (first : Bench) (σ : Chronicle) : Prop where
  cycles : (σ.run first).2.map Cycle.unreported = σ.cycles
  stays : σ.stream.stage.isDone = false → ∀ c ∈ (σ.run first).2, c.stops = false
  fed : Fed σ.stream.setup (σ.run first).1 σ
  placed : Placed σ.stream.setup (σ.run first).1 σ

variable {first bench : Bench} {σ τ : Chronicle} {s : Setup} {b : Stream} {d : Deed} {m : Moment}
  {command : Command}

theorem Inv.goOn (inv : Inv first σ) (setup : τ.stream.setup = σ.stream.setup) (turns : τ.turns = σ.turns)
    (cycles : τ.cycles = σ.cycles) (on : τ.stream.stage.isDone = false → σ.stream.stage.isDone = false)
    (fed : Fed σ.stream.setup (σ.run first).1 τ) (placed : Placed σ.stream.setup (σ.run first).1 τ) :
    Inv first τ := by
  have hrun : τ.run first = σ.run first := by rw [run, run, setup, turns]
  exact {
    cycles := by rw [hrun, cycles, inv.cycles]
    stays := by
      rw [hrun]
      exact fun h => inv.stays (on h)
    fed := by rwa [setup, hrun]
    placed := by rwa [setup, hrun] }

theorem placed_of_isResting (stage : σ.stream.stage.isResting = true) (rested : Rested bench σ) :
    Placed s bench σ := by
  unfold Placed
  cases hs : σ.stream.stage with
  | fresh | replying => exact rested
  | _ =>
    rw [hs] at stage
    cases stage

theorem Inv.rested (inv : Inv first σ) (resting : σ.stream.stage.isResting = true) :
    Rested (σ.run first).1 σ := by
  have hplaced := inv.placed
  unfold Placed at hplaced
  cases hs : σ.stream.stage with
  | fresh | replying =>
    rw [hs] at hplaced
    exact hplaced
  | _ =>
    rw [hs] at resting
    cases resting

theorem placed_of_isDone (stage : σ.stream.stage.isDone = true)
    (worker : σ.stream.worker = bench.worker ∨ σ.stream.worker = { bench.worker with state := .error }) :
    Placed s bench σ := by
  unfold Placed
  cases hs : σ.stream.stage with
  | reporting | closingCommands | closingReplies | leaving | stopped => exact worker
  | _ =>
    rw [hs] at stage
    cases stage

/-- The turn under way ends, and shows what its cycle shows. -/
theorem Inv.close {t : Turn} {seen : Cycle} {clock : Nat} (inv : Inv first σ)
    (on : σ.stream.stage.isDone = false) (setup : b.setup = σ.stream.setup)
    (cycle : ((σ.run first).1.cycle σ.stream.setup t).2.unreported = seen)
    (data : ((σ.run first).1.cycle σ.stream.setup t).1.data.serve σ.later =
      (b.transport.data, σ.laterServed))
    (place : b.stage.isResting = true ∧ seen.stops = false ∧
        b.worker = ((σ.run first).1.cycle σ.stream.setup t).1.worker ∨
      b.stage.isDone = true ∧ (b.worker = ((σ.run first).1.cycle σ.stream.setup t).1.worker ∨
        b.worker = { ((σ.run first).1.cycle σ.stream.setup t).1.worker with state := .error })) :
    Inv first { σ.close t seen with stream := b, clock } := by
  have hrun : ({ σ.close t seen with stream := b, clock } : Chronicle).run first =
      (((σ.run first).1.cycle σ.stream.setup t).1,
        (σ.run first).2 ++ [((σ.run first).1.cycle σ.stream.setup t).2]) := by
    rw [run, setup]
    exact Bench.run_concat (inv.stays on) t
  exact {
    cycles := by
      rw [hrun, List.map_append, inv.cycles, ← cycle]
      rfl
    stays := by
      intro hon c hc
      rw [hrun] at hc
      rcases List.mem_append.mp hc with hold | hnew
      · exact inv.stays on c hold
      · obtain rfl := List.mem_singleton.mp hnew
        rcases place with ⟨-, hstays, -⟩ | ⟨hover, -⟩
        · rwa [← cycle] at hstays
        · exact absurd (hover.symm.trans hon) nofun
    fed := by
      rw [setup, hrun]
      refine .before (Stream.hasLooked_of_isResting_or ?_) data rfl rfl rfl
      exact place.imp (·.1) (·.1)
    placed := by
      rw [setup, hrun]
      rcases place with ⟨hresting, -, hworker⟩ | ⟨hover, hworker⟩
      · exact placed_of_isResting hresting ⟨rfl, hworker, rfl⟩
      · exact placed_of_isDone hover hworker }

/-! ## What the others do -/

/-- What the client does to the data queue does not move the worker, whatever turn it belongs to. -/
theorem Placed.outside {turns : List Turn} {cycles : List Cycle} {later : List Access}
    {laterServed : List UInt8} (before during : List Access) (served : List UInt8) (h : Placed s bench σ)
    (setup : σ.stream.setup = s) (stage : b.stage = σ.stream.stage) (worker : b.worker = σ.stream.worker)
    (hbefore : σ.stream.hasLooked = true → before = σ.turn.before)
    (hduring : σ.stream.hasTaken = true ∨ σ.stream.hasLooked = false → during = σ.turn.during) :
    Placed s bench
      { stream := b, clock := σ.clock, turns, cycles, turn := { σ.turn with before, during }
        seen := { σ.seen with served }, later, laterServed } := by
  have hopened {w : Worker} {call : Option DriverCall} (hopened : Opened s bench σ w call) :
      Opened s bench
        { stream := b, clock := σ.clock, turns, cycles, turn := { σ.turn with before, during }
          seen := { σ.seen with served }, later, laterServed } w call := by
    refine ⟨worker.trans hopened.worker, ?_⟩
    rw [hopened.seen]
  cases hs : σ.stream.stage with
  | fresh | replying =>
    simp only [Placed, stage, hs] at h ⊢
    have unlooked : σ.stream.hasLooked = false := by rw [Stream.hasLooked, hs]
    refine ⟨?_, worker.trans h.worker, ?_⟩
    · rw [hduring (.inr unlooked), h.turn]
      rfl
    · rw [h.seen]
  | arming | waiting | sampling =>
    simp only [Placed, stage, hs] at h ⊢
    exact ⟨h.1, hopened h.2⟩
  | reporting | closingCommands | closingReplies | leaving | stopped =>
    simp only [Placed, stage, hs] at h ⊢
    rwa [worker]
  | handling command task =>
    simp only [Placed, stage, hs] at h ⊢
    obtain ⟨heard, order, pursues⟩ := h
    refine ⟨heard, order, ?_⟩
    cases pursues with
    | controlling react begun => exact .controlling react (hopened begun)
    | looking react begun => exact .looking react (hopened begun)
    -- Once the worker has looked at the data queue, it stays as it was seen.
    | sized react capture begun =>
      obtain rfl := hbefore (by rw [Stream.hasLooked, hs])
      exact .sized react capture (hopened begun)
    | captured react capture moved opened silence =>
      obtain rfl := hbefore (by rw [Stream.hasLooked, hs])
      exact .captured react capture moved (hopened opened) silence
    | looked react playback begun =>
      obtain rfl := hbefore (by rw [Stream.hasLooked, hs])
      exact .looked react playback (hopened begun)
    | filled react playback read opened =>
      obtain rfl := hbefore (by rw [Stream.hasLooked, hs])
      obtain rfl := hduring (.inl (by rw [Stream.hasTaken, hs, setup, playback]))
      exact .filled react playback read (hopened opened)

/-- Bytes get into the data queue, and out of it, only as they are written and read. -/
theorem data_of_perform {a : Stream} (hd : d.isWork = false) (h : a.perform d = some b)
    (taken : d.taken = 0) (written : d.written = []) : b.transport.data = a.transport.data := by
  have hcontents := Stream.contents_of_perform hd h
  have hcapacity := (Stream.outside_of_perform hd h).capacity
  rw [taken, written, List.drop_zero, List.append_nil] at hcontents
  exact DataQueue.eq_of_contents hcapacity hcontents

theorem hasLooked_congr {x y : Stream} (stage : y.stage = x.stage) : y.hasLooked = x.hasLooked := by
  rw [Stream.hasLooked, Stream.hasLooked, stage]

theorem hasLooked_of_hasTaken {x : Stream} (h : x.hasTaken = true) : x.hasLooked = true := by
  unfold Stream.hasTaken at h
  split at h
  next hs hd => rw [Stream.hasLooked, hs]
  next => cases h

theorem hasTaken_congr {x y : Stream} (stage : y.stage = x.stage) (setup : y.setup = x.setup) :
    y.hasTaken = x.hasTaken := by
  rw [Stream.hasTaken, Stream.hasTaken, stage, setup]

/-- The client gets at the data queue, and what it does there is taken down in the turn that it belongs to. -/
theorem Inv.noteAccess {access : Access} {bytes : List UInt8} (inv : Inv first σ) (leaves : σ.stream.Leaves b)
    (hdata : σ.stream.transport.data.serve [access] = (b.transport.data, bytes)) :
    Inv first { σ.noteAccess access bytes with stream := b } := by
  have hlooked := hasLooked_congr leaves.stage
  have htaken := hasTaken_congr leaves.stage leaves.setup
  have hon (h : b.stage.isDone = false) : σ.stream.stage.isDone = false := leaves.stage ▸ h
  unfold Chronicle.noteAccess
  cases inv.fed with
  | before unlooked data during later laterServed =>
    have left : σ.stream.hasTaken = false := by
      cases htaking : σ.stream.hasTaken with
      | false => rfl
      | true => exact absurd (hasLooked_of_hasTaken htaking) (by simp [unlooked])
    simp only [left, unlooked, Bool.false_eq_true, if_false]
    exact inv.goOn leaves.setup rfl rfl hon
      (.before (hlooked.trans unlooked) (DataQueue.serve_concat data hdata) during later laterServed)
      (inv.placed.outside (σ.turn.before ++ [access]) σ.turn.during _ rfl leaves.stage leaves.worker
        (by simp [unlooked]) fun _ => rfl)
  | during looked left before data sum later laterServed =>
    simp only [left, looked, Bool.false_eq_true, if_false, if_true]
    refine inv.goOn leaves.setup rfl rfl hon
      (.during (hlooked.trans looked) (htaken.trans left) before (DataQueue.serve_concat data hdata) ?_ later
        laterServed)
      (inv.placed.outside σ.turn.before (σ.turn.during ++ [access]) _ rfl leaves.stage leaves.worker
        (fun _ => rfl) (by simp [left, looked]))
    rw [sum, List.append_assoc]
  | later taking before during sum read data =>
    simp only [taking, if_true]
    exact inv.goOn leaves.setup rfl rfl hon
      (.later (htaken.trans taking) before during sum read (DataQueue.serve_concat data hdata))
      (inv.placed.outside σ.turn.before σ.turn.during σ.seen.served rfl leaves.stage leaves.worker
        (fun _ => rfl) fun _ => rfl)

/-- The others leave the worker and the data queue alone. -/
theorem Inv.leave (inv : Inv first σ) (setup : b.setup = σ.stream.setup) (stage : b.stage = σ.stream.stage)
    (worker : b.worker = σ.stream.worker) (hdata : b.transport.data = σ.stream.transport.data) :
    Inv first { σ with stream := b } := by
  have hlooked := hasLooked_congr stage
  have htaken := hasTaken_congr stage setup
  refine inv.goOn setup rfl rfl (fun h => stage ▸ h) ?_
    (inv.placed.outside σ.turn.before σ.turn.during σ.seen.served rfl stage worker (fun _ => rfl) fun _ => rfl)
  cases inv.fed with
  | before unlooked data during later laterServed =>
    exact .before (hlooked.trans unlooked) (by rw [data, hdata]) during later laterServed
  | during looked left before data sum later laterServed =>
    exact .during (hlooked.trans looked) (htaken.trans left) before (by rw [data, hdata]) sum later
      laterServed
  | later taking before during sum read data =>
    exact .later (htaken.trans taking) before during sum read (by rw [data, hdata])

theorem Inv.outside (inv : Inv first σ) (hd : d.isWork = false) (hp : σ.stream.perform d = some b) :
    Inv first (σ.note d b) := by
  have hleaves := (Stream.outside_of_perform hd hp).leaves
  cases d with
  | work | endControl | endTransfer => cases hd
  | writeData bytes =>
    obtain ⟨data, hwrite, rfl⟩ := Option.map_eq_some_iff.mp hp
    exact inv.noteAccess hleaves (by simp [DataQueue.serve, hwrite])
  | readData count =>
    obtain ⟨⟨bytes, c⟩, hread, rfl⟩ := Option.map_eq_some_iff.mp hp
    obtain ⟨⟨bytes', data⟩, hdata, heq⟩ := Option.map_eq_some_iff.mp hread
    cases heq
    exact inv.noteAccess hleaves (by simp [DataQueue.serve, hdata])
  | _ => exact inv.leave hleaves.setup hleaves.stage hleaves.worker (data_of_perform hd hp rfl rfl)

/-! ## What has been taken down -/

theorem fed_of_unlooked (inv : Inv first σ) (unlooked : σ.stream.hasLooked = false) :
    (σ.run first).1.data.serve σ.turn.before = (σ.stream.transport.data, σ.seen.served) ∧
      σ.turn.during = [] ∧ σ.later = [] ∧ σ.laterServed = [] := by
  cases inv.fed with
  | before _ data during later laterServed => exact ⟨data, during, later, laterServed⟩
  | during looked => cases looked.symm.trans unlooked
  | later taking => cases (hasLooked_of_hasTaken taking).symm.trans unlooked

theorem fed_of_looked (inv : Inv first σ) (looked : σ.stream.hasLooked = true)
    (left : σ.stream.hasTaken = false) :
    (((σ.run first).1.ready σ.stream.setup σ.turn).data.serve σ.turn.during).1 = σ.stream.transport.data ∧
      σ.seen.served = ((σ.run first).1.data.serve σ.turn.before).2 ++
        (((σ.run first).1.ready σ.stream.setup σ.turn).data.serve σ.turn.during).2 ∧
      σ.later = [] ∧ σ.laterServed = [] := by
  cases inv.fed with
  | before unlooked => cases looked.symm.trans unlooked
  | during _ _ before data sum later laterServed =>
    rw [data]
    exact ⟨rfl, before ▸ sum, later, laterServed⟩
  | later taking => cases taking.symm.trans left

theorem fed_of_taken {taken : List UInt8} {rest : DataQueue} (inv : Inv first σ)
    (taking : σ.stream.hasTaken = true)
    (read : (((σ.run first).1.ready σ.stream.setup σ.turn).data.serve σ.turn.during).1.read
      (σ.stream.setup.playbackTake ((σ.run first).1.ready σ.stream.setup σ.turn).data.readable) =
        some (taken, rest)) :
    rest.serve σ.later = (σ.stream.transport.data, σ.laterServed) ∧
      σ.seen.served = ((σ.run first).1.data.serve σ.turn.before).2 ++
        (((σ.run first).1.ready σ.stream.setup σ.turn).data.serve σ.turn.during).2 := by
  cases inv.fed with
  | before unlooked => cases (hasLooked_of_hasTaken taking).symm.trans unlooked
  | during _ left => cases taking.symm.trans left
  | later _ before during sum hread data =>
    rw [during] at read ⊢
    cases read.symm.trans hread
    exact ⟨data, before ▸ sum⟩

end Chronicle

end AudioStream
