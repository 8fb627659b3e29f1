import AudioStream.Proofs.Playback.Run
import AudioStream.Proofs.Worker.Rejected
import AudioStream.Proofs.Worker.Timer

/-!
# Commands without effect

Some commands are answered and change nothing: a client asks for the state, gives a value that cannot be,
or gives a command that does not go with the state. A run to which such commands are added shows the same
to the commands that were there before. It may be in another state in between, as an added cycle may be the
first one to find a transient state due; so the two runs are compared through a worker that is not checked
before the next of these commands.

The main statement is `Bench.sights_of_added`.
-/

namespace AudioStream

namespace Bench

/-! ## Cycles without effect -/

/-- In this turn the worker hears a command that has no effect. -/
inductive Ineffective (s : Setup) (t : Turn) (bench : Bench) : Prop where
  | told (heard : t.heard = some .getStatus)
  | malformed {command} (heard : t.heard = some command) (malformed : s.Malformed command)
  | refused (status : (bench.cycle s t).2.reply.map Reply.status = some .invalidOperation)

/-- A cycle that does no more than to look for a transient state that is due. -/
structure Skips (s : Setup) (t : Turn) (bench : Bench) : Prop where
  after : (bench.cycle s t).1 = bench.ready s t
  call : (bench.cycle s t).2.call = none
  stays : (bench.cycle s t).2.stops = false

variable {s : Setup} {t : Turn} {bench : Bench}

theorem skips_of_unheard (heard : t.heard = none) : bench.Skips s t := by
  have hc := cycle_of_unheard s bench heard
  constructor <;> simp [hc]

/-- A burst that is carried out is not refused. -/
theorem status_burst_ne_invalidOperation (s : Setup) (t : Turn) (bench : Bench) (bytes : Nat) :
    (bench.burst s t bytes).2.1.answer.status ≠ .invalidOperation := by
  have hfinish : ∀ (w : Worker) now b m queued,
      (w.finishBurst s now b m queued).answer.status ≠ .invalidOperation := by
    intro w now b m queued
    rw [Handled.answer, w.status_finishBurst]
    cases queued <;> simp
  unfold burst
  split
  · rw [capture_eq]
    exact hfinish _ _ _ _ _
  · unfold playback
    dsimp only
    split <;> exact hfinish _ _ _ _ _

/-- A command is refused only if it does not go with the state. -/
theorem decide_of_refused {command : Command} {r : Reply} (heard : t.heard = some command)
    (reply : (bench.cycle s t).2.reply = some r) (status : r.status = .invalidOperation) :
    s.decide (bench.ready s t).worker.state command = .refuse := by
  rw [cycle_of_heard s bench heard] at reply
  cases hd : s.decide (bench.ready s t).worker.state command with
  | refuse => rfl
  | stop =>
    rw [handle_of_stop hd] at reply
    cases reply
  | reject =>
    rw [handle_of_reject hd] at reply
    cases reply
    cases status
  | tell =>
    rw [handle_of_tell hd] at reply
    cases reply
    cases status
  | move next =>
    rw [handle_of_move hd] at reply
    cases reply
    cases status
  | control call next =>
    rw [handle_of_control hd] at reply
    cases reply
    cases ha : (t.control call).answer <;> rw [ha] at status <;> cases status
  | burst bytes =>
    rw [handle_of_burst hd] at reply
    cases reply
    exact absurd status (status_burst_ne_invalidOperation s t _ bytes)

theorem skips_of_ineffective (h : bench.Ineffective s t) : bench.Skips s t := by
  cases h with
  | told heard =>
    have hc := cycle_of_heard s bench heard
    rw [handle_of_tell (s.decide_getStatus _)] at hc
    constructor <;> simp [hc]
  | @malformed command heard malformed =>
    have hc := cycle_of_heard s bench heard
    rw [handle_of_reject (Setup.decide_of_malformed malformed _)] at hc
    constructor <;> simp [hc]
  | refused status =>
    obtain ⟨r, reply, status⟩ := Option.map_eq_some_iff.mp status
    cases heard : t.heard with
    | none =>
      rw [cycle_of_unheard s bench heard] at reply
      cases reply
    | some command =>
      have hc := cycle_of_heard s bench heard
      rw [handle_of_refuse (decide_of_refused heard reply status)] at hc
      constructor <;> simp [hc]

/-! ## Runs with added turns -/

/-- A turn of a run, and whether it is one that was added to the run. -/
structure Entry where
  turn : Turn
  added : Bool := false

/-- What a run shows of a command that was not added: what the command leads to, and all that the client
was told until then. -/
structure Sight where
  reply : Option Reply
  call : Option DriverCall
  /-- The contents of the data queue when the command is carried out. -/
  queued : List UInt8
  frameCount : Int64
  notices : List Notice

namespace Entry

/-- The worker hears a command that was not added. -/
def Counts (e : Entry) : Prop := e.added = false ∧ e.turn.heard.isSome

instance (e : Entry) : Decidable e.Counts := inferInstanceAs (Decidable (_ ∧ _))

end Entry

/-- What the commands of a run show that were not added. The notices are those given before the run. -/
def sights (s : Setup) (bench : Bench) (notices : List Notice) : List Entry → List Sight
  | [] => []
  | e :: entries =>
    let (after, seen) := bench.cycle s e.turn
    let told := notices ++ seen.notice.toList
    let rest := if seen.stops then [] else after.sights s told entries
    if e.Counts then
      ⟨seen.reply, seen.call, (bench.ready s e.turn).data.contents, after.worker.frameCount, told⟩ :: rest
    else rest

/-- Every added turn that the worker takes is without effect. -/
def Harmless (s : Setup) (bench : Bench) : List Entry → Prop
  | [] => True
  | e :: entries =>
    (e.added = true → bench.Ineffective s e.turn) ∧
      ((bench.cycle s e.turn).2.stops = false → (bench.cycle s e.turn).1.Harmless s entries)

/-- A turn as its command meets it. Whatever others have done to the data queue since the command before,
they may just as well have done in this turn; and it does not matter how a client takes its notices. -/
def met (t : Turn) (pending : List Access) : Turn :=
  { t with before := pending ++ t.before, refusal := fun _ => none }

/-- What the commands meet that were not added. -/
def commands (pending : List Access) : List Entry → List Turn
  | [] => []
  | e :: entries =>
    if e.Counts then met e.turn pending :: commands [] entries
    else commands (pending ++ e.turn.before) entries

/-- From some time on, every check finds the same worker in two runs and leads to the same notices. The
one run has not yet let the others at the data queue. -/
structure Agrees (s : Setup) (time : Nat) (bench : Bench) (notices : List Notice)
    (pending : List Access) (base : Bench) (told : List Notice) : Prop where
  data : bench.data = (base.data.serve pending).1
  worker : ∀ now, time ≤ now → (bench.worker.resolve s now).1 = (base.worker.resolve s now).1
  notices : ∀ now, time ≤ now → notices ++ (bench.worker.resolve s now).2.toList =
    told ++ (base.worker.resolve s now).2.toList

end Bench

/-- What is done to a queue in one go may be done in two. -/
theorem DataQueue.serve_append (q : DataQueue) (first second : List Access) :
    (q.serve (first ++ second)).1 = ((q.serve first).1.serve second).1 := by
  induction first generalizing q with
  | nil => rfl
  | cons access rest ih =>
    cases access with
    | write bytes => exact ih _
    | read count =>
      rw [List.cons_append, serve, serve]
      cases q.read count with
      | none => exact ih q
      | some taken => exact ih taken.2

namespace Bench

variable {s : Setup} {bench base : Bench} {notices told : List Notice} {pending : List Access}
  {time : Nat} {e : Entry} {entries : List Entry}

theorem Agrees.refl (s : Setup) (time : Nat) (bench : Bench) (notices : List Notice) :
    bench.Agrees s time notices [] bench notices :=
  ⟨rfl, fun _ _ => rfl, fun _ _ => rfl⟩

/-- A turn that is skipped keeps two runs together. -/
theorem Agrees.skip (h : bench.Agrees s time notices pending base told) {t : Turn}
    (hle : time ≤ t.begins) : (bench.ready s t).Agrees s t.begins
      (notices ++ (bench.worker.resolve s t.begins).2.toList) (pending ++ t.before) base told where
  data := by rw [DataQueue.serve_append, ← h.data, ready]
  worker now hnow := by
    rw [ready_worker, Worker.resolve_resolve hnow, h.worker now (Nat.le_trans hle hnow)]
  notices now hnow := by
    rw [ready_worker, List.append_assoc, Worker.notices_resolve hnow,
      h.notices now (Nat.le_trans hle hnow)]

/-- Two runs that agree are the same when the next command is carried out. -/
theorem Agrees.ready (h : bench.Agrees s time notices pending base told) {t : Turn}
    (hle : time ≤ t.begins) : bench.ready s t = base.ready s (met t pending) := by
  simp only [Bench.ready, met, DataQueue.serve_append, h.data, h.worker t.begins hle]

/-- Two runs that agree show the same of the next command. -/
theorem Agrees.cycle (h : bench.Agrees s time notices pending base told) {t : Turn}
    (hle : time ≤ t.begins) (heard : t.heard.isSome = true) :
    (bench.cycle s t).1 = (base.cycle s (met t pending)).1 ∧
    (bench.cycle s t).2.reply = (base.cycle s (met t pending)).2.reply ∧
    (bench.cycle s t).2.call = (base.cycle s (met t pending)).2.call ∧
    (bench.cycle s t).2.stops = (base.cycle s (met t pending)).2.stops := by
  obtain ⟨command, heard⟩ := Option.isSome_iff_exists.mp heard
  rw [cycle_of_heard s bench heard, cycle_of_heard s base (t := met t pending) heard, h.ready hle]
  exact ⟨rfl, rfl, rfl, rfl⟩

theorem sights_cons_of_skips (h : bench.Skips s e.turn) (hcounts : ¬ e.Counts) :
    bench.sights s notices (e :: entries) = (bench.ready s e.turn).sights s
      (notices ++ (bench.worker.resolve s e.turn.begins).2.toList) entries := by
  simp [sights, hcounts, h.stays, h.after, notice_cycle]

theorem skips_of_not_counts (hadded : e.added = true → bench.Ineffective s e.turn)
    (hcounts : ¬ e.Counts) : bench.Skips s e.turn := by
  cases ha : e.added with
  | true => exact skips_of_ineffective (hadded ha)
  | false =>
    refine skips_of_unheard ?_
    simpa [Entry.Counts, ha] using hcounts

/-- What a run shows of its commands does not depend on the turns in which they do not come. -/
theorem sights_eq (harmless : bench.Harmless s entries)
    (sorted : (time :: entries.map fun e => e.turn.begins).Pairwise (· ≤ ·))
    (h : bench.Agrees s time notices pending base told) :
    bench.sights s notices entries =
      base.sights s told ((commands pending entries).map fun t => { turn := t }) := by
  induction entries generalizing bench notices pending base told time with
  | nil => rfl
  | cons e entries ih =>
    obtain ⟨hadded, hrest⟩ := harmless
    obtain ⟨hle, hsorted⟩ := List.pairwise_cons.mp sorted
    have hle : time ≤ e.turn.begins := hle _ List.mem_cons_self
    by_cases hcounts : e.Counts
    · obtain ⟨hafter, hreply, hcall, hstops⟩ := h.cycle hle hcounts.2
      have hnotices := h.notices e.turn.begins hle
      have hcounts' : Entry.Counts { turn := met e.turn pending } := ⟨rfl, hcounts.2⟩
      rw [commands, if_pos hcounts, List.map_cons, sights, sights]
      simp only [if_pos hcounts, if_pos hcounts', notice_cycle, ← hafter, ← hreply, ← hcall,
        ← hstops, ← h.ready hle]
      rw [hnotices]
      cases hs : (bench.cycle s e.turn).2.stops with
      | true => rfl
      | false =>
        rw [ih (hrest hs) hsorted (.refl s _ _ _)]
        rfl
    · have hskips := skips_of_not_counts hadded hcounts
      rw [sights_cons_of_skips hskips hcounts, commands, if_neg hcounts]
      exact ih (hskips.after ▸ hrest hskips.stays) hsorted (h.skip hle)

/-- All calls of the driver are for commands that were not added. -/
theorem calls_eq (notices : List Notice) (harmless : bench.Harmless s entries) :
    (bench.run s (entries.map Entry.turn)).2.filterMap Cycle.call =
      (bench.sights s notices entries).filterMap Sight.call := by
  induction entries generalizing bench notices with
  | nil => rfl
  | cons e entries ih =>
    obtain ⟨hadded, hrest⟩ := harmless
    rw [List.map_cons]
    by_cases hcounts : e.Counts
    · rw [sights]
      simp only [if_pos hcounts]
      cases hs : (bench.cycle s e.turn).2.stops with
      | true =>
        rw [run_cons_of_stops hs]
        simp [List.filterMap_cons]
      | false =>
        rw [run_cons_of_stays hs, List.filterMap_cons, List.filterMap_cons, ih _ (hrest hs)]
        rfl
    · have hskips := skips_of_not_counts hadded hcounts
      rw [sights_cons_of_skips hskips hcounts, run_cons_of_stays hskips.stays, List.filterMap_cons,
        hskips.call, hskips.after]
      exact ih _ (hskips.after ▸ hrest hskips.stays)

/-- A run to which nothing was added. -/
theorem harmless_of_turns (s : Setup) (bench : Bench) (turns : List Turn) :
    bench.Harmless s (turns.map fun t => { turn := t }) := by
  induction turns generalizing bench with
  | nil => exact trivial
  | cons t turns ih => exact ⟨nofun, fun _ => ih _⟩

/-- Commands without effect that are added to a run are invisible to the others. If these meet the same in
both runs, and time goes forward in both, then they get the same replies, lead to the same calls of the
driver, find the same in the data queue and leave the same count of frames; and at each of them the client
has been told the same. -/
theorem sights_of_added (s : Setup) (bench : Bench) (notices : List Notice) (turns : List Turn)
    (entries : List Entry) (harmless : bench.Harmless s entries)
    (same : commands [] (turns.map fun t => { turn := t }) = commands [] entries)
    (sorted : (turns.map Turn.begins).Pairwise (· ≤ ·))
    (sorted_added : (entries.map fun e => e.turn.begins).Pairwise (· ≤ ·)) :
    bench.sights s notices (turns.map fun t => { turn := t }) = bench.sights s notices entries ∧
      (bench.run s turns).2.filterMap Cycle.call =
        (bench.run s (entries.map Entry.turn)).2.filterMap Cycle.call := by
  have hbefore : ∀ {times : List Nat}, times.Pairwise (· ≤ ·) → (0 :: times).Pairwise (· ≤ ·) :=
    fun h => List.pairwise_cons.mpr ⟨fun _ _ => Nat.zero_le _, h⟩
  have hturns := harmless_of_turns s bench turns
  have hsights : bench.sights s notices (turns.map fun t => { turn := t }) =
      bench.sights s notices entries := by
    rw [sights_eq hturns (hbefore (by simpa [Function.comp_def] using sorted)) (.refl s 0 bench notices),
      same, ← sights_eq harmless (hbefore sorted_added) (.refl s 0 bench notices)]
  refine ⟨hsights, ?_⟩
  have hcalls := calls_eq notices harmless
  rw [hcalls, ← hsights, ← calls_eq notices hturns]
  simp [Function.comp_def]

/-- A turn at one moment, with a driver that takes two units for a call. -/
def quietTurn (time : Nat) (heard : Option Command) (before : List Access) : Turn :=
  { Playback.turnAt time heard false with before := before }

/-- A run in which a transfer and a drain are found to be due by the commands that follow them. -/
def quietRun : List Turn :=
  [quietTurn 0 (some .start) [.write [1, 2], .write [3, 4]],
    quietTurn 1 (some (.burst 8)) [.write [5, 6, 7, 8]],
    quietTurn 12 (some (.drain .all)) [.write [9], .read 1], quietTurn 30 (some .pause) [],
    quietTurn 31 (some (.exit 7)) []]

/-- The same run with commands of each kind that has no effect, and with waits that run out. The transfer
and the drain are found to be due by a command that was added, and by a wait. -/
def busyRun : List Entry :=
  [⟨quietTurn 0 (some .getStatus) [.write [1, 2]], true⟩,
    ⟨quietTurn 0 (some .start) [.write [3, 4]], false⟩,
    ⟨quietTurn 1 (some (.burst 8)) [.write [5, 6, 7, 8]], false⟩,
    ⟨quietTurn 2 (some (.burst (-4))) [], true⟩, ⟨quietTurn 3 none [.write [9]], false⟩,
    ⟨quietTurn 9 (some .getStatus) [.read 1], true⟩, ⟨quietTurn 10 (some .start) [], true⟩,
    ⟨quietTurn 12 (some (.drain .all)) [], false⟩, ⟨quietTurn 14 (some (.exit 3)) [], true⟩,
    ⟨quietTurn 15 (some (.drain .unspecified)) [], true⟩, ⟨quietTurn 20 none [], false⟩,
    ⟨quietTurn 30 (some .pause) [], false⟩, ⟨quietTurn 31 (some (.exit 7)) [], false⟩]

theorem sights_of_added_busyRun :
    let bench := Bench.initial Playback.shortSetup ⟨8, [], by decide, by decide⟩
    bench.Harmless Playback.shortSetup busyRun ∧
    commands [] (quietRun.map fun t => { turn := t }) = commands [] busyRun ∧
    (bench.sights Playback.shortSetup [] busyRun).map
        (fun sight => (sight.reply.map Reply.state, sight.queued.length, sight.notices)) =
      [(some .idle, 4, []), (some .transferring, 8, []), (some .draining, 0, [.transferReady]),
        (some .idle, 0, [.transferReady, .drainReady]), (none, 0, [.transferReady, .drainReady])] ∧
    bench.sights Playback.shortSetup [] (quietRun.map fun t => { turn := t }) =
      bench.sights Playback.shortSetup [] busyRun := by
  intro bench
  have harmless : bench.Harmless Playback.shortSetup busyRun := by
    refine ⟨fun _ => .told rfl, fun _ => ⟨nofun, fun _ => ⟨nofun, fun _ => ?_⟩⟩⟩
    have hburst := Playback.Malformed.burst (s := Playback.shortSetup) (n := -4) (by decide)
    refine ⟨fun _ => .malformed rfl hburst, fun _ => ⟨nofun, fun _ => ?_⟩⟩
    refine ⟨fun _ => .told rfl, fun _ => ?_⟩
    refine ⟨fun _ => .refused (by decide +kernel), fun _ => ⟨nofun, fun _ => ?_⟩⟩
    refine ⟨fun _ => .malformed rfl (Playback.Malformed.exit (by decide)), fun _ => ?_⟩
    refine ⟨fun _ => .malformed rfl Playback.Malformed.drain, fun _ => ⟨nofun, fun _ => ?_⟩⟩
    exact ⟨nofun, fun _ => ⟨nofun, fun _ => trivial⟩⟩
  have same : commands [] (quietRun.map fun t => { turn := t }) = commands [] busyRun := rfl
  exact ⟨harmless, same, by decide +kernel,
    (sights_of_added _ bench [] quietRun busyRun harmless same (by decide) (by decide)).1⟩

end Bench

end AudioStream
