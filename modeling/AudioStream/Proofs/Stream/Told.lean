import AudioStream.Proofs.Stream.Acts
import AudioStream.Proofs.Stream.Reports

/-!
# What each step of a worker tells

A step of a worker reports at most one error, and there are three occasions for it: a client that is given
a notice fails to take it, a command is over of which a call of the driver failed, or a worker gives up
because a queue failed. What the client has not looked at stays where it is.
-/

namespace AudioStream

/-- Whether an error tells of a failure of a queue. -/
def StreamError.isQueueFailure : StreamError → Bool
  | .queueFailure _ => true
  | _ => false

namespace Stage

/-- The worker is giving up, or has stopped. -/
def isOver : Stage → Bool
  | .closingCommands | .closingReplies | .stopped => true
  | _ => false

end Stage

namespace Stream

variable {a b s : Stream}

/-- What a step of the worker adds to the reports. -/
inductive Tells (a b : Stream) : Prop where
  | nothing (same : b.reports = a.reports)
  | refusal (n : Notice) (e : Error) (before : a.stage = .fresh) (after : b.stage = .arming)
      (notifies : a.setup.notifies = true) (told : b.reports = (a.report (n.failure e)).reports)
  | driver (reason : String) (before : a.stage.isOver = false) (after : b.stage.isOver = false)
      (told : b.reports = (a.report (.driverFailure reason)).reports)
  | queue (reason : String) (before : a.stage = .reporting reason) (after : b.stage = .closingCommands)
      (told : b.reports = (a.report (.queueFailure reason)).reports)

/-- A command that has been carried out has at most a failure of the driver to report. -/
theorem tells_handled {command : Command} {h : Handled} (hs : s.reports = a.reports)
    (ha : a.stage.isOver = false)
    (hreport : ∀ e, h.report = some e → ∃ reason, e = .driverFailure reason) :
    a.Tells (s.handled command h) := by
  have hreports : ∀ e, h.report = some e →
      (s.handled command h).reports = (a.report e).reports :=
    fun e he => (reports_handled_of_some he).trans (reports_report_congr hs e)
  cases hr : h.report with
  | none => exact .nothing ((reports_handled_of_none hr).trans hs)
  | some e =>
    obtain ⟨reason, rfl⟩ := hreport e hr
    exact .driver reason ha (by rw [stage_handled]; rfl) (hreports _ hr)

theorem report_finishBurst_eq (s : Setup) (now : Nat) (burst : Burst) (moved : Moved) (queued : Bool)
    (w : Worker) (e : StreamError) (h : (w.finishBurst s now burst moved queued).report = some e) :
    ∃ reason, e = .driverFailure reason := by
  cases hm : moved.failure with
  | none => simp [report_finishBurst s now burst queued w hm] at h
  | some failure =>
    cases hd : s.direction <;> simp [Worker.finishBurst, hm, Worker.transferFailure, hd] at h <;>
      exact ⟨_, h.symm⟩

/-- Only a client that is to be told of transient states is given notices. -/
theorem notifies_of_notice {s : Setup} {w : Worker} {now : Nat} {n : Notice}
    (h : (w.resolve s now).2 = some n) : s.notifies = true := by
  cases hn : s.notifies with
  | true => rfl
  | false =>
    simp only [Worker.resolve, hn, Bool.false_eq_true, if_false] at h
    split at h <;> cases h

theorem tells_beginCycle (m : Moment) (hs : s.stage = .fresh) : s.Tells (s.beginCycle m) := by
  unfold beginCycle
  dsimp only
  split
  next e he =>
    obtain ⟨n, hnotice, hn⟩ := Option.bind_eq_some_iff.mp he
    obtain ⟨error, -, rfl⟩ := Option.map_eq_some_iff.mp hn
    refine .refusal n error hs ?_ (notifies_of_notice hnotice) (reports_report_congr ?_ _)
    · rw [stage_report]
    · rfl
  next => exact .nothing rfl

theorem tells_of_works (h : a.Works b) : a.Tells b := by
  cases acts_of_works h with
  | resolve m hs => exact tells_beginCycle m hs
  | tell now hs hreact =>
    refine tells_handled rfl (by rw [hs]; rfl) ?_
    intro e he
    simp [report_react hreact] at he
  | starve now hs | play now _ hs | append now hs | overflow now hs =>
    exact tells_handled rfl (by rw [hs]; rfl) (report_finishBurst_eq _ _ _ _ _ _)
  | control now hs result =>
    refine tells_handled rfl (by rw [hs]; rfl) ?_
    intro e he
    cases result with
    | ok done => simp [Worker.afterControl] at he
    | error failure => exact ⟨_, (Option.some.inj he).symm⟩
  | @giveUp reason hs =>
    refine .queue reason hs (stage_report _ _) (reports_report_congr ?_ _)
    rfl
  | _ => exact .nothing rfl

theorem Fails.works (h : a.Fails b) : a.Works b := by
  cases h with
  | control m e h => exact .control m _ h
  | transfer m answer e failed h => exact .transfer m answer h

/-! ## What follows from it -/

/-- A report comes behind those that are there, if it comes at all. -/
theorem prefix_report (s : Stream) (e : StreamError) : s.reports <+: (s.report e).reports := by
  unfold report
  split
  · exact List.prefix_append _ _
  · exact List.prefix_rfl

theorem Tells.isPrefix (h : a.Tells b) : a.reports <+: b.reports := by
  cases h with
  | nothing same => exact same ▸ List.prefix_rfl
  | refusal n e _ _ _ told => exact told ▸ a.prefix_report _
  | driver reason _ _ told => exact told ▸ a.prefix_report _
  | queue reason _ _ told => exact told ▸ a.prefix_report _

theorem reports_eq_append_news (h : a.reports <+: b.reports) : b.reports = a.reports ++ a.news b := by
  obtain ⟨rest, hrest⟩ := h
  rw [news, ← hrest, List.drop_left]

theorem works_of_reporting {reason : String} (hs : a.stage = .reporting reason) (h : a.Works b) :
    b.reports = (a.report (.queueFailure reason)).reports ∧ b.stage = .closingCommands := by
  obtain ⟨m, h⟩ := h.step_of_not_handling (by simp [hs])
  simp only [step, hs] at h
  cases h
  refine ⟨reports_report_congr ?_ _, stage_report _ _⟩
  rfl

/-- A worker that is giving up or has stopped tells nothing more. -/
theorem over_of_works (ha : a.stage.isOver = true) (h : a.Works b) :
    b.stage.isOver = true ∧ b.reports = a.reports := by
  refine ⟨?_, ?_⟩
  · obtain ⟨m, h⟩ := h.step_of_not_handling fun command task hs => by simp [hs, Stage.isOver] at ha
    cases hs : a.stage <;> rw [hs] at ha <;> cases ha <;> simp only [step, hs] at h <;> cases h <;> rfl
  · cases tells_of_works h with
    | nothing same => exact same
    | refusal n e before => simp [before, Stage.isOver] at ha
    | driver reason before => simp [before] at ha
    | queue reason before => simp [before, Stage.isOver] at ha

end Stream

end AudioStream
