import AudioStream.Proofs.Stream.Inbox

/-!
# Failures that reach the client

A failure of the driver is reported once, when the command is over in which it happened, and a failure of a
queue once, when the worker gives up. Both reach the client if there is room for another report at that
moment, and there always is on a stream whose client is not told of transient states. On others, a client
that fails to take its notices and never looks at the reports can fill them up, and then the failure is
dropped.

The main statement is `Inbox.fatal_reported_once`.
-/

open Relation

namespace AudioStream

namespace Inbox

variable {σ τ : Inbox} {a b : Stream} {seen : List StreamError}

/-- What holds of every inbox of a stream that was opened with a setup. -/
structure Inv (s : Setup) (σ : Inbox) : Prop where
  setup : σ.stream.setup = s
  driver : σ.watch.Before ∨ σ.watch.After
  queue : σ.stream.stage.isOver = true ∨ σ.queueFailures = 0
  /-- Without notices there is nothing to report but failures of the driver and of queues. -/
  fatal : s.notifies = false →
    ∀ e ∈ σ.errors, e.isDriverFailure = true ∨ e.isQueueFailure = true

variable {s : Setup}

theorem Inv.fatal_step (inv : Inv s σ) (hn : s.notifies = false) (hstep : Step σ τ) :
    ∀ e ∈ τ.errors, e.isDriverFailure = true ∨ e.isQueueFailure = true := by
  have hfatal := inv.fatal hn
  cases hstep with
  | @work a b seen hw =>
    rw [errors_work hw]
    intro e he
    rcases List.mem_append.mp he with he | he
    · exact hfatal e he
    · cases Stream.tells_of_works hw with
      | nothing same =>
        rw [Stream.news, same, List.drop_length] at he
        cases he
      | refusal n error _ _ notifies =>
        have hsetup : a.setup = s := inv.setup
        rw [hsetup, hn] at notifies
        cases notifies
      | driver reason _ _ told =>
        rcases Stream.news_of_report told with hnews | hnews <;> rw [hnews] at he
        · exact .inl (by rw [List.mem_singleton.mp he]; rfl)
        · cases he
      | queue reason _ _ told =>
        rcases Stream.news_of_report told with hnews | hnews <;> rw [hnews] at he
        · exact .inr (by rw [List.mem_singleton.mp he]; rfl)
        · cases he
  | outside ho =>
    rw [errors_outside ho]
    exact hfatal

theorem inv_step (inv : Inv s σ) (hstep : Step σ τ) : Inv s τ where
  setup := (Watch.setup_step inv.driver hstep.watch).trans inv.setup
  driver := Watch.before_or_after_step inv.driver hstep.watch
  queue := queueFailures_step inv.queue hstep
  fatal hn := inv.fatal_step hn hstep

theorem inv_of_reaches (inv : Inv s σ) (h : ReflTransGen Step σ τ) : Inv s τ := by
  induction h with
  | refl => exact inv
  | tail _ hstep ih => exact inv_step ih hstep

theorem inv_opened (direction : Direction) (t : Transport) (cookie : Int32)
    (microphones : List (Device × String)) :
    Inv (.ofTransport t direction cookie) ⟨Stream.opened direction t cookie microphones, []⟩ := by
  have hnone : errors ⟨Stream.opened direction t cookie microphones, []⟩ = [] := by
    rw [errors_eq]
    rfl
  refine ⟨rfl, .inl ⟨Stream.sound_of_isAppending rfl, ?_⟩, .inr ?_, fun _ e he => ?_⟩
  · rw [Watch.failures, Inbox.watch, hnone]
    rfl
  · rw [queueFailures, hnone]
    rfl
  · rw [hnone] at he
    cases he

/-- The driver does not fail after it has failed. -/
theorem Inv.driverFailures_of_fails (inv : Inv s ⟨a, seen⟩) (hfails : a.Fails b) :
    driverFailures ⟨a, seen⟩ = 0 := by
  rcases inv.driver with h | h
  · exact h.untold
  · exact absurd hfails h.broken.not_fails

theorem Inv.driverFailures_le (inv : Inv s σ) : σ.driverFailures ≤ 1 := by
  rcases inv.driver with h | h
  · exact Nat.le_trans (Nat.le_of_eq h.untold) (Nat.zero_le 1)
  · have htold : σ.driverFailures ≤ if σ.stream.stage.isHandling then 0 else 1 := h.told
    split at htold <;> omega

/-- Without notices there is always room for another report. -/
theorem Inv.hasRoom (inv : Inv s σ) (hn : s.notifies = false) (hover : σ.stream.stage.isOver = false) :
    σ.HasRoom := by
  have hqueue : σ.queueFailures = 0 := by
    rcases inv.queue with h | h
    · simp [h] at hover
    · exact h
  have hrest : σ.errors.countP (fun e => !e.isDriverFailure) ≤ σ.queueFailures := by
    apply List.countP_mono_left
    intro e he hother
    rcases inv.fatal hn e he with h | h
    · simp [h] at hother
    · exact h
  have hlength : σ.stream.reports.length ≤ 1 :=
    calc σ.stream.reports.length ≤ σ.errors.length := by simp [errors_eq]
      _ = σ.driverFailures + σ.errors.countP (fun e => !e.isDriverFailure) := by
        simpa [driverFailures] using List.length_eq_countP_add_countP StreamError.isDriverFailure
      _ ≤ 1 + 0 := Nat.add_le_add inv.driverFailures_le (hqueue ▸ hrest)
  exact Nat.lt_of_le_of_lt hlength (by decide)

/-- A failure of the driver, once the command is over in which it happened, is among the errors that the
client is given exactly once if there was room for a report when it was made, and not at all otherwise. The
same goes for a failure of a queue, once the worker has given up. On a stream whose client is not told of
transient states there was room. -/
theorem fatal_reported_once (direction : Direction) (t : Transport) (cookie : Int32)
    (microphones : List (Device × String)) :
    (∀ a b seen τ, ReflTransGen Step ⟨Stream.opened direction t cookie microphones, []⟩ ⟨a, seen⟩ →
      a.Fails b → ReflTransGen Step ⟨b, seen⟩ τ → τ.stream.stage.isHandling = false →
      ∃ reason ρ, Reports ⟨a, seen⟩ (.driverFailure reason) ρ τ ∧
        τ.driverFailures = (if ρ.HasRoom then 1 else 0) ∧ (t.notifies = false → ρ.HasRoom)) ∧
    (∀ σ reason τ, ReflTransGen Step ⟨Stream.opened direction t cookie microphones, []⟩ σ →
      σ.stream.stage = .reporting reason → ReflTransGen Step σ τ → τ.stream.stage ≠ .reporting reason →
      ∃ ρ, Reports σ (.queueFailure reason) ρ τ ∧
        τ.queueFailures = (if ρ.HasRoom then 1 else 0) ∧ (t.notifies = false → ρ.HasRoom)) := by
  have inv : ∀ {σ}, ReflTransGen Step ⟨Stream.opened direction t cookie microphones, []⟩ σ →
      Inv (.ofTransport t direction cookie) σ :=
    fun h => inv_of_reaches (inv_opened direction t cookie microphones) h
  refine ⟨?_, ?_⟩
  · intro a b seen τ hσ hfails hτ hover
    obtain ⟨reason, ρ, hreports, hs, -, hcount⟩ :=
      settles_of_fails hfails ((inv hσ).driverFailures_of_fails hfails) hover hτ
    refine ⟨reason, ρ, hreports, hcount, fun hn => (inv (hσ.trans hreports.1)).hasRoom hn ?_⟩
    cases hstage : ρ.stream.stage <;> rw [hstage] at hs <;> cases hs
    rfl
  · intro σ reason τ hσ hs hτ hover
    obtain ⟨ρ, hreports, hs', hcount⟩ := exists_reports_of_reporting hs hτ hover
    have hover' : ρ.stream.stage.isOver = false := by rw [hs']; rfl
    have invρ := inv (hσ.trans hreports.1)
    have hnone : ρ.queueFailures = 0 := by
      rcases invρ.queue with h | h
      · simp [h] at hover'
      · exact h
    exact ⟨ρ, hreports, by rw [hcount, hnone, Nat.zero_add], fun hn => invρ.hasRoom hn hover'⟩

/-! ## A client that takes no notice -/

/-- A transport for a client that is told of transient states, which last for no time. -/
def noticed : Transport := { Transport.small with notifies := true }

/-- A playback stream whose client has failed to take `n` notices and never looked at the reports. -/
def crowded (n : Nat) (stage : Stage) (state : State) (connected : Bool) : Stream :=
  { Stream.opened .output noticed 7 [] with
    worker := { Worker.initial (.ofTransport noticed .output 7) with state }
    stage
    connected
    reports := List.replicate n (Notice.transferReady.failure (.config "callback refused"))
    notices := List.replicate n .transferReady }

/-- The moment of the whole run. -/
def refusing : Moment := ⟨0, fun _ => some (.config "callback refused")⟩

/-- A transfer has resolved, and the client fails to take the notice. -/
theorem step_crowded {n : Nat} (h : n < Stream.reportCapacity) :
    (crowded n .fresh .transferring false).step refusing =
      some (crowded (n + 1) .arming .active false) := by
  let resolved : Stream := { crowded n .arming .active false with
    notices := (crowded n .arming .active false).notices ++ [.transferReady] }
  have hstep : (crowded n .fresh .transferring false).step refusing =
      some (resolved.report (Notice.transferReady.failure (.config "callback refused"))) := rfl
  have hroom : resolved.reports.length < Stream.reportCapacity := by
    simpa [resolved, crowded] using h
  rw [hstep, Stream.report, if_pos hroom]
  simp only [resolved, crowded, List.replicate_succ']

section Burst

variable (n : Nat) {state : State} (connected : Bool) (h : state = .idle ∨ state = .active)

/-- A burst finds nothing in the data queue. -/
theorem step_taking :
    (crowded n (.handling (.burst 8) (.taking ⟨8, connected⟩ 0)) state connected).step refusing =
      some (crowded n (.handling (.burst 8) (.moving ⟨8, connected⟩ 0)) state connected) := by
  have hfill : ∀ w : Worker, w.fill [] = w := fun w => by simp [Worker.fill]
  have hstep : (crowded n (.handling (.burst 8) (.taking ⟨8, connected⟩ 0)) state connected).step
      refusing = some { crowded n (.handling (.burst 8) (.moving ⟨8, connected⟩ 0)) state connected with
        worker := (crowded n .fresh state connected).worker.fill [] } := rfl
  rw [hstep, hfill]
  rfl

include h in
theorem reaches_moving : ReflTransGen Step ⟨crowded n .arming state connected, []⟩
    ⟨crowded n (.handling (.burst 8) (.moving ⟨8, connected⟩ 0)) state connected, []⟩ := by
  have start : ReflTransGen Step ⟨crowded n .arming state connected, []⟩
      ⟨crowded n .arming state connected, []⟩ := .refl
  have posted := start.tail (step_of_reports_eq (.writeCommand (.burst 8) rfl) rfl)
  rcases h with rfl | rfl
  all_goals
    have sampling := (posted.tail (.work (.step refusing rfl))).tail (.work (.step refusing rfl))
    have taking := (sampling.tail (.work (.step refusing rfl))).tail (.work (.step refusing rfl))
    exact taking.tail (.work (.step refusing (step_taking n connected)))

include h in
/-- Without a device nothing is moved, and another notice will be due. -/
theorem step_moving :
    (crowded n (.handling (.burst 8) (.moving ⟨8, false⟩ 0)) state false).step refusing =
      some (crowded n (.replying (.burst 8)
        { status := .ok, state := .transferring, latency := nominalLatency }) .transferring false) := by
  have hmoved : ∀ w : Worker,
      w.withoutDevice (.ofTransport noticed .output 7) 0 = (w, { frames := 0 }) := by
    intro w
    simp [Worker.withoutDevice, Setup.ofTransport, Moved.withoutDevice, Setup.frames]
  have hstep : (crowded n (.handling (.burst 8) (.moving ⟨8, false⟩ 0)) state false).step refusing =
      some ((crowded n (.handling (.burst 8) (.moving ⟨8, false⟩ 0)) state false).afterMoving refusing
        (.burst 8) ⟨8, false⟩
        ((crowded n .fresh state false).worker.withoutDevice (.ofTransport noticed .output 7) 0)) := rfl
  rw [hstep, hmoved]
  rcases h with rfl | rfl <;> rfl

include h in
theorem reaches_transferring : ReflTransGen Step ⟨crowded n .arming state false, []⟩
    ⟨crowded n .fresh .transferring false, []⟩ := by
  have replying := (reaches_moving n false h).tail (.work (.step refusing (step_moving n h)))
  exact (replying.tail (.work (.step refusing rfl))).tail (step_of_reports_eq .tryReadReply rfl)

end Burst

/-- The client fails to take one notice after the other. -/
theorem reaches_crowded {n : Nat} (h : n ≤ Stream.reportCapacity) :
    ReflTransGen Step ⟨Stream.opened .output noticed 7 [], []⟩
      ⟨crowded n .fresh .transferring false, []⟩ := by
  induction n with
  | zero =>
    have start : ReflTransGen Step ⟨Stream.opened .output noticed 7 [], []⟩
        ⟨Stream.opened .output noticed 7 [], []⟩ := .refl
    have posted := start.tail (step_of_reports_eq (.writeCommand .start rfl) rfl)
    have sampling := ((posted.tail (.work (.step refusing rfl))).tail (.work (.step refusing rfl))).tail
      (.work (.step refusing rfl))
    have answered := (sampling.tail (.work (.step refusing rfl))).tail (.work (.step refusing rfl))
    have idle : ReflTransGen Step ⟨Stream.opened .output noticed 7 [], []⟩
        ⟨crowded 0 .arming .idle false, []⟩ :=
      (answered.tail (step_of_reports_eq .tryReadReply rfl)).tail (.work (.step refusing rfl))
    exact idle.trans (reaches_transferring 0 (.inl rfl))
  | succ n ih =>
    have resolved := (ih (Nat.le_of_succ_le h)).tail (.work (.step refusing (step_crowded h)))
    exact resolved.trans (reaches_transferring (n + 1) (.inr rfl))

/-- The driver is at work on a burst after `n` notices that were not taken. -/
def failing (n : Nat) : Stream := crowded n (.handling (.burst 8) (.moving ⟨8, true⟩ 0)) .active true

/-- The driver has failed in it. -/
def failed (n : Nat) : Stream :=
  (failing n).afterMoving refusing (.burst 8) ⟨8, true⟩
    ((failing n).worker.afterTransfer (.ofTransport noticed .output 7) 0
      ⟨[], .error (.callFailed "transfer" (-5))⟩)

theorem fails_failing (n : Nat) : (failing n).Fails (failed n) :=
  .transfer refusing ⟨[], .error (.callFailed "transfer" (-5))⟩ _ rfl rfl

theorem reaches_failing {n : Nat} (h : n < Stream.reportCapacity) :
    ReflTransGen Step ⟨Stream.opened .output noticed 7 [], []⟩ ⟨failing (n + 1), []⟩ := by
  have resolved := (reaches_crowded (Nat.le_of_lt h)).tail (.work (.step refusing (step_crowded h)))
  have connected := resolved.tail (step_of_reports_eq (.stir (.setConnected true)) rfl)
  exact connected.trans (reaches_moving (n + 1) true (.inr rfl))

theorem hasRoom_of_ite (h : 1 = if σ.HasRoom then 1 else 0) : σ.HasRoom := by
  by_cases hroom : σ.HasRoom
  · exact hroom
  · rw [if_neg hroom] at h
    cases h

/-- With one notice that was not taken there is room for the failure of the driver. So there is for that of
the command queue, on a stream that has just been opened. -/
theorem fatal_reported_once_failing :
    (∃ τ, ReflTransGen Step ⟨Stream.opened .output noticed 7 [], []⟩ ⟨failing 1, []⟩ ∧
      (failing 1).Fails (failed 1) ∧ ReflTransGen Step ⟨failed 1, []⟩ τ ∧ τ.driverFailures = 1 ∧
      ∃ reason ρ, Reports ⟨failing 1, []⟩ (.driverFailure reason) ρ τ ∧ ρ.HasRoom) ∧
    ∃ σ τ reason, ReflTransGen Step ⟨Stream.opened .output noticed 7 [], []⟩ σ ∧
      σ.stream.stage = .reporting reason ∧ ReflTransGen Step σ τ ∧ τ.queueFailures = 1 ∧
      ∃ ρ, Reports σ (.queueFailure reason) ρ τ ∧ ρ.HasRoom := by
  obtain ⟨hdriver, hqueue⟩ := fatal_reported_once .output noticed 7 []
  refine ⟨?_, ?_⟩
  · have hone : driverFailures ⟨failed 1, []⟩ = 1 := by
      rw [driverFailures, errors_eq]
      rfl
    have hreach : ReflTransGen Step ⟨Stream.opened .output noticed 7 [], []⟩ ⟨failing 1, []⟩ :=
      reaches_failing (by decide)
    obtain ⟨reason, ρ, hreports, hcount, -⟩ :=
      hdriver _ _ _ _ hreach (fails_failing 1) .refl rfl
    refine ⟨⟨failed 1, []⟩, hreach, fails_failing 1, .refl, hone, reason, ρ, hreports, ?_⟩
    rw [hone] at hcount
    exact hasRoom_of_ite hcount
  · have start : ReflTransGen Step ⟨Stream.opened .output noticed 7 [], []⟩
        ⟨Stream.opened .output noticed 7 [], []⟩ := .refl
    have shut := start.tail (step_of_reports_eq (.shutdown .command) rfl)
    let lost : Stream := ((Stream.opened .output noticed 7 []).shutdown .command).abort
      ("reading of command from queue failed: " ++ QueueError.shutDown.message)
    have gaveUp : ReflTransGen Step ⟨Stream.opened .output noticed 7 [], []⟩ ⟨lost, []⟩ :=
      ((shut.tail (.work (.step refusing rfl))).tail (.work (.step refusing rfl))).tail
        (.work (.step refusing rfl))
    let told : Inbox := ⟨({ lost with stage := .closingCommands } : Stream).report
      (.queueFailure ("reading of command from queue failed: " ++ QueueError.shutDown.message)), []⟩
    have reported : ReflTransGen Step ⟨lost, []⟩ told := .single (.work (.step refusing rfl))
    have hone : told.queueFailures = 1 := by
      rw [queueFailures, errors_eq]
      rfl
    have hover : told.stream.stage ≠ .reporting
        ("reading of command from queue failed: " ++ QueueError.shutDown.message) := by
      rintro ⟨⟩
    obtain ⟨ρ, hreports, hcount, -⟩ := hqueue _ _ _ gaveUp rfl reported hover
    rw [hone] at hcount
    exact ⟨_, told, _, gaveUp, rfl, reported, hone, ρ, hreports, hasRoom_of_ite hcount⟩

/-- Not every failure of the driver reaches the client: after 16 notices that were not taken, the client is
given none. -/
theorem exists_failure_dropped : ¬ ∀ (direction : Direction) (t : Transport) (cookie : Int32)
    (microphones : List (Device × String)) (a b : Stream) (seen : List StreamError) (τ : Inbox),
    ReflTransGen Step ⟨Stream.opened direction t cookie microphones, []⟩ ⟨a, seen⟩ → a.Fails b →
    ReflTransGen Step ⟨b, seen⟩ τ → τ.stream.stage.isHandling = false → τ.driverFailures = 1 := by
  intro h
  have hone := h .output noticed 7 [] (failing 16) (failed 16) [] ⟨failed 16, []⟩
    (reaches_failing (by decide)) (fails_failing 16) .refl rfl
  have hnone : driverFailures ⟨failed 16, []⟩ = 0 := by
    rw [driverFailures, errors_eq]
    rfl
  cases hnone.symm.trans hone

end Inbox

end AudioStream
