import AudioStream.Proofs.Stream.Failure
import AudioStream.Proofs.Stream.Told

/-!
# What the client is given of the reports

The client looks at the reports of the worker whenever it likes. What it has been given, together with what
it would be given if it went on looking, is what has been reported: nobody but the worker adds to it, and
nobody takes away from it. A failure of the driver is added in the step in which the command is over that
failed, and a failure of a queue in the one in which the worker gives up, each if there is room.
-/

open Relation

namespace AudioStream

namespace Stream

/-- What a client is given that looks at the reports until there is none. -/
def pollAll (s : Stream) : List StreamError :=
  match _h : s.checkErrors with
  | (none, _) => []
  | (some e, rest) => e :: rest.pollAll
termination_by s.reports.length
decreasing_by
  unfold checkErrors at _h
  split at _h <;> cases _h
  next hreports => simp [hreports]

theorem pollAll_eq (s : Stream) : s.pollAll = s.reports := by
  generalize hr : s.reports = reports
  induction reports generalizing s with
  | nil =>
    rw [pollAll]
    split
    next => rfl
    next e rest h => simp [checkErrors, hr] at h
  | cons e rest ih =>
    rw [pollAll]
    split
    next h => simp [checkErrors, hr] at h
    next e' s' h =>
      simp only [checkErrors, hr, Prod.mk.injEq, Option.some.injEq] at h
      obtain ⟨rfl, rfl⟩ := h
      rw [ih _ rfl]

end Stream

/-- A stream, and the errors that the client has been given. -/
structure Inbox where
  stream : Stream
  seen : List StreamError := []

namespace Inbox

/-- One step of anyone. The client sees the reports that it takes away. -/
inductive Step : Inbox → Inbox → Prop where
  | work {a b : Stream} {seen : List StreamError} (h : a.Works b) : Step ⟨a, seen⟩ ⟨b, seen⟩
  | outside {a b : Stream} {seen : List StreamError} (h : a.Outside b) :
      Step ⟨a, seen⟩ ⟨b, seen ++ a.reports.take (a.reports.length - b.reports.length)⟩

/-- The errors that the client has been given, and would be given if it looked until there is none. -/
def errors (σ : Inbox) : List StreamError := σ.seen ++ σ.stream.pollAll

def driverFailures (σ : Inbox) : Nat := σ.errors.countP StreamError.isDriverFailure

def queueFailures (σ : Inbox) : Nat := σ.errors.countP StreamError.isQueueFailure

/-- One more report can be kept for the client. -/
def HasRoom (σ : Inbox) : Prop := σ.stream.reports.length < Stream.reportCapacity

instance (σ : Inbox) : Decidable σ.HasRoom := inferInstanceAs (Decidable (_ < _))

/-- Between two moments the worker reports an error, in a step that it takes at a third. -/
def Reports (σ : Inbox) (e : StreamError) (ρ τ : Inbox) : Prop :=
  ReflTransGen Step σ ρ ∧ ∃ b, ρ.stream.Works b ∧ b.reports = (ρ.stream.report e).reports ∧
    ReflTransGen Step ⟨b, ρ.seen⟩ τ

variable {σ ρ τ : Inbox} {a b : Stream} {seen : List StreamError}

theorem errors_eq (σ : Inbox) : σ.errors = σ.seen ++ σ.stream.reports := by
  rw [errors, Stream.pollAll_eq]

theorem errors_work (h : a.Works b) : errors ⟨b, seen⟩ = errors ⟨a, seen⟩ ++ a.news b := by
  rw [errors_eq, errors_eq, List.append_assoc,
    ← Stream.reports_eq_append_news (Stream.tells_of_works h).isPrefix]

/-- Nobody but the worker makes or loses an error. -/
theorem errors_outside (h : a.Outside b) :
    errors ⟨b, seen ++ a.reports.take (a.reports.length - b.reports.length)⟩ = errors ⟨a, seen⟩ := by
  obtain ⟨looked, hlooked⟩ := h.suffix
  rw [errors_eq, errors_eq, List.append_assoc, ← hlooked]
  simp

/-- A report counts if there is room for it. -/
theorem countP_report (p : StreamError → Bool) {e : StreamError}
    (h : b.reports = (a.report e).reports) (he : p e = true) :
    (errors ⟨b, seen⟩).countP p =
      (errors ⟨a, seen⟩).countP p + if HasRoom ⟨a, seen⟩ then 1 else 0 := by
  rw [errors_eq, errors_eq]
  by_cases hroom : a.reports.length < Stream.reportCapacity
  · simp [h, Stream.report, HasRoom, hroom, he, Nat.add_assoc]
  · simp [h, Stream.report, HasRoom, hroom]

theorem countP_report_of_other (p : StreamError → Bool) {e : StreamError}
    (h : b.reports = (a.report e).reports) (he : p e = false) :
    (errors ⟨b, seen⟩).countP p = (errors ⟨a, seen⟩).countP p := by
  rw [errors_eq, errors_eq]
  simp only [h, Stream.report]
  split <;> simp [he, List.countP_append]

theorem step_of_reports_eq (h : a.Outside b) (same : b.reports = a.reports) :
    Step ⟨a, seen⟩ ⟨b, seen⟩ := by
  have hstep : Step ⟨a, seen⟩ ⟨b, _⟩ := .outside h
  rwa [same, Nat.sub_self, List.take_zero, List.append_nil] at hstep

/-! ## The watch that goes with an inbox -/

/-- All that has been reported is what the client has been given, or would be. -/
def watch (σ : Inbox) : Watch := ⟨σ.stream, σ.errors⟩

theorem Step.watch (h : Step σ τ) : Watch.Step σ.watch τ.watch := by
  cases h with
  | work h =>
    rw [Inbox.watch, Inbox.watch, errors_work h]
    exact .work h
  | @outside a b seen h =>
    have hnews : a.news b = [] := List.drop_of_length_le h.leaves.reports
    rw [Inbox.watch, Inbox.watch, errors_outside h]
    have hstep : Watch.Step ⟨a, errors ⟨a, seen⟩⟩ ⟨b, errors ⟨a, seen⟩ ++ a.news b⟩ := .outside h
    rwa [hnews, List.append_nil] at hstep

/-! ## A failure of the driver -/

theorem driverFailures_of_confesses {reason : String}
    (h : b.reports = (a.report (.driverFailure reason)).reports)
    (hnone : driverFailures ⟨a, seen⟩ = 0) :
    driverFailures ⟨b, seen⟩ = if HasRoom ⟨a, seen⟩ then 1 else 0 := by
  have hcount : driverFailures ⟨b, seen⟩ =
      driverFailures ⟨a, seen⟩ + if HasRoom ⟨a, seen⟩ then 1 else 0 :=
    countP_report StreamError.isDriverFailure h rfl
  rwa [hnone, Nat.zero_add] at hcount

/-- Once a failure has been reported, or dropped, no other is. -/
theorem settled_step (hbroken : σ.stream.Broken) (hover : σ.stream.stage.isHandling = false)
    (h : Step σ τ) : τ.stream.Broken ∧ τ.stream.stage.isHandling = false ∧
      τ.driverFailures = σ.driverFailures := by
  cases h with
  | work h =>
    obtain ⟨hafter, -, hconfesses | hidles⟩ := hbroken.works h
    · obtain ⟨_, _, _, _, hs, -⟩ := hconfesses
      rw [hs] at hover
      cases hover
    · refine ⟨hafter, hidles.after, ?_⟩
      rw [driverFailures, driverFailures, errors_work h, List.countP_append, hidles.quiet.countP_news,
        Nat.add_zero]
  | outside h =>
    refine ⟨h.leaves.broken hbroken, by rwa [h.leaves.stage], ?_⟩
    rw [driverFailures, driverFailures, errors_outside h]

theorem settled_of_reaches (hbroken : σ.stream.Broken) (hover : σ.stream.stage.isHandling = false)
    (h : ReflTransGen Step σ τ) : τ.stream.Broken ∧ τ.stream.stage.isHandling = false ∧
      τ.driverFailures = σ.driverFailures := by
  induction h with
  | refl => exact ⟨hbroken, hover, rfl⟩
  | tail _ hstep ih =>
    obtain ⟨hbroken', hover', hsame⟩ := ih
    obtain ⟨hbroken'', hover'', hsame'⟩ := settled_step hbroken' hover' hstep
    exact ⟨hbroken'', hover'', hsame'.trans hsame⟩

/-- The failure of the driver has been reported at some moment, if there was room. -/
def Settles (σ τ : Inbox) : Prop :=
  ∃ reason ρ, Reports σ (.driverFailure reason) ρ τ ∧ ρ.stream.stage.isHandling = true ∧
    ρ.driverFailures = 0 ∧ τ.driverFailures = if ρ.HasRoom then 1 else 0

theorem settles_of_confesses (hw : a.Works b) (hbroken : b.Broken) (h : a.Confesses b)
    (hnone : driverFailures ⟨a, seen⟩ = 0) (hτ : ReflTransGen Step ⟨b, seen⟩ τ) :
    Settles ⟨a, seen⟩ τ := by
  obtain ⟨command, task, reply, reason, hs, hs', htold, -⟩ := h
  obtain ⟨-, -, hsame⟩ := settled_of_reaches hbroken (by rw [hs']; rfl) hτ
  exact ⟨reason, ⟨a, seen⟩, ⟨.refl, b, hw, htold, hτ⟩, by rw [hs]; rfl, hnone,
    hsame.trans (driverFailures_of_confesses htold hnone)⟩

theorem Settles.head {σ' : Inbox} (hstep : Step σ σ') (h : Settles σ' τ) : Settles σ τ := by
  obtain ⟨reason, ρ, ⟨hρ, b, hw, htold, hτ⟩, hcount⟩ := h
  exact ⟨reason, ρ, ⟨.head hstep hρ, b, hw, htold, hτ⟩, hcount⟩

/-- A failed transfer that the worker holds is reported with the end of its burst. -/
theorem settles_of_broken (hbroken : σ.stream.Broken) (hnone : σ.driverFailures = 0)
    (hs : σ.stream.stage.isHandling = true) (hover : τ.stream.stage.isHandling = false)
    (hτ : ReflTransGen Step σ τ) : Settles σ τ := by
  induction hτ using ReflTransGen.head_induction_on with
  | refl => simp [hs] at hover
  | head hstep hrest ih =>
    cases hstep with
    | work h =>
      obtain ⟨hafter, -, hconfesses | hidles⟩ := hbroken.works h
      · exact settles_of_confesses h hafter hconfesses hnone hrest
      · simp [hidles.before] at hs
    | outside h =>
      refine (ih (h.leaves.broken hbroken) ?_ ?_).head (.outside h)
      · rwa [driverFailures, errors_outside h]
      · rwa [h.leaves.stage]

theorem settles_of_fails (hfails : a.Fails b) (hnone : driverFailures ⟨a, seen⟩ = 0)
    (hover : τ.stream.stage.isHandling = false) (hτ : ReflTransGen Step ⟨b, seen⟩ τ) :
    Settles ⟨a, seen⟩ τ := by
  obtain ⟨hbroken, -, hconfesses | ⟨hreports, command, burst, moved, hs⟩⟩ := hfails.broken
  · exact settles_of_confesses hfails.works hbroken hconfesses hnone hτ
  · refine (settles_of_broken hbroken ?_ ?_ hover hτ).head (.work hfails.works)
    · rw [driverFailures, errors_eq] at hnone ⊢
      rwa [hreports]
    · rw [hs]
      rfl

/-! ## A failure of a queue -/

/-- A worker that has not given up has reported no failure of a queue. -/
theorem queueFailures_step (h : σ.stream.stage.isOver = true ∨ σ.queueFailures = 0)
    (hstep : Step σ τ) : τ.stream.stage.isOver = true ∨ τ.queueFailures = 0 := by
  cases hstep with
  | @work a b seen hw =>
    rcases h with hover | hnone
    · exact .inl (Stream.over_of_works hover hw).1
    · cases Stream.tells_of_works hw with
      | nothing same =>
        rw [queueFailures, errors_eq] at hnone ⊢
        exact .inr (by rwa [same])
      | refusal n e _ _ _ told => exact .inr ((countP_report_of_other _ told rfl).trans hnone)
      | driver reason _ _ told => exact .inr ((countP_report_of_other _ told rfl).trans hnone)
      | queue reason _ after => exact .inl (by rw [after]; rfl)
  | outside ho =>
    rw [queueFailures, errors_outside ho, ho.leaves.stage]
    exact h

/-- A worker that has given up reports nothing more. -/
theorem over_of_reaches (hover : σ.stream.stage.isOver = true) (h : ReflTransGen Step σ τ) :
    τ.stream.stage.isOver = true ∧ τ.errors = σ.errors := by
  induction h with
  | refl => exact ⟨hover, rfl⟩
  | tail _ hstep ih =>
    obtain ⟨hover', hsame⟩ := ih
    cases hstep with
    | @work a b seen hw =>
      obtain ⟨hover'', hreports⟩ := Stream.over_of_works hover' hw
      refine ⟨hover'', ?_⟩
      rw [← hsame, errors_eq, errors_eq]
      exact congrArg (seen ++ ·) hreports
    | outside ho =>
      refine ⟨by rwa [ho.leaves.stage], ?_⟩
      rw [errors_outside ho, hsame]

/-- What the worker says of a queue has been reported at some moment, if there was room. -/
theorem exists_reports_of_reporting {reason : String} (hs : σ.stream.stage = .reporting reason)
    (hτ : ReflTransGen Step σ τ) (hover : τ.stream.stage ≠ .reporting reason) :
    ∃ ρ, Reports σ (.queueFailure reason) ρ τ ∧ ρ.stream.stage = .reporting reason ∧
      τ.queueFailures = ρ.queueFailures + if ρ.HasRoom then 1 else 0 := by
  induction hτ using ReflTransGen.head_induction_on with
  | refl => exact absurd hs hover
  | head hstep hrest ih =>
    cases hstep with
    | @work a b seen hw =>
      obtain ⟨htold, hstage⟩ := Stream.works_of_reporting hs hw
      obtain ⟨-, hsame⟩ := over_of_reaches (by rw [hstage]; rfl) hrest
      refine ⟨⟨a, seen⟩, ⟨.refl, b, hw, htold, hrest⟩, hs, ?_⟩
      rw [queueFailures, hsame]
      exact countP_report StreamError.isQueueFailure htold rfl
    | outside ho =>
      obtain ⟨ρ, ⟨hρ, hreport⟩, hrest'⟩ := ih (by rwa [ho.leaves.stage])
      exact ⟨ρ, ⟨.head (.outside ho) hρ, hreport⟩, hrest'⟩

end Inbox

end AudioStream
