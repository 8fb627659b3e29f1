import AudioStream.Proofs.Stream.Broken
import AudioStream.Proofs.Stream.Outside
import AudioStream.Proofs.Transport
import Mathlib.Logic.Relation

/-!
# A failure of the driver is for good

Whatever happens to a stream after its driver has failed once, in either direction: all replies tell of
the error state, the driver is not called, the data queue is left to the client, and nothing is counted
or noticed any more. Commands are answered by a fixed table. The failure is reported before the reply to
the command that failed, and no other is ever reported.

The main statement is `Watch.failure_absorbing`.
-/

open Relation

namespace AudioStream

namespace Stream

variable {a b s : Stream}

theorem Leaves.fares (h : a.Leaves b) (hsound : a.Sound) : a.Fares b where
  setup := h.setup
  sound command burst moved hs := hsound command burst moved (h.stage.symm.trans hs)
  quiet := quiet_of_le h.reports

theorem Leaves.broken (h : a.Leaves b) (hbroken : a.Broken) : b.Broken := by
  unfold Broken
  rw [h.stage, h.worker]
  exact hbroken

theorem Leaves.stands (h : a.Leaves b) : a.Stands b where
  setup := h.setup
  frameCount := by rw [h.worker]
  notices := h.notices

theorem Quiet.countP_news (h : a.Quiet b) : (a.news b).countP StreamError.isDriverFailure = 0 := by
  rw [List.countP_eq_zero]
  intro e he
  simp [h e he]

theorem Confesses.countP_news_le (h : a.Confesses b) :
    (a.news b).countP StreamError.isDriverFailure ≤ 1 := by
  obtain ⟨_, _, _, reason, -, -, hreports, -⟩ := h
  refine Nat.le_trans List.countP_le_length ?_
  rcases news_of_report hreports with hnews | hnews <;> simp [hnews]

end Stream

/-! ## Runs -/

/-- A stream, and all that has been reported on it since it was opened. -/
structure Watch where
  stream : Stream
  reported : List StreamError := []

namespace Watch

inductive Step : Watch → Watch → Prop where
  | work {a b : Stream} {log : List StreamError} (h : a.Works b) : Step ⟨a, log⟩ ⟨b, log ++ a.news b⟩
  | outside {a b : Stream} {log : List StreamError} (h : a.Outside b) :
      Step ⟨a, log⟩ ⟨b, log ++ a.news b⟩

/-- How many failures of the driver have been reported. -/
def failures (σ : Watch) : Nat := σ.reported.countP StreamError.isDriverFailure

/-- The driver has not failed. -/
structure Before (σ : Watch) : Prop where
  sound : σ.stream.Sound
  untold : σ.failures = 0

/-- The driver has failed. This is told once, when the command is over that failed. -/
structure After (σ : Watch) : Prop where
  broken : σ.stream.Broken
  told : σ.failures ≤ if σ.stream.stage.isHandling then 0 else 1

variable {σ τ : Watch} {a b : Stream} {log : List StreamError}

theorem failures_append : failures ⟨b, log ++ a.news b⟩ =
    failures ⟨a, log⟩ + (a.news b).countP StreamError.isDriverFailure :=
  List.countP_append

theorem Before.fares (h : Before ⟨a, log⟩) (hfares : a.Fares b) : Before ⟨b, log ++ a.news b⟩ where
  sound := hfares.sound
  untold := by rw [failures_append, h.untold, hfares.quiet.countP_news]

/-- The failure of a driver that has not failed before. -/
theorem Before.fails (h : Before ⟨a, log⟩) (hfails : a.Fails b) : After ⟨b, log ++ a.news b⟩ := by
  obtain ⟨hbroken, -, hconfesses⟩ := hfails.broken
  refine ⟨hbroken, ?_⟩
  rw [failures_append, h.untold, Nat.zero_add]
  rcases hconfesses with hconfesses | ⟨hreports, -⟩
  · have hle := hconfesses.countP_news_le
    obtain ⟨_, _, _, _, -, hs, -⟩ := hconfesses
    simpa [hs, Stage.isHandling] using hle
  · rw [(Stream.quiet_of_eq hreports).countP_news]
    exact Nat.zero_le _

theorem After.works (h : After ⟨a, log⟩) (hw : a.Works b) : After ⟨b, log ++ a.news b⟩ := by
  have hbroken : a.Broken := h.broken
  have htold : failures ⟨a, log⟩ ≤ if a.stage.isHandling then 0 else 1 := h.told
  obtain ⟨hafter, -, hconfesses⟩ := hbroken.works hw
  refine ⟨hafter, ?_⟩
  rw [failures_append]
  rcases hconfesses with hconfesses | hidles
  · have hle := hconfesses.countP_news_le
    obtain ⟨_, _, _, _, hs, hs', -⟩ := hconfesses
    simp only [hs, hs', Stage.isHandling, if_true, Bool.false_eq_true, if_false] at htold ⊢
    omega
  · rw [hidles.before] at htold
    rw [hidles.quiet.countP_news, hidles.after]
    exact htold

theorem After.outside (h : After ⟨a, log⟩) (ho : a.Outside b) : After ⟨b, log ++ a.news b⟩ where
  broken := ho.leaves.broken h.broken
  told := by
    have htold : failures ⟨a, log⟩ ≤ if a.stage.isHandling then 0 else 1 := h.told
    rw [failures_append, (Stream.quiet_of_le ho.leaves.reports).countP_news]
    simpa only [ho.leaves.stage, Nat.add_zero] using htold

theorem before_or_after_step (h : Before σ ∨ After σ) (hstep : Step σ τ) : Before τ ∨ After τ := by
  cases hstep with
  | work hw =>
    rcases h with h | h
    · rcases h.sound.works hw with hfails | hfares
      · exact .inr (h.fails hfails)
      · exact .inl (h.fares hfares)
    · exact .inr (h.works hw)
  | outside ho =>
    rcases h with h | h
    · exact .inl (h.fares (ho.leaves.fares h.sound))
    · exact .inr (h.outside ho)

theorem setup_step (h : Before σ ∨ After σ) (hstep : Step σ τ) :
    τ.stream.setup = σ.stream.setup := by
  cases hstep with
  | work hw =>
    rcases h with h | h
    · rcases h.sound.works hw with hfails | hfares
      · exact hfails.broken.2.1.setup
      · exact hfares.setup
    · exact (h.broken.works hw).2.1.setup
  | outside ho => exact ho.leaves.setup

theorem of_reaches_opened {direction : Direction} {t : Transport} {cookie : Int32}
    {microphones : List (Device × String)}
    (h : ReflTransGen Step ⟨Stream.opened direction t cookie microphones, []⟩ σ) :
    (Before σ ∨ After σ) ∧ σ.stream.setup = .ofTransport t direction cookie := by
  induction h with
  | refl => exact ⟨.inl ⟨Stream.sound_of_isAppending rfl, rfl⟩, rfl⟩
  | tail _ hstep ih =>
    obtain ⟨hinv, hsetup⟩ := ih
    exact ⟨before_or_after_step hinv hstep, (setup_step hinv hstep).trans hsetup⟩

theorem After.of_reaches (h : After σ) (hreach : ReflTransGen Step σ τ) :
    After τ ∧ σ.stream.Stands τ.stream := by
  induction hreach with
  | refl => exact ⟨h, .refl _⟩
  | tail _ hstep ih =>
    obtain ⟨hafter, hstands⟩ := ih
    cases hstep with
    | work hw => exact ⟨hafter.works hw, hstands.trans (hafter.broken.works hw).2.1.toStands⟩
    | outside ho => exact ⟨hafter.outside ho, hstands.trans ho.leaves.stands⟩

/-- A failure of the driver is for good. In the step in which it fails, or later in its burst, the worker
reports the failure and only then has a reply to write; from this step on every reply tells of the error
state, there is no call of the driver, the worker leaves the data queue alone, nothing is counted and no
notice is given, commands are answered by the table of the error state, and no second failure of the
driver is reported. -/
theorem failure_absorbing {direction : Direction} {t : Transport} {cookie : Int32}
    {microphones : List (Device × String)}
    (hσ : ReflTransGen Step ⟨Stream.opened direction t cookie microphones, []⟩ ⟨a, log⟩)
    (hfails : a.Fails b) (hτ : ReflTransGen Step ⟨b, log ++ a.news b⟩ τ) :
    b.transport.data = a.transport.data ∧
    (a.Confesses b ∨ ∃ command burst moved, b.stage = .handling command (.appending burst moved)) ∧
    (∀ command task next, τ.stream.stage = .handling command task → τ.stream.Works next →
      τ.stream.Confesses next) ∧
    (∀ command reply, τ.stream.stage = .replying command reply → reply.state = .error) ∧
    τ.stream.call? = none ∧
    (∀ next, τ.stream.Works next → next.transport.data = τ.stream.transport.data) ∧
    τ.stream.worker.frameCount = a.worker.frameCount ∧ τ.stream.notices = a.notices ∧
    (∀ command m, τ.stream.stage = .sampling command → command ≠ .exit cookie →
      ∃ reply, τ.stream.step m = some { τ.stream with stage := .replying command reply } ∧
        reply.state = .error ∧ reply.status = direction.statusInError command) ∧
    τ.failures ≤ 1 := by
  obtain ⟨hinv, hsetup⟩ := of_reaches_opened hσ
  obtain ⟨-, hrests, hconfesses⟩ := hfails.broken
  have hbefore : Before ⟨a, log⟩ := by
    rcases hinv with h | h
    · exact h
    · exact absurd hfails h.broken.not_fails
  obtain ⟨hafter, hstands⟩ := (hbefore.fails hfails).of_reaches hτ
  have hbroken := hafter.broken
  have hstands' := hrests.toStands.trans hstands
  refine ⟨hrests.data, hconfesses.imp_right And.right, ?_, ?_, hbroken.call?_eq_none, ?_,
    hstands'.frameCount, hstands'.notices, ?_, ?_⟩
  · intro command task next hs hw
    rcases (hbroken.works hw).2.2 with h | h
    · exact h
    · have hidle := h.before
      rw [hs] at hidle
      cases hidle
  · intro command reply hs
    simp only [Stream.Broken, hs] at hbroken
    exact hbroken.2
  · exact fun next hw => (hbroken.works hw).2.1.data
  · intro command m hs other
    have hsetup' : τ.stream.setup = .ofTransport t direction cookie := hstands'.setup.trans hsetup
    simp only [Stream.Broken, hs] at hbroken
    have hother : command ≠ .exit τ.stream.setup.cookie := by rwa [hsetup']
    obtain ⟨reply, heq, hstate, hstatus⟩ := Stream.beginCommand_of_error m hbroken hother
    refine ⟨reply, ?_, hstate, ?_⟩
    · rw [Stream.step, hs]
      exact congrArg some heq
    · rw [hstatus, hsetup']
      rfl
  · have htold := hafter.told
    split at htold <;> omega

/-- A capture stream in a burst, with the driver about to move two frames. -/
def capturing : Stream :=
  { Stream.opened .input .small 7 [] with
    worker := { Worker.initial (.ofTransport .small .input 7) with state := .idle }
    stage := .handling (.burst 8) (.moving ⟨8, true⟩ 8)
    connected := true }

theorem reaches_capturing :
    ReflTransGen Step ⟨Stream.opened .input .small 7 [], []⟩ ⟨capturing, []⟩ := by
  let m : Moment := ⟨0, fun _ => none⟩
  have opened : ReflTransGen Step ⟨Stream.opened .input .small 7 [], []⟩
      ⟨Stream.opened .input .small 7 [], []⟩ := .refl
  have connected := opened.tail (.outside (.stir (.setConnected true)))
  have asked := connected.tail (.outside (.writeCommand .start rfl))
  have heard := ((asked.tail (.work (.step m rfl))).tail (.work (.step m rfl))).tail
    (.work (.step m rfl))
  have started : ReflTransGen Step ⟨Stream.opened .input .small 7 [], []⟩
      ⟨{ capturing with stage := .fresh }, []⟩ :=
    ((heard.tail (.work (.step m rfl))).tail (.work (.step m rfl))).tail (.outside .tryReadReply)
  have asked := started.tail (.outside (.writeCommand (.burst 8) rfl))
  have heard := ((asked.tail (.work (.step m rfl))).tail (.work (.step m rfl))).tail
    (.work (.step m rfl))
  exact (heard.tail (.work (.step m rfl))).tail (.work (.step m rfl))

/-- The burst fails. The client takes the reply, looks at the report and asks for the status. -/
theorem failure_absorbing_captureBurst : ∃ (b : Stream) (τ : Watch),
    ReflTransGen Step ⟨Stream.opened .input .small 7 [], []⟩ ⟨capturing, []⟩ ∧ capturing.Fails b ∧
    ReflTransGen Step ⟨b, capturing.news b⟩ τ ∧ τ.failures = 1 ∧ τ.stream.reports = [] ∧
    ∃ reply m, τ.stream.step m = some { τ.stream with stage := .replying .getStatus reply } ∧
      reply.state = .error ∧ reply.status = .ok := by
  let m : Moment := ⟨0, fun _ => none⟩
  let e : DriverError := .callFailed "transfer" (-5)
  let b : Stream := { capturing with
    worker := (capturing.worker.afterTransfer capturing.setup 8 ⟨[], .error e⟩).1
    stage := .handling (.burst 8) (.appending ⟨8, true⟩ { frames := 0, failure := some e }) }
  have fails : capturing.Fails b := .transfer m ⟨[], .error e⟩ e rfl rfl
  let idle : Stream := { b with worker := { b.worker with state := .error }, stage := .fresh }
  have failed : ReflTransGen Step ⟨b, capturing.news b⟩ ⟨b, capturing.news b⟩ := .refl
  have told := (failed.tail (.work (.step m rfl))).tail (.work (.step m rfl))
  have seen : ReflTransGen Step ⟨b, capturing.news b⟩
      ⟨idle, [Worker.transferFailure capturing.setup e]⟩ :=
    (told.tail (.outside .tryReadReply)).tail (.outside (.stir .checkErrors))
  have asked := seen.tail (.outside (.writeCommand .getStatus rfl))
  have heard := ((asked.tail (.work (.step m rfl))).tail (.work (.step m rfl))).tail
    (.work (.step m rfl))
  obtain ⟨-, -, -, -, -, -, -, -, hanswer, -⟩ := failure_absorbing reaches_capturing fails heard
  obtain ⟨reply, hreply⟩ := hanswer .getStatus m rfl nofun
  exact ⟨b, _, reaches_capturing, fails, heard, rfl, rfl, reply, m, hreply⟩

end Watch

end AudioStream
