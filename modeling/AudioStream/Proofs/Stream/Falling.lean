import AudioStream.Proofs.Stream.Dismissal
import AudioStream.Proofs.Stream.Inbox

/-!
# A client that has seen the failure of a queue

A worker that gives up tells so first, shuts the command queue down next, and the reply queue last. A client
that has been told may be ahead of it: only the queue that the reason names is down for certain, and a command
can still be written to the other, or a reply be read from it. The worker waits for nobody on the way, so both
queues are down two steps later at most, and from then on for good.

The main statement is `Inbox.falls_of_seen`.
-/

open Relation

namespace AudioStream

namespace Stream

variable {a b s : Stream} {reason : String}

/-- The queue that the reason for giving up names is down. -/
inductive Lost (s : Stream) : String → Prop where
  | commands (shut : s.transport.commands.isShutDown = true) :
      Lost s ("reading of command from queue failed: " ++ QueueError.shutDown.message)
  | replies (reply : Reply) (shut : s.transport.replies.isShutDown = true) :
      Lost s ("writing of reply " ++ reply.text ++ " to queue failed: " ++ QueueError.shutDown.message)

theorem Lost.grows (h : a.Lost reason) (grows : a.skeleton.Grows b.skeleton) : b.Lost reason := by
  cases h with
  | commands shut => exact .commands (grows.commands shut)
  | replies reply shut => exact .replies reply (grows.replies shut)

/-- Only a queue that could not be read or written makes a worker give up. -/
theorem Acts.failure (h : a.Acts b) (hb : b.stage = .reporting reason) :
    (∃ deadline e, a.stage = .waiting deadline ∧ a.transport.commands.read = .failed e) ∨
      ∃ command reply e, a.stage = .replying command reply ∧
        a.transport.replies.write reply = .failed e := by
  cases h with
  | failToRead told stage read => exact .inl ⟨_, _, stage, read⟩
  | failToWrite told stage write => exact .inr ⟨_, _, _, stage, write⟩
  | resolve m stage =>
    obtain ⟨reports, heq⟩ := a.beginCycle_eq m
    rw [heq] at hb
    cases hb
  | tell | starve | play | append | overflow | control =>
    rw [stage_handled] at hb
    cases hb
  | giveUp stage =>
    rw [stage_report] at hb
    cases hb
  | _ => cases hb

/-- The reason names the queue that the worker could not read or write. -/
theorem lost_of_works (h : a.Works b) (hb : b.stage = .reporting reason) : b.Lost reason := by
  obtain ⟨deadline, e, stage, read⟩ | ⟨command, reply, e, stage, write⟩ := (acts_of_works h).failure hb
  · obtain rfl := MessageQueue.eq_shutDown_of_read read
    obtain ⟨m, h⟩ := h.step_of_not_handling (by simp [stage])
    simp only [step, stage, awaitCommand, read, Option.some.injEq] at h
    subst h
    obtain rfl := Stage.reporting.inj hb
    exact .commands (MessageQueue.of_read_eq_failed read)
  · obtain rfl := MessageQueue.eq_shutDown_of_write write
    obtain ⟨m, h⟩ := h.step_of_not_handling (by simp [stage])
    simp only [step, stage, writeReply, write, Option.some.injEq] at h
    subst h
    obtain rfl := Stage.reporting.inj hb
    exact .replies reply (MessageQueue.of_write_eq_failed write)

/-- A worker that has told of a queue is about to shut the queues down, or has done so. -/
inductive Falls (s : Stream) : Prop where
  | commands (stage : s.stage = .closingCommands)
  | replies (stage : s.stage = .closingReplies) (shut : s.transport.commands.isShutDown = true)
  | down (stage : s.stage = .stopped) (commands : s.transport.commands.isShutDown = true)
      (replies : s.transport.replies.isShutDown = true)

theorem Falls.works (h : a.Falls) (hworks : a.Works b) : b.Falls := by
  cases h with
  | commands stage =>
    obtain ⟨m, h⟩ := hworks.step_of_not_handling (by simp [stage])
    simp only [step, stage] at h
    cases h
    exact .replies rfl rfl
  | replies stage shut =>
    obtain ⟨m, h⟩ := hworks.step_of_not_handling (by simp [stage])
    simp only [step, stage] at h
    cases h
    exact .down rfl shut rfl
  | down stage =>
    obtain ⟨m, h⟩ := hworks.step_of_not_handling (by simp [stage])
    simp [step, stage] at h

theorem Falls.outside (h : a.Falls) (hout : a.Outside b) : b.Falls := by
  have hstage := hout.leaves.stage
  have grows := hout.grows
  cases h with
  | commands stage => exact .commands (hstage.trans stage)
  | replies stage shut => exact .replies (hstage.trans stage) (grows.commands shut)
  | down stage commands replies =>
    exact .down (hstage.trans stage) (grows.commands commands) (grows.replies replies)

theorem writeCommand_of_shut (h : s.transport.commands.isShutDown = true) (command : Command) :
    s.writeCommand command = .failed .shutDown := by
  simp [writeCommand, MessageQueue.write, h]

theorem readReply_of_shut (h : s.transport.replies.isShutDown = true) : s.readReply = .failed .shutDown := by
  simp [readReply, MessageQueue.read, h]

end Stream

namespace Inbox

variable {σ τ : Inbox} {reason : String}

/-- What a worker that gives up, or has given up, says of a queue is true of the queues. -/
structure Failing (σ : Inbox) : Prop where
  about : ∀ reason, σ.stream.stage = .reporting reason → σ.stream.Lost reason
  told : ∀ reason, .queueFailure reason ∈ σ.errors → σ.stream.Lost reason ∧ σ.stream.Falls

theorem failing_opened (t : Transport) (direction : Direction) (cookie : Int32)
    (microphones : List (Device × String)) :
    Failing ⟨Stream.opened direction t cookie microphones, []⟩ where
  about reason hs := by cases hs
  told reason he := by
    rw [errors_eq] at he
    cases he

/-- What is told of a queue now has been told before, or the worker gives up in this step. -/
theorem queueFailure_of_works {a b : Stream} {seen : List StreamError} (h : a.Works b)
    (he : .queueFailure reason ∈ errors ⟨b, seen⟩) :
    .queueFailure reason ∈ errors ⟨a, seen⟩ ∨
      a.stage = .reporting reason ∧ b.stage = .closingCommands := by
  rw [errors_work h, List.mem_append] at he
  refine he.imp_right fun hnew => ?_
  cases Stream.tells_of_works h with
  | nothing same =>
    rw [Stream.news, same, List.drop_length] at hnew
    cases hnew
  | refusal n e _ _ _ told | driver reason' _ _ told =>
    rcases Stream.news_of_report told with hnews | hnews <;> rw [hnews] at hnew
    · cases List.mem_singleton.mp hnew
    · cases hnew
  | queue reason' before after told =>
    rcases Stream.news_of_report told with hnews | hnews <;> rw [hnews] at hnew
    · cases List.mem_singleton.mp hnew
      exact ⟨before, after⟩
    · cases hnew

theorem Failing.step (h : Failing σ) (hstep : Step σ τ) : Failing τ := by
  cases hstep with
  | work hw =>
    refine ⟨fun reason hb => Stream.lost_of_works hw hb, fun reason he => ?_⟩
    have grows := hw.skeleton.grows
    obtain hold | ⟨before, after⟩ := queueFailure_of_works hw he
    · exact ⟨(h.told reason hold).1.grows grows, (h.told reason hold).2.works hw⟩
    · exact ⟨(h.about reason before).grows grows, .commands after⟩
  | outside ho =>
    refine ⟨fun reason hb => (h.about reason (ho.leaves.stage ▸ hb)).grows ho.grows, fun reason he => ?_⟩
    rw [errors_outside ho] at he
    exact ⟨(h.told reason he).1.grows ho.grows, (h.told reason he).2.outside ho⟩

theorem Failing.reaches (h : Failing σ) (hreach : ReflTransGen Step σ τ) : Failing τ := by
  induction hreach with
  | refl => exact h
  | tail _ hstep ih => exact ih.step hstep

/-- The client keeps what it has seen. -/
theorem mem_seen_of_reaches {e : StreamError} (he : e ∈ σ.seen) (hreach : ReflTransGen Step σ τ) :
    e ∈ τ.seen := by
  induction hreach with
  | refl => exact he
  | tail _ hstep ih =>
    cases hstep with
    | work => exact ih
    | outside => exact List.mem_append_left _ ih

/-- Once the client has seen a queue fail, the queue that the reason names is down, and calls on it fail. The
worker is on its way to shut both queues down, the commands first, or has done so, and it waits for nobody:
when it has stopped, no command can be written and no reply be read. -/
theorem falls_of_seen (direction : Direction) (t : Transport) (cookie : Int32)
    (microphones : List (Device × String))
    (hreach : ReflTransGen Step ⟨Stream.opened direction t cookie microphones, []⟩ σ)
    (hseen : .queueFailure reason ∈ σ.seen) (hlater : ReflTransGen Step σ τ) :
    ((reason = "reading of command from queue failed: " ++ QueueError.shutDown.message ∧
        ∀ command, τ.stream.writeCommand command = .failed .shutDown) ∨
      ∃ reply : Reply,
        reason = "writing of reply " ++ reply.text ++ " to queue failed: " ++ QueueError.shutDown.message ∧
        τ.stream.readReply = .failed .shutDown) ∧
    ((τ.stream.stage = .closingCommands ∧
        ∀ m, ∃ b, τ.stream.step m = some b ∧ b.stage = .closingReplies) ∨
      (τ.stream.stage = .closingReplies ∧ (∀ m, ∃ b, τ.stream.step m = some b ∧ b.stage = .stopped) ∧
        ∀ command, τ.stream.writeCommand command = .failed .shutDown) ∨
      (τ.stream.stage = .stopped ∧ (∀ command, τ.stream.writeCommand command = .failed .shutDown) ∧
        τ.stream.readReply = .failed .shutDown)) := by
  have failing := (failing_opened t direction cookie microphones).reaches (hreach.trans hlater)
  have htold : .queueFailure reason ∈ τ.errors := by
    rw [errors_eq]
    exact List.mem_append_left _ (mem_seen_of_reaches hseen hlater)
  obtain ⟨lost, falls⟩ := failing.told reason htold
  constructor
  · cases lost with
    | commands shut => exact .inl ⟨rfl, Stream.writeCommand_of_shut shut⟩
    | replies reply shut => exact .inr ⟨reply, rfl, Stream.readReply_of_shut shut⟩
  · cases falls with
    | commands stage => exact .inl ⟨stage, fun m => ⟨_, by rw [Stream.step, stage], rfl⟩⟩
    | replies stage shut =>
      exact .inr (.inl ⟨stage, fun m => ⟨_, by rw [Stream.step, stage], rfl⟩,
        Stream.writeCommand_of_shut shut⟩)
    | down stage commands replies =>
      exact .inr (.inr ⟨stage, Stream.writeCommand_of_shut commands, Stream.readReply_of_shut replies⟩)

/-! ## Between the report and the end -/

/-- The worker has told why it gives up, and the client has looked at once. -/
def told (s : Stream) (reason : String) : Inbox :=
  ⟨{ s.abort reason with stage := .closingCommands }, [.queueFailure reason]⟩

theorem work_of_step {a b : Stream} {seen : List StreamError} (h : a.step { now := 0 } = some b) :
    Step ⟨a, seen⟩ ⟨b, seen⟩ :=
  .work (.step _ h)

theorem reaches_told {s : Stream} (hnone : s.reports = []) (reason : String) :
    ReflTransGen Step ⟨s.abort reason, []⟩ (told s reason) := by
  let reported : Stream := { s.abort reason with
    stage := .closingCommands, reports := [.queueFailure reason] }
  have hstep : (s.abort reason).step { now := 0 } = some reported := by
    simp [Stream.step, Stream.abort, Stream.report, hnone, Stream.reportCapacity, reported]
  have hlook : reported.checkErrors.2 = (told s reason).stream := by
    simp [Stream.checkErrors, told, Stream.abort, reported, hnone]
  have looked : Step ⟨reported, []⟩ ⟨reported.checkErrors.2, [.queueFailure reason]⟩ :=
    .outside (.stir .checkErrors)
  rw [hlook] at looked
  exact (ReflTransGen.single (work_of_step hstep)).tail looked

/-- The answer to a client that asks before it does anything else. -/
def standing : Reply := { status := .ok }

/-- The reply queue is shut down before a command is answered. -/
def muted : Stream := (Stream.opened .input .small 7 []).shutdown .reply

def unanswered : String :=
  "writing of reply " ++ standing.text ++ " to queue failed: " ++ QueueError.shutDown.message

theorem reaches_muted :
    ReflTransGen Step ⟨Stream.opened .input .small 7 [], []⟩ (told muted unanswered) := by
  have start : ReflTransGen Step ⟨Stream.opened .input .small 7 [], []⟩
      ⟨Stream.opened .input .small 7 [], []⟩ := .refl
  have posted := (start.tail (step_of_reports_eq (.shutdown .reply) rfl)).tail
    (step_of_reports_eq (.writeCommand .getStatus rfl) rfl)
  have sampling := ((posted.tail (work_of_step rfl)).tail (work_of_step rfl)).tail (work_of_step rfl)
  have failed : ReflTransGen Step ⟨Stream.opened .input .small 7 [], []⟩ ⟨muted.abort unanswered, []⟩ :=
    (sampling.tail (work_of_step rfl)).tail (work_of_step rfl)
  exact failed.trans (reaches_told rfl _)

/-- A client that has seen the worker fail to answer gets no reply from then on, and two steps later it can
write no command either. -/
theorem falls_of_seen_muted :
    ReflTransGen Step ⟨Stream.opened .input .small 7 [], []⟩ (told muted unanswered) ∧
      (told muted unanswered).stream.readReply = .failed .shutDown ∧
      ∃ τ, ReflTransGen Step (told muted unanswered) τ ∧ τ.stream.stage = .stopped ∧
        ∀ command, τ.stream.writeCommand command = .failed .shutDown := by
  have hseen : .queueFailure unanswered ∈ (told muted unanswered).seen := List.mem_singleton_self _
  refine ⟨reaches_muted, ?_, ?_⟩
  · obtain ⟨⟨hreason, -⟩ | ⟨-, -, hread⟩, -⟩ := falls_of_seen _ _ _ _ reaches_muted hseen .refl
    · exact absurd hreason (by decide)
    · exact hread
  · let down : Stream := ((told muted unanswered).stream.shutdown .command).shutdown .reply
    have hlater : ReflTransGen Step (told muted unanswered)
        ⟨{ down with stage := .stopped }, [.queueFailure unanswered]⟩ :=
      (ReflTransGen.single (work_of_step rfl)).tail (work_of_step rfl)
    obtain ⟨-, ⟨hstage, -⟩ | ⟨hstage, -⟩ | ⟨hstage, hwrite, -⟩⟩ :=
      falls_of_seen _ _ _ _ reaches_muted hseen hlater
    · cases hstage
    · cases hstage
    · exact ⟨_, hlater, hstage, hwrite⟩

theorem length_standing : [standing].length ≤ (MessageQueue.single : MessageQueue Reply).capacity :=
  Nat.le_refl 1

def unreadReplies : MessageQueue Reply :=
  { MessageQueue.single with items := [standing], length_le := length_standing }

/-- The command queue is shut down while a reply lies in the other. -/
def unread : Stream :=
  { Stream.opened .input .small 7 [] with
    transport := { Transport.small with replies := unreadReplies } }.shutdown .command

def unheard : String := "reading of command from queue failed: " ++ QueueError.shutDown.message

theorem reaches_unread :
    ReflTransGen Step ⟨Stream.opened .input .small 7 [], []⟩ (told unread unheard) := by
  have start : ReflTransGen Step ⟨Stream.opened .input .small 7 [], []⟩
      ⟨Stream.opened .input .small 7 [], []⟩ := .refl
  have posted := start.tail (step_of_reports_eq (.writeCommand .getStatus rfl) rfl)
  have sampling := ((posted.tail (work_of_step rfl)).tail (work_of_step rfl)).tail (work_of_step rfl)
  have answered := (sampling.tail (work_of_step rfl)).tail (work_of_step rfl)
  have shut := answered.tail (step_of_reports_eq (.shutdown .command) rfl)
  have failed : ReflTransGen Step ⟨Stream.opened .input .small 7 [], []⟩ ⟨unread.abort unheard, []⟩ :=
    ((shut.tail (work_of_step rfl)).tail (work_of_step rfl)).tail (work_of_step rfl)
  exact failed.trans (reaches_told rfl _)

/-- The queue that has not failed is still open when the client sees that the other has: a command can be
written after the worker failed to answer, and a reply can be read after it failed to hear. -/
theorem exists_open_after_failure :
    (∃ σ reason b, ReflTransGen Step ⟨Stream.opened .input .small 7 [], []⟩ σ ∧
      .queueFailure reason ∈ σ.seen ∧ σ.stream.writeCommand .start = .done b) ∧
    ∃ σ reason reply b, ReflTransGen Step ⟨Stream.opened .input .small 7 [], []⟩ σ ∧
      .queueFailure reason ∈ σ.seen ∧ σ.stream.readReply = .done (reply, b) :=
  ⟨⟨_, _, _, reaches_muted, List.mem_singleton_self _, rfl⟩,
    ⟨_, _, _, _, reaches_unread, List.mem_singleton_self _, rfl⟩⟩

end Inbox

end AudioStream
