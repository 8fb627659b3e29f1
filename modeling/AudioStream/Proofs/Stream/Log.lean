import AudioStream.Proofs.Stream.Skeleton

/-!
# What has passed through the queues

A log keeps what the queues themselves forget: all commands that were written, with the one who wrote
each of them, how many of them the worker has taken, and the replies that it wrote. A reply is entered
with the number of the command that the worker has taken last. Everything is read off two skeletons, so
a log sees what happens and does not take part in it.

`Log.Fits` is the invariant that ties a log to a skeleton: the worker answers the commands in their
order, each of them once.
-/

namespace AudioStream

/-- A reply that was written, with the number of the command and the command itself. -/
structure Answer where
  index : Nat
  command : Command
  reply : Reply

structure Log where
  /-- The commands that were written, each with the number of the send that it came from, if any. -/
  posted : List (Option Nat × Command) := []
  taken : Nat := 0
  answered : List Answer := []

namespace Log

/-- Sees what someone does, maybe in a send. -/
def observe (log : Log) (k k' : Skeleton) (sender : Option Nat) : Log where
  posted := log.posted ++
    (k'.commands.items.drop k.commands.items.length).map fun command => (sender, command)
  taken := log.taken + (k.commands.items.length - k'.commands.items.length)
  answered := log.answered ++
    match k.duty with
    | .answering command _ =>
      (k'.replies.items.drop k.replies.items.length).map fun reply => ⟨log.taken - 1, command, reply⟩
    | _ => []

variable {log : Log} {k k' : Skeleton} {sender : Option Nat} {command : Command} {reply : Reply}

theorem observe_of_replies_le (h : k'.replies.items.length ≤ k.replies.items.length) :
    (log.observe k k' sender).answered = log.answered := by
  unfold observe
  dsimp only
  split <;> simp [List.drop_eq_nil_of_le h]

/-- Nothing is seen when the queues keep their messages, or only a reply is taken. -/
theorem observe_same (hc : k'.commands.items = k.commands.items)
    (hr : k'.replies.items.length ≤ k.replies.items.length) : log.observe k k' sender = log := by
  have hanswered : (log.observe k k' sender).answered = log.answered := observe_of_replies_le hr
  cases log
  simp_all [observe]

theorem observe_take (hc : k.commands.items = command :: k'.commands.items)
    (hr : k'.replies.items = k.replies.items) :
    log.observe k k' sender = { log with taken := log.taken + 1 } := by
  have hanswered : (log.observe k k' sender).answered = log.answered :=
    observe_of_replies_le (Nat.le_of_eq (congrArg List.length hr))
  cases log
  simp_all [observe]

theorem observe_post (hc : k'.commands.items = k.commands.items ++ [command])
    (hr : k'.replies.items = k.replies.items) :
    log.observe k k' sender = { log with posted := log.posted ++ [(sender, command)] } := by
  have hanswered : (log.observe k k' sender).answered = log.answered :=
    observe_of_replies_le (Nat.le_of_eq (congrArg List.length hr))
  cases log
  simp_all [observe]

theorem observe_answer {r : Reply} (hd : k.duty = .answering command r)
    (hc : k'.commands.items = k.commands.items) (hr : k'.replies.items = k.replies.items ++ [reply]) :
    log.observe k k' sender =
      { log with answered := log.answered ++ [⟨log.taken - 1, command, reply⟩] } := by
  cases log
  simp_all [observe]

/-! ## The worker -/

/-- The worker has taken a command that is not answered yet. -/
def Holds (log : Log) (command : Command) : Prop :=
  log.taken = log.answered.length + 1 ∧
    (log.posted[log.answered.length]?).map Prod.snd = some command

/-- What a log says of a worker that is about something. One that gives up or ends answers no more. -/
def FitsDuty (log : Log) (cookie : Int32) : Duty → Prop
  | .listening => log.taken = log.answered.length
  | .holding command => log.Holds command
  | .carrying command | .answering command _ => log.Holds command ∧ command ≠ .exit cookie
  | .failing | .muting | .leaving | .stopped => True

structure Fits (k : Skeleton) (log : Log) : Prop where
  taken_le : log.taken ≤ log.posted.length
  /-- The commands that have not been taken are in the queue, in their order. -/
  items : k.commands.items = (log.posted.drop log.taken).map Prod.snd
  duty : log.FitsDuty k.cookie k.duty
  /-- The worker answers the commands in their order, and never the exit command. -/
  answered : ∀ (i : Nat) (a : Answer), log.answered[i]? = some a → a.index = i ∧
    (log.posted[i]?).map Prod.snd = some a.command ∧ a.command ≠ .exit k.cookie

/-- What changes neither the commands nor the worker leaves the log fitting. -/
theorem Fits.congr (fits : log.Fits k) (items : k'.commands.items = k.commands.items)
    (duty : k'.duty = k.duty) (cookie : k'.cookie = k.cookie) : log.Fits k' := by
  obtain ⟨htaken, hitems, hduty, hanswered⟩ := fits
  exact ⟨htaken, items.trans hitems, by rwa [duty, cookie], by rwa [cookie]⟩

theorem fits_observe_same (hc : k'.commands.items = k.commands.items)
    (hr : k'.replies.items.length ≤ k.replies.items.length) (fits : log.Fits k') :
    (log.observe k k' sender).Fits k' := by
  rwa [observe_same hc hr]

theorem fits_of_works (h : k.Works k') (fits : log.Fits k) :
    (log.observe k k' none).Fits k' := by
  obtain ⟨htaken_le, hitems, hduty, hanswered⟩ := fits
  cases h with
  | stay => exact fits_observe_same rfl (Nat.le_refl _) ⟨htaken_le, hitems, hduty, hanswered⟩
  | @take command queue duty read =>
    obtain ⟨-, hqueue, -⟩ := MessageQueue.of_read_eq_done read
    have hlog : log.observe k { k with duty := .holding command, commands := queue } none =
        { log with taken := log.taken + 1 } := observe_take hqueue rfl
    rw [hlog]
    rw [duty] at hduty
    have htaken : log.taken = log.answered.length := hduty
    have hdrop : (log.posted.drop log.taken).map Prod.snd = command :: queue.items :=
      hitems.symm.trans hqueue
    have hlt : log.taken < log.posted.length := by
      have hlength := congrArg List.length hdrop
      simp at hlength
      omega
    refine ⟨hlt, ?_, ⟨congrArg (· + 1) htaken, ?_⟩, hanswered⟩
    · simpa [List.drop_drop] using (congrArg List.tail hdrop).symm
    · have hhead := congrArg List.head? hdrop
      rw [← htaken]
      simpa using hhead
  | leave => exact fits_observe_same rfl (Nat.le_refl _) ⟨htaken_le, hitems, trivial, hanswered⟩
  | carry duty other | reply duty other =>
    rw [duty] at hduty
    exact fits_observe_same rfl (Nat.le_refl _) ⟨htaken_le, hitems, ⟨hduty, other⟩, hanswered⟩
  | finish duty =>
    rw [duty] at hduty
    exact fits_observe_same rfl (Nat.le_refl _) ⟨htaken_le, hitems, hduty, hanswered⟩
  | @write command reply queue duty write =>
    obtain ⟨-, hqueue, -⟩ := MessageQueue.of_write_eq_done write
    have hlog : log.observe k { k with duty := .listening, replies := queue } none =
        { log with answered := log.answered ++ [⟨log.taken - 1, command, reply⟩] } :=
      observe_answer duty rfl hqueue
    rw [hlog]
    rw [duty] at hduty
    obtain ⟨⟨htaken, hposted⟩, hother⟩ := hduty
    refine ⟨htaken_le, hitems, by simpa [FitsDuty] using htaken, fun i a hi => ?_⟩
    rcases of_getElem?_append hi with hi | ⟨rfl, rfl⟩
    · exact hanswered i a hi
    · exact ⟨by simp [htaken], hposted, hother⟩
  | failToRead | failToWrite | stop | shutCommands | shutReplies =>
    exact fits_observe_same rfl (Nat.le_refl _) ⟨htaken_le, hitems, trivial, hanswered⟩

/-! ## Posting -/

/-- A command that was posted keeps its number. -/
theorem posted_append {posted : List (Option Nat × Command)} {i : Nat} {c : Command}
    (h : (posted[i]?).map Prod.snd = some c) (p : Option Nat × Command) :
    ((posted ++ [p])[i]?).map Prod.snd = some c := by
  obtain ⟨q, hq, rfl⟩ := Option.map_eq_some_iff.mp h
  rw [getElem?_append_of_some hq]
  rfl

theorem fits_post (fits : log.Fits k) (items : k'.commands.items = k.commands.items ++ [command])
    (duty : k'.duty = k.duty) (cookie : k'.cookie = k.cookie) (sender : Option Nat) :
    Fits k' { log with posted := log.posted ++ [(sender, command)] } := by
  obtain ⟨htaken, hitems, hduty, hanswered⟩ := fits
  rw [← cookie] at hduty hanswered
  refine ⟨?_, ?_, ?_, ?_⟩
  · rw [List.length_append]
    exact Nat.le_add_right_of_le htaken
  · rw [items, hitems, List.drop_append_of_le_length htaken, List.map_append]
    rfl
  · rw [duty]
    cases hd : k.duty with
    | holding c =>
      rw [hd] at hduty
      exact ⟨hduty.1, posted_append hduty.2 _⟩
    | carrying c | answering c reply =>
      rw [hd] at hduty
      exact ⟨⟨hduty.1.1, posted_append hduty.1.2 _⟩, hduty.2⟩
    | listening =>
      rw [hd] at hduty
      exact hduty
    | failing | muting | leaving | stopped => trivial
  · intro i a hi
    obtain ⟨hindex, hposted, hother⟩ := hanswered i a hi
    exact ⟨hindex, posted_append hposted _, hother⟩

/-! ## What is seen of each step -/

/-- A worker posts nothing, and enters at most one reply. -/
theorem observe_of_works (log : Log) (h : k.Works k') :
    (log.observe k k' none).posted = log.posted ∧
    ((k'.replies.items = k.replies.items ∧
        (log.observe k k' none).answered = log.answered) ∨
      ∃ c r, k.duty = .answering c r ∧ k'.replies.items = k.replies.items ++ [r] ∧
        (log.observe k k' none).answered = log.answered ++ [⟨log.taken - 1, c, r⟩]) := by
  cases h with
  | @take command queue duty read =>
    obtain ⟨-, hqueue, -⟩ := MessageQueue.of_read_eq_done read
    have hlog : log.observe k { k with duty := .holding command, commands := queue } none =
        { log with taken := log.taken + 1 } := observe_take hqueue rfl
    rw [hlog]
    exact ⟨rfl, .inl ⟨rfl, rfl⟩⟩
  | @write command reply queue duty write =>
    obtain ⟨-, hqueue, -⟩ := MessageQueue.of_write_eq_done write
    have hlog : log.observe k { k with duty := .listening, replies := queue } none =
        { log with answered := log.answered ++ [⟨log.taken - 1, command, reply⟩] } :=
      observe_answer duty rfl hqueue
    rw [hlog]
    exact ⟨rfl, .inr ⟨command, reply, duty, hqueue, rfl⟩⟩
  | _ =>
    rw [observe_same]
    · exact ⟨rfl, .inl ⟨rfl, rfl⟩⟩
    · rfl
    · exact Nat.le_refl _

/-- Someone who closes the stream posts at most the exit command. -/
theorem observe_of_closes (log : Log) {c c' : CloseStage} (h : Skeleton.Closes c k c' k') :
    k'.replies.items = k.replies.items ∧ k'.cookie = k.cookie ∧ k'.duty = k.duty ∧
    ((k'.commands.items = k.commands.items ∧ log.observe k k' none = log) ∨
      (k'.commands.items = k.commands.items ++ [.exit k.cookie] ∧
        log.observe k k' none = { log with posted := log.posted ++ [(none, .exit k.cookie)] })) := by
  cases h with
  | @dismiss _ queue write =>
    obtain ⟨-, hqueue, -⟩ := MessageQueue.of_write_eq_done write
    have hlog : log.observe k { k with commands := queue } none =
        { log with posted := log.posted ++ [(none, .exit k.cookie)] } := observe_post hqueue rfl
    exact ⟨rfl, rfl, rfl, .inr ⟨hqueue, hlog⟩⟩
  | _ =>
    refine ⟨rfl, rfl, rfl, .inl ⟨rfl, ?_⟩⟩
    rw [observe_same]
    · rfl
    · exact Nat.le_refl _

theorem fits_of_closes {c c' : CloseStage} (h : Skeleton.Closes c k c' k') (fits : log.Fits k) :
    (log.observe k k' none).Fits k' := by
  obtain ⟨-, hcookie, hduty, hsame | hpost⟩ := log.observe_of_closes h
  · rw [hsame.2]
    exact fits.congr hsame.1 hduty hcookie
  · rw [hpost.2]
    exact fits_post fits hpost.1 hduty hcookie none

end Log

end AudioStream
