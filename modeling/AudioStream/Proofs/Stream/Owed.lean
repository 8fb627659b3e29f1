import AudioStream.Proofs.Stream.Log
import AudioStream.Proofs.Stream.Outside

/-!
# Commands that wait for their replies

The commands that a worker has taken are those that it has answered, in the same order, and at most one
more. That one it is still at work on, or it is the exit command, or its reply could not be written. The
others have no part in this: they may add to the commands that were written, and take replies away.
-/

namespace AudioStream

namespace Log

variable (log : Log)

/-- The commands that were written, in their order. -/
def commands : List Command := log.posted.map Prod.snd

/-- The commands that the worker has taken, in their order. -/
def dequeued : List Command := log.commands.take log.taken

/-- The commands that the worker has answered, in the order of the replies. -/
def served : List Command := log.answered.map Answer.command

/-- The replies that the worker has written, in their order. -/
def replied : List Reply := log.answered.map Answer.reply

end Log

namespace Skeleton

/-- The command whose reply the worker has failed to write in a step. -/
def unwritten (k k' : Skeleton) : List Command :=
  match k.duty, k'.duty with
  | .answering command _, .failing => [command]
  | _, _ => []

/-- The replies that the client has taken in a step. -/
def received (k k' : Skeleton) : List Reply :=
  k.replies.items.take (k.replies.items.length - k'.replies.items.length)

/-- The worker has left its loop for good. -/
def Ended (k : Skeleton) : Prop :=
  k.duty = .failing ∨ k.duty = .muting ∨ k.duty = .leaving ∨ k.duty = .stopped

/-- The commands that the worker has taken and not answered. -/
inductive Owes (k : Skeleton) (lost : List Command) : List Command → Prop where
  | nothing (duty : k.duty ∈ [.listening, .failing, .muting, .stopped]) : Owes k lost []
  /-- The worker is still at work on the command. -/
  | atWork {command} (duty : k.duty = .holding command ∨ k.duty = .carrying command ∨
      ∃ reply, k.duty = .answering command reply) : Owes k lost [command]
  | exit (duty : k.duty ∈ [.leaving, .stopped]) : Owes k lost [.exit k.cookie]
  /-- The worker has given up because it could not write the reply. -/
  | lose {command} (mem : command ∈ lost) (duty : k.duty ∈ [.failing, .muting, .stopped]) :
      Owes k lost [command]

end Skeleton

/-! ## What the worker owes -/

namespace Log

variable {log : Log} {k k' : Skeleton} {lost lost' : List Command}

/-- The worker has answered the commands in their order, all but those that it owes a reply to. -/
def Owing (k : Skeleton) (log : Log) (lost : List Command) : Prop :=
  ∃ owed, k.Owes lost owed ∧ log.dequeued = log.served ++ owed

/-- The worker has answered the first commands that were written. -/
theorem Fits.served_eq (fits : log.Fits k) : log.served = log.commands.take log.answered.length := by
  apply List.ext_getElem?
  intro i
  rw [List.getElem?_take]
  split
  next hi =>
    obtain ⟨-, hposted, -⟩ := fits.answered i _ (List.getElem?_eq_getElem hi)
    simp only [served, commands, List.getElem?_map, hposted, List.getElem?_eq_getElem hi, Option.map_some]
  next hi => simp [served, Nat.not_lt.mp hi]

theorem Fits.dequeued_of_listening (fits : log.Fits k) (duty : k.duty = .listening) :
    log.dequeued = log.served := by
  have htaken := fits.duty
  rw [duty] at htaken
  rw [dequeued, fits.served_eq, htaken]

theorem Fits.dequeued_of_holds (fits : log.Fits k) {command : Command} (h : log.Holds command) :
    log.dequeued = log.served ++ [command] := by
  obtain ⟨htaken, hposted⟩ := h
  have hcommand : log.commands[log.answered.length]? = some command := by
    rw [commands, List.getElem?_map, hposted]
  rw [dequeued, fits.served_eq, htaken, List.take_add_one, hcommand]
  rfl

/-- Between commands a worker owes nothing. -/
theorem Fits.owing_of_listening (fits : log.Fits k) (duty : k.duty = .listening) :
    log.Owing k lost :=
  ⟨[], .nothing (by simp [duty]), by rw [fits.dequeued_of_listening duty, List.append_nil]⟩

/-- A worker that is at work owes the command in its hands. -/
theorem Fits.owing_of_holds (fits : log.Fits k) {command : Command} (h : log.Holds command)
    (duty : k.duty = .holding command ∨ k.duty = .carrying command ∨
      ∃ reply, k.duty = .answering command reply) : log.Owing k lost :=
  ⟨[command], .atWork duty, fits.dequeued_of_holds h⟩

theorem Owing.congr (h : log.Owing k lost) (cookie : k'.cookie = k.cookie)
    (sub : ∀ command ∈ lost, command ∈ lost')
    (duty : k'.duty = k.duty ∨ k.duty = .failing ∧ k'.duty = .muting ∨
      k.duty = .muting ∧ k'.duty = .stopped ∨ k.duty = .leaving ∧ k'.duty = .stopped) :
    log.Owing k' lost' := by
  obtain ⟨owed, howes, hdequeued⟩ := h
  refine ⟨owed, ?_, hdequeued⟩
  cases howes with
  | nothing hduty => exact .nothing (by rcases duty with h | h | h | h <;> simp_all)
  | atWork hduty => exact .atWork (by rcases duty with h | h | h | h <;> simp_all)
  | exit hduty =>
    rw [← cookie]
    exact .exit (by rcases duty with h | h | h | h <;> simp_all)
  | lose hmem hduty => exact .lose (sub _ hmem) (by rcases duty with h | h | h | h <;> simp_all)

theorem owing_observe_same (hc : k'.commands.items = k.commands.items)
    (hr : k'.replies.items.length ≤ k.replies.items.length) (h : log.Owing k' lost) :
    (log.observe k k' none).Owing k' lost := by
  rwa [observe_same hc hr]

theorem owing_of_works (h : k.Works k') (fits : log.Fits k) (howing : log.Owing k lost) :
    (log.observe k k' none).Owing k' (lost ++ k.unwritten k') := by
  have hfits := fits_of_works h fits
  have hsub : ∀ command ∈ lost, command ∈ lost ++ k.unwritten k' :=
    fun _ hmem => List.mem_append_left _ hmem
  have hduty := fits.duty
  cases h with
  | stay =>
    refine owing_observe_same rfl (Nat.le_refl _) ?_
    exact howing.congr rfl hsub (.inl rfl)
  | @take command queue duty read => exact hfits.owing_of_holds hfits.duty (.inl rfl)
  | leave duty =>
    rw [duty] at hduty
    refine owing_observe_same rfl (Nat.le_refl _) ?_
    exact ⟨_, .exit (by simp), fits.dequeued_of_holds hduty⟩
  | carry duty other => exact hfits.owing_of_holds hfits.duty.1 (.inr (.inl rfl))
  | reply duty other => exact hfits.owing_of_holds hfits.duty.1 (.inr (.inr ⟨_, rfl⟩))
  | finish duty => exact hfits.owing_of_holds hfits.duty.1 (.inr (.inr ⟨_, rfl⟩))
  | write duty write => exact hfits.owing_of_listening rfl
  | failToRead duty shut =>
    refine owing_observe_same rfl (Nat.le_refl _) ?_
    exact ⟨[], .nothing (by simp), by rw [fits.dequeued_of_listening duty, List.append_nil]⟩
  | @failToWrite command reply duty shut =>
    rw [duty] at hduty
    refine owing_observe_same rfl (Nat.le_refl _) ?_
    refine ⟨[command], .lose (List.mem_append_right _ ?_) (by simp), fits.dequeued_of_holds hduty.1⟩
    simp [Skeleton.unwritten, duty]
  | shutCommands duty =>
    refine owing_observe_same rfl (Nat.le_refl _) ?_
    exact howing.congr rfl hsub (.inr (.inl ⟨duty, rfl⟩))
  | shutReplies duty =>
    refine owing_observe_same rfl (Nat.le_refl _) ?_
    exact howing.congr rfl hsub (.inr (.inr (.inl ⟨duty, rfl⟩)))
  | stop duty =>
    refine owing_observe_same rfl (Nat.le_refl _) ?_
    exact howing.congr rfl hsub (.inr (.inr (.inr ⟨duty, rfl⟩)))

/-! ## What the others do -/

theorem dequeued_post (htaken : log.taken ≤ log.posted.length) (sender : Option Nat) (command : Command) :
    dequeued { log with posted := log.posted ++ [(sender, command)] } = log.dequeued := by
  simp only [dequeued, commands, List.map_append]
  exact List.take_append_of_le_length (by rwa [List.length_map])

/-- What the others do is seen as a command that was written, or not at all. -/
theorem observe_of_trades (log : Log) (h : k.Trades k') :
    (k'.commands.items = k.commands.items ∧ log.observe k k' none = log) ∨
      ∃ command, k'.commands.items = k.commands.items ++ [command] ∧
        log.observe k k' none = { log with posted := log.posted ++ [(none, command)] } := by
  cases h with
  | keep hcommands hreplies =>
    exact .inl ⟨hcommands, observe_same hcommands (Nat.le_of_eq (congrArg List.length hreplies))⟩
  | post command hcommands hreplies => exact .inr ⟨command, hcommands, observe_post hcommands hreplies⟩
  | receive reply hcommands hreplies =>
    refine .inl ⟨hcommands, observe_same hcommands ?_⟩
    rw [hreplies]
    exact Nat.le_succ _

end Log

namespace Skeleton

variable {k k' : Skeleton}

theorem received_of_le (h : k.replies.items.length ≤ k'.replies.items.length) : k.received k' = [] := by
  rw [received, Nat.sub_eq_zero_of_le h, List.take_zero]

/-- What the others do takes replies from the front of the queue. -/
theorem Trades.received_append (h : k.Trades k') :
    k.received k' ++ k'.replies.items = k.replies.items := by
  cases h with
  | keep _ hreplies | post _ _ hreplies =>
    rw [received_of_le (Nat.le_of_eq (congrArg List.length hreplies.symm)), hreplies, List.nil_append]
  | receive reply _ hreplies => simp [received, hreplies]

end Skeleton

end AudioStream
