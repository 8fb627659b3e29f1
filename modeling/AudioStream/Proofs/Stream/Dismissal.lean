import AudioStream.Proofs.Stream.Outside

/-!
# Dismissing a worker

What a closer has done so far stays done, whatever the worker and the client do: this is
`Skeleton.Grows`, and `Skeleton.Allows` says what each place in closing relies on. Before the exit command
has been written, or the command queue has been found shut down, the worker has not heard of it
(`Skeleton.Quiet`), so it is alive or has shut the command queue down.
-/

namespace AudioStream

namespace CloseStage

/-- Whether a closer came first. -/
def leads : CloseStage → Bool
  | arriving | refused | done (.error _) => false
  | _ => true

def hasDismissed : CloseStage → Bool
  | arriving | refused | silencing | dismissing | done (.error _) => false
  | _ => true

theorem leads_of_hasDismissed {c : CloseStage} (h : c.hasDismissed = true) : c.leads = true := by
  cases c with
  | done result => cases result <;> simp_all [hasDismissed, leads]
  | _ => simp_all [hasDismissed, leads]

end CloseStage

namespace Skeleton

variable {k k' : Skeleton} {c c' : CloseStage}

/-- The worker is going to stop. -/
def Dismissed (k : Skeleton) : Prop :=
  k.commands.isShutDown = true ∨ Command.exit k.cookie ∈ k.commands.items ∨
    k.duty = .holding (.exit k.cookie) ∨ k.duty = .leaving ∨ k.duty = .stopped

/-- The exit command has not been written yet. -/
structure Quiet (k : Skeleton) : Prop where
  items : Command.exit k.cookie ∉ k.commands.items
  holding : k.duty ≠ .holding (.exit k.cookie)
  leaving : k.duty ≠ .leaving
  muting : k.duty = .muting → k.commands.isShutDown = true
  stopped : k.duty = .stopped → k.commands.isShutDown = true

/-- What stays as it is for good. -/
structure Grows (k k' : Skeleton) : Prop where
  cookie : k'.cookie = k.cookie
  commands : k.commands.isShutDown = true → k'.commands.isShutDown = true
  replies : k.replies.isShutDown = true → k'.replies.isShutDown = true
  closed : k.closed = true → k'.closed = true
  taken : k.taken = true → k'.taken = true
  released : k.released = true → k'.released = true
  stopped : k.duty = .stopped → k'.duty = .stopped
  dismissed : k.Dismissed → k'.Dismissed

theorem Grows.refl (k : Skeleton) : k.Grows k := ⟨rfl, id, id, id, id, id, id, id⟩

theorem Grows.trans {k'' : Skeleton} (h : k.Grows k') (h' : k'.Grows k'') : k.Grows k'' where
  cookie := h'.cookie.trans h.cookie
  commands := h'.commands ∘ h.commands
  replies := h'.replies ∘ h.replies
  closed := h'.closed ∘ h.closed
  taken := h'.taken ∘ h.taken
  released := h'.released ∘ h.released
  stopped := h'.stopped ∘ h.stopped
  dismissed := h'.dismissed ∘ h.dismissed

/-! ## The worker -/

/-- A worker that is busy with something else goes on: queues only get shut down, and what is in the
command queue stays there. -/
theorem Grows.of_busy (holding : k.duty ≠ .holding (.exit k.cookie)) (leaving : k.duty ≠ .leaving)
    (stopped : k.duty ≠ .stopped) (next : Duty) {commands : MessageQueue Command}
    {replies : MessageQueue Reply}
    (hcommands : k.commands.isShutDown = true → commands.isShutDown = true)
    (hreplies : k.replies.isShutDown = true → replies.isShutDown = true)
    (items : ∀ c ∈ k.commands.items, c ∈ commands.items) :
    k.Grows { k with duty := next, commands := commands, replies := replies } := by
  refine ⟨rfl, hcommands, hreplies, id, id, id, fun h => absurd h stopped, ?_⟩
  rintro (h | h | h | h | h)
  · exact .inl (hcommands h)
  · exact .inr (.inl (items _ h))
  · exact absurd h holding
  · exact absurd h leaving
  · exact absurd h stopped

theorem Works.grows (h : k.Works k') : k.Grows k' := by
  cases h with
  | stay => exact .refl k
  | take duty read =>
    obtain ⟨hshut, hitems, -⟩ := MessageQueue.of_read_eq_done read
    refine ⟨rfl, by simp [hshut], id, id, id, id, by simp [duty], ?_⟩
    rintro (h | h | h | h | h)
    · simp [hshut] at h
    · rw [hitems] at h
      rcases List.mem_cons.mp h with rfl | h
      · exact .inr (.inr (.inl rfl))
      · exact .inr (.inl h)
    all_goals simp [duty] at h
  | leave duty =>
    exact ⟨rfl, id, id, fun _ => rfl, id, id, by simp [duty],
      fun _ => .inr (.inr (.inr (.inl rfl)))⟩
  | carry duty other | reply duty other =>
    exact .of_busy (by simp [duty, other]) (by simp [duty]) (by simp [duty]) _ id id fun _ => id
  | finish duty | failToRead duty | failToWrite duty =>
    exact .of_busy (by simp [duty]) (by simp [duty]) (by simp [duty]) _ id id fun _ => id
  | write duty write =>
    obtain ⟨hshut, -, -⟩ := MessageQueue.of_write_eq_done write
    exact .of_busy (by simp [duty]) (by simp [duty]) (by simp [duty]) _ id (by simp [hshut])
      fun _ => id
  | shutCommands duty =>
    exact .of_busy (by simp [duty]) (by simp [duty]) (by simp [duty]) _ (fun _ => rfl) id fun _ => id
  | shutReplies duty =>
    exact .of_busy (by simp [duty]) (by simp [duty]) (by simp [duty]) _ id (fun _ => rfl) fun _ => id
  | stop duty =>
    exact ⟨rfl, id, id, id, id, id, fun _ => rfl, fun _ => .inr (.inr (.inr (.inr rfl)))⟩

/-- A worker that has not heard of the exit command does not hear of it by itself. -/
theorem Works.quiet (h : k.Works k') (quiet : k.Quiet) : k'.Quiet := by
  cases h with
  | stay => exact quiet
  | take duty read =>
    obtain ⟨-, hitems, -⟩ := MessageQueue.of_read_eq_done read
    have hexit := quiet.items
    rw [hitems, List.mem_cons, not_or] at hexit
    exact ⟨hexit.2, fun h => hexit.1 (Duty.holding.inj h).symm, by simp, by simp, by simp⟩
  | leave duty => exact absurd duty quiet.holding
  | carry | reply | finish | write | failToRead | failToWrite =>
    exact ⟨quiet.items, by simp, by simp, by simp, by simp⟩
  | shutCommands => exact ⟨quiet.items, by simp, by simp, fun _ => rfl, fun _ => rfl⟩
  | shutReplies duty =>
    exact ⟨quiet.items, by simp, by simp, by simp, fun _ => quiet.muting duty⟩
  | stop duty => exact absurd duty quiet.leaving

/-! ## The client -/

theorem grows_of_writeCommand {command : Command} {queue : MessageQueue Command}
    (h : k.commands.write command = .done queue) : k.Grows { k with commands := queue } := by
  obtain ⟨hshut, hitems, -⟩ := MessageQueue.of_write_eq_done h
  refine ⟨rfl, by simp [hshut], id, id, id, id, id, ?_⟩
  rintro (h | h | h)
  · simp [hshut] at h
  · exact .inr (.inl (hitems ▸ List.mem_append_left _ h))
  · exact .inr (.inr h)

theorem quiet_of_writeCommand {command : Command} {queue : MessageQueue Command}
    (other : command ≠ .exit k.cookie) (h : k.commands.write command = .done queue)
    (quiet : k.Quiet) : Quiet { k with commands := queue } := by
  obtain ⟨hshut, hitems, -⟩ := MessageQueue.of_write_eq_done h
  refine ⟨?_, quiet.holding, quiet.leaving, ?_, ?_⟩
  · rw [hitems, List.mem_append, List.mem_singleton]
    rintro (h | h)
    · exact quiet.items h
    · exact other h.symm
  · exact fun h => absurd (quiet.muting h) (by simp [hshut])
  · exact fun h => absurd (quiet.stopped h) (by simp [hshut])

theorem grows_of_replies {queue : MessageQueue Reply}
    (h : k.replies.isShutDown = true → queue.isShutDown = true) :
    k.Grows { k with replies := queue } :=
  ⟨rfl, id, h, id, id, id, id, id⟩

theorem quiet_of_replies (queue : MessageQueue Reply) (quiet : k.Quiet) :
    Quiet { k with replies := queue } :=
  ⟨quiet.items, quiet.holding, quiet.leaving, quiet.muting, quiet.stopped⟩

theorem grows_of_shutdownCommands (k : Skeleton) :
    k.Grows { k with commands := k.commands.shutdown } :=
  ⟨rfl, fun _ => rfl, id, id, id, id, id, fun _ => .inl rfl⟩

theorem quiet_of_shutdownCommands (quiet : k.Quiet) :
    Quiet { k with commands := k.commands.shutdown } :=
  ⟨quiet.items, quiet.holding, quiet.leaving, fun _ => rfl, fun _ => rfl⟩

/-! ## The closers -/

/-- What the place of a closer relies on. -/
def Allows (k : Skeleton) : CloseStage → Prop
  | .arriving | .refused => True
  | .silencing => k.taken = true
  | .dismissing => k.taken = true ∧ k.replies.isShutDown = true
  | .joining => k.taken = true ∧ k.replies.isShutDown = true ∧ k.Dismissed
  | .resettingCommands => k.taken = true ∧ k.replies.isShutDown = true ∧ k.duty = .stopped
  | .resettingReplies | .marking =>
    k.taken = true ∧ k.replies.isShutDown = true ∧ k.duty = .stopped ∧ k.commands.isShutDown = true
  | .releasing => k.taken = true ∧ k.replies.isShutDown = true ∧ k.duty = .stopped ∧
    k.commands.isShutDown = true ∧ k.closed = true
  | .done (.ok _) => k.taken = true ∧ k.replies.isShutDown = true ∧ k.duty = .stopped ∧
    k.commands.isShutDown = true ∧ k.closed = true ∧ k.released = true
  | .done (.error e) => e = .alreadyClosed ∨ e = .closing

theorem Allows.grow (h : k.Allows c) (grows : k.Grows k') : k'.Allows c := by
  obtain ⟨-, hcommands, hreplies, hclosed, htaken, hreleased, hstopped, hdismissed⟩ := grows
  cases c with
  | done result => cases result <;> simp_all [Allows]
  | _ => simp_all [Allows]

theorem taken_of_leads (h : k.Allows c) (hc : c.leads = true) : k.taken = true := by
  cases c with
  | done result => cases result <;> simp_all [Allows, CloseStage.leads]
  | _ => simp_all [Allows, CloseStage.leads]

theorem Closes.grows (h : Closes c k c' k') : k.Grows k' := by
  cases h with
  | late | refuse | dismissed | join => exact .refl k
  | come => exact ⟨rfl, id, id, id, fun _ => rfl, id, id, id⟩
  | silence | resetReplies => exact grows_of_replies fun _ => rfl
  | dismiss write => exact grows_of_writeCommand write
  | resetCommands => exact grows_of_shutdownCommands k
  | mark => exact ⟨rfl, id, id, fun _ => rfl, id, id, id, id⟩
  | release => exact ⟨rfl, id, id, id, id, fun _ => rfl, id, id⟩

theorem Closes.allows (h : Closes c k c' k') (hc : k.Allows c) : k'.Allows c' := by
  cases h with
  | come => rfl
  | late => trivial
  | refuse =>
    cases hr : k.released with
    | true => exact .inl rfl
    | false => exact .inr rfl
  | silence => exact ⟨hc, rfl⟩
  | dismiss write =>
    obtain ⟨-, hitems, -⟩ := MessageQueue.of_write_eq_done write
    exact ⟨hc.1, hc.2, .inr (.inl (by simp [hitems]))⟩
  | dismissed shut => exact ⟨hc.1, hc.2, .inl shut⟩
  | join duty => exact ⟨hc.1, hc.2.1, duty⟩
  | resetCommands => exact ⟨hc.1, hc.2.1, hc.2.2, rfl⟩
  | resetReplies => exact ⟨hc.1, rfl, hc.2.2⟩
  | mark => exact ⟨hc.1, hc.2.1, hc.2.2.1, hc.2.2.2, rfl⟩
  | release => exact ⟨hc.1, hc.2.1, hc.2.2.1, hc.2.2.2.1, hc.2.2.2.2, rfl⟩

theorem Closes.quiet (h : Closes c k c' k') (quiet : k.Quiet) :
    k'.Quiet ∨ c'.hasDismissed = true := by
  cases h with
  | late | refuse => exact .inl quiet
  | come => exact .inl ⟨quiet.items, quiet.holding, quiet.leaving, quiet.muting, quiet.stopped⟩
  | silence => exact .inl (quiet_of_replies _ quiet)
  | _ => exact .inr rfl

theorem Closes.hasDismissed (h : Closes c k c' k') (hc : c.hasDismissed = true) :
    c'.hasDismissed = true := by
  cases h <;> simp_all [CloseStage.hasDismissed]

/-- Only the first one begins to lead. -/
theorem Closes.leads (h : Closes c k c' k') (hc : c'.leads = true) :
    c.leads = true ∨ k.taken = false := by
  cases h with
  | come free => exact .inr free
  | late | refuse => simp [CloseStage.leads] at hc
  | _ => exact .inl rfl

end Skeleton

/-- Nobody undoes what has been done to close a stream. -/
theorem Stream.Outside.grows {a b : Stream} (h : a.Outside b) : a.skeleton.Grows b.skeleton := by
  cases h with
  | stir h =>
    rw [h.skeleton]
    exact .refl _
  | writeCommand command h =>
    obtain ⟨queue, hwrite, hb⟩ := skeleton_of_writeCommand h
    rw [hb]
    exact Skeleton.grows_of_writeCommand hwrite
  | readReply h =>
    obtain ⟨queue, hread, hb⟩ := skeleton_of_readReply h
    obtain ⟨hshut, -, -⟩ := MessageQueue.of_read_eq_done hread
    rw [hb]
    exact Skeleton.grows_of_replies (by simp [hshut])
  | tryReadReply =>
    exact Skeleton.grows_of_replies fun h => (a.transport.replies.isShutDown_tryRead).trans h
  | shutdown channel =>
    cases channel with
    | command => exact Skeleton.grows_of_shutdownCommands _
    | reply => exact Skeleton.grows_of_replies fun _ => rfl
  | close h => exact (skeleton_closeStep h).grows

end AudioStream
