import AudioStream.Proofs.Stream.Calls

/-!
# What the others do to a stream

The client, the layer that connects devices, a driver in the midst of a transfer, and those who close the
stream get hold of it between the steps of the worker. Whatever they do, the worker is where it was. To
the queues for messages they do one of three things: nothing, write a command, or take a reply.
-/

namespace AudioStream

/-- What the others do to the queues for messages. They may shut them down besides. -/
inductive Skeleton.Trades (k k' : Skeleton) : Prop where
  | keep (commands : k'.commands.items = k.commands.items) (replies : k'.replies.items = k.replies.items)
  | post (command : Command) (commands : k'.commands.items = k.commands.items ++ [command])
      (replies : k'.replies.items = k.replies.items)
  | receive (reply : Reply) (commands : k'.commands.items = k.commands.items)
      (replies : k.replies.items = reply :: k'.replies.items)

namespace Stream

variable {a b : Stream}

/-- What the client, the layer that connects devices, a driver in a transfer, and those who close the
stream do in one step. Someone who closes the stream may stand anywhere, and a client may know the cookie
of the exit command, so more is allowed here than can happen. -/
inductive Outside (a : Stream) : Stream → Prop where
  | stir {b : Stream} (h : a.Stirs b) : Outside a b
  | writeCommand {b : Stream} (command : Command) (h : a.writeCommand command = .done b) : Outside a b
  | readReply {b : Stream} {reply : Reply} (h : a.readReply = .done (reply, b)) : Outside a b
  | tryReadReply : Outside a a.tryReadReply.2
  | shutdown (channel : Channel) : Outside a (a.shutdown channel)
  | close {b : Stream} {c c' : CloseStage} (h : a.closeStep c = some (c', b)) : Outside a b

/-- The worker is where it was, and nothing is reported. -/
structure Leaves (a b : Stream) : Prop where
  setup : b.setup = a.setup
  worker : b.worker = a.worker
  stage : b.stage = a.stage
  notices : b.notices = a.notices
  reports : b.reports.length ≤ a.reports.length

theorem Leaves.refl (a : Stream) : a.Leaves a := ⟨rfl, rfl, rfl, rfl, Nat.le_refl _⟩

theorem Stirs.leaves (h : a.Stirs b) : a.Leaves b := by
  cases h with
  | writeData h =>
    obtain ⟨data, -, rfl⟩ := Option.map_eq_some_iff.mp h
    exact ⟨rfl, rfl, rfl, rfl, Nat.le_refl _⟩
  | readData h =>
    obtain ⟨⟨bytes, data⟩, -, h⟩ := Option.map_eq_some_iff.mp h
    cases h
    exact ⟨rfl, rfl, rfl, rfl, Nat.le_refl _⟩
  | setConnected | setDevices => exact ⟨rfl, rfl, rfl, rfl, Nat.le_refl _⟩
  | checkErrors =>
    unfold Stream.checkErrors
    split
    next => exact .refl a
    next e rest hreports => exact ⟨rfl, rfl, rfl, rfl, by simp [hreports]⟩

theorem leaves_of_writeCommand {command : Command} (h : a.writeCommand command = .done b) :
    a.Leaves b := by
  unfold writeCommand at h
  split at h <;> cases h
  exact ⟨rfl, rfl, rfl, rfl, Nat.le_refl _⟩

theorem leaves_of_readReply {reply : Reply} (h : a.readReply = .done (reply, b)) : a.Leaves b := by
  unfold readReply at h
  split at h <;> cases h
  exact ⟨rfl, rfl, rfl, rfl, Nat.le_refl _⟩

theorem leaves_of_closeStep {c c' : CloseStage} (h : a.closeStep c = some (c', b)) : a.Leaves b := by
  cases c with
  | arriving =>
    simp only [closeStep] at h
    split at h <;> cases h <;> exact ⟨rfl, rfl, rfl, rfl, Nat.le_refl _⟩
  | dismissing =>
    simp only [closeStep] at h
    split at h
    next hwrite =>
      cases h
      exact leaves_of_writeCommand hwrite
    next =>
      cases h
      exact .refl a
    next => cases h
  | joining =>
    simp only [closeStep] at h
    split at h <;> cases h
    exact .refl a
  | refused | silencing | resettingCommands | resettingReplies | marking | releasing =>
    cases h
    exact ⟨rfl, rfl, rfl, rfl, Nat.le_refl _⟩
  | done result => cases h

theorem Outside.leaves (h : a.Outside b) : a.Leaves b := by
  cases h with
  | stir h => exact h.leaves
  | writeCommand command h => exact leaves_of_writeCommand h
  | readReply h => exact leaves_of_readReply h
  | tryReadReply => exact ⟨rfl, rfl, rfl, rfl, Nat.le_refl _⟩
  | shutdown channel => exact ⟨rfl, rfl, rfl, rfl, Nat.le_refl _⟩
  | close h => exact leaves_of_closeStep h

theorem reports_of_writeCommand {command : Command} (h : a.writeCommand command = .done b) :
    b.reports = a.reports := by
  unfold writeCommand at h
  split at h <;> cases h
  rfl

theorem reports_of_closeStep {c c' : CloseStage} (h : a.closeStep c = some (c', b)) :
    b.reports = a.reports := by
  cases c with
  | arriving | joining =>
    simp only [closeStep] at h
    split at h <;> cases h <;> rfl
  | dismissing =>
    simp only [closeStep] at h
    split at h
    next hwrite =>
      cases h
      exact reports_of_writeCommand hwrite
    next =>
      cases h
      rfl
    next => cases h
  | refused | silencing | resettingCommands | resettingReplies | marking | releasing =>
    cases h
    rfl
  | done result => cases h

/-- The client looks at the oldest reports first. -/
theorem Outside.suffix (h : a.Outside b) : b.reports <:+ a.reports := by
  cases h with
  | stir h =>
    cases h with
    | writeData h =>
      obtain ⟨data, -, rfl⟩ := Option.map_eq_some_iff.mp h
      exact List.suffix_rfl
    | readData h =>
      obtain ⟨⟨bytes, data⟩, -, h⟩ := Option.map_eq_some_iff.mp h
      cases h
      exact List.suffix_rfl
    | setConnected | setDevices => exact List.suffix_rfl
    | checkErrors =>
      unfold Stream.checkErrors
      split
      next => exact List.suffix_rfl
      next e rest hreports =>
        rw [hreports]
        exact List.suffix_cons e rest
  | writeCommand command h => exact reports_of_writeCommand h ▸ List.suffix_rfl
  | readReply h =>
    unfold Stream.readReply at h
    split at h <;> cases h
    exact List.suffix_rfl
  | tryReadReply | shutdown => exact List.suffix_rfl
  | close h => exact reports_of_closeStep h ▸ List.suffix_rfl

theorem trades_of_closes {k k' : Skeleton} {c c' : CloseStage} (h : Skeleton.Closes c k c' k') :
    k.Trades k' := by
  cases h with
  | dismiss write =>
    obtain ⟨-, hqueue, -⟩ := MessageQueue.of_write_eq_done write
    exact .post _ hqueue rfl
  | _ => exact .keep rfl rfl

theorem Outside.trades (h : a.Outside b) : a.skeleton.Trades b.skeleton := by
  cases h with
  | stir h =>
    rw [h.skeleton]
    exact .keep rfl rfl
  | writeCommand command h =>
    obtain ⟨queue, hwrite, hb⟩ := skeleton_of_writeCommand h
    obtain ⟨-, hqueue, -⟩ := MessageQueue.of_write_eq_done hwrite
    rw [hb]
    exact .post command hqueue rfl
  | @readReply _ reply h =>
    obtain ⟨queue, hread, hb⟩ := skeleton_of_readReply h
    obtain ⟨-, hqueue, -⟩ := MessageQueue.of_read_eq_done hread
    rw [hb]
    exact .receive reply rfl hqueue
  | tryReadReply =>
    cases hp : a.transport.replies.pop with
    | none =>
      have hsame : a.tryReadReply.2 = a := by
        simp [Stream.tryReadReply, MessageQueue.tryRead, hp]
      rw [hsame]
      exact .keep rfl rfl
    | some taken =>
      have hrest : a.tryReadReply.2.skeleton = { a.skeleton with replies := taken.2 } := by
        simp [Stream.tryReadReply, MessageQueue.tryRead, hp, skeleton]
      rw [hrest]
      exact .receive taken.1 rfl (MessageQueue.items_of_pop hp)
  | shutdown channel => cases channel <;> exact .keep rfl rfl
  | close h => exact trades_of_closes (skeleton_closeStep h)

/-- Nobody but the worker writes a reply. -/
theorem Outside.mem_replies {reply : Reply} (h : a.Outside b) (hr : reply ∈ b.transport.replies.items) :
    reply ∈ a.transport.replies.items := by
  cases h.trades with
  | keep _ replies => exact (replies ▸ hr :)
  | post _ _ replies => exact (replies ▸ hr :)
  | receive first _ replies =>
    have hcons : a.transport.replies.items = first :: b.transport.replies.items := replies
    rw [hcons]
    exact List.mem_cons_of_mem first hr

end Stream

end AudioStream
