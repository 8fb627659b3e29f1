import AudioStream.Proofs.Stream.Skeleton

/-!
# What the others do to the skeleton

A client writes commands and takes replies, maybe in a send, and others close the stream. Each of their
steps is one of the steps `Skeleton.Closes` and `Skeleton.Sends` of the skeleton, and whatever else
happens to a stream leaves its skeleton alone.
-/

namespace AudioStream

namespace Stream

variable {s s' : Stream}

/-- Something happens that neither the queues for messages nor closing notice. A driver that uses the
stream in the midst of a transfer does nothing else. -/
inductive Stirs (a : Stream) : Stream → Prop where
  | writeData {b : Stream} {bytes : List UInt8} (h : a.writeData bytes = some b) : Stirs a b
  | readData {b : Stream} {count : Nat} {bytes : List UInt8} (h : a.readData count = some (bytes, b)) :
      Stirs a b
  | setConnected (connected : Bool) : Stirs a (a.setConnected connected)
  | setDevices (devices : List Device) : Stirs a (a.setDevices devices)
  | checkErrors : Stirs a a.checkErrors.2

theorem Stirs.skeleton (h : s.Stirs s') : s'.skeleton = s.skeleton := by
  cases h with
  | writeData h =>
    obtain ⟨data, -, rfl⟩ := Option.map_eq_some_iff.mp h
    rfl
  | readData h =>
    obtain ⟨⟨bytes, data⟩, -, h⟩ := Option.map_eq_some_iff.mp h
    cases h
    rfl
  | setConnected | setDevices => rfl
  | checkErrors =>
    unfold Stream.checkErrors
    split <;> rfl

theorem skeleton_of_writeCommand {command : Command} (h : s.writeCommand command = .done s') :
    ∃ queue, s.skeleton.commands.write command = .done queue ∧
      s'.skeleton = { s.skeleton with commands := queue } := by
  unfold writeCommand at h
  split at h
  next queue hwrite =>
    cases h
    exact ⟨queue, hwrite, rfl⟩
  next => cases h
  next => cases h

theorem commands_of_writeCommand_failed {command : Command} {e : QueueError}
    (h : s.writeCommand command = .failed e) : s.skeleton.commands.isShutDown = true := by
  unfold writeCommand at h
  split at h
  next => cases h
  next hwrite => exact MessageQueue.of_write_eq_failed hwrite
  next => cases h

theorem commands_of_writeCommand_waits {command : Command} (h : s.writeCommand command = .waits) :
    s.skeleton.commands.isShutDown = false ∧ s.skeleton.commands.items ≠ [] := by
  unfold writeCommand at h
  split at h
  next => cases h
  next => cases h
  next hwrite => exact MessageQueue.of_write_eq_waits hwrite

theorem skeleton_of_readReply {reply : Reply} (h : s.readReply = .done (reply, s')) :
    ∃ queue, s.skeleton.replies.read = .done (reply, queue) ∧
      s'.skeleton = { s.skeleton with replies := queue } := by
  unfold readReply at h
  split at h
  next queue hread =>
    cases h
    exact ⟨queue, hread, rfl⟩
  next => cases h
  next => cases h

theorem replies_of_readReply_failed {e : QueueError} (h : s.readReply = .failed e) :
    s.skeleton.replies.isShutDown = true := by
  unfold readReply at h
  split at h
  next => cases h
  next hread => exact MessageQueue.of_read_eq_failed hread
  next => cases h

theorem skeleton_closeStep {c c' : CloseStage} (h : s.closeStep c = some (c', s')) :
    Skeleton.Closes c s.skeleton c' s'.skeleton := by
  cases c with
  | arriving =>
    cases ht : s.taken with
    | true =>
      simp only [closeStep, ht, if_true] at h
      cases h
      exact .late ht
    | false =>
      simp only [closeStep, ht, Bool.false_eq_true, if_false] at h
      cases h
      exact .come ht
  | refused =>
    cases h
    exact .refuse
  | silencing =>
    cases h
    exact .silence
  | dismissing =>
    simp only [closeStep] at h
    split at h
    next hwrite =>
      cases h
      obtain ⟨queue, hqueue, hs'⟩ := skeleton_of_writeCommand hwrite
      rw [hs']
      exact .dismiss hqueue
    next e hwrite =>
      cases h
      exact .dismissed (commands_of_writeCommand_failed hwrite)
    next => cases h
  | joining =>
    simp only [closeStep] at h
    split at h
    next hs =>
      cases h
      exact .join (by simp [skeleton, hs, Stage.duty])
    next => cases h
  | resettingCommands =>
    cases h
    exact .resetCommands
  | resettingReplies =>
    cases h
    exact .resetReplies
  | marking =>
    cases h
    exact .mark
  | releasing =>
    cases h
    exact .release
  | done result => cases h

/-- Someone who closes the stream has to wait only for room for the exit command, and for the worker. -/
theorem closeStep_isSome_or (c : CloseStage) (s : Stream) : (s.closeStep c).isSome ∨
    (c = .dismissing ∧ s.skeleton.commands.isShutDown = false ∧ s.skeleton.commands.items ≠ []) ∨
    (c = .joining ∧ s.skeleton.duty ≠ .stopped) ∨ ∃ result, c = .done result := by
  cases c with
  | arriving => exact .inl (by simp only [closeStep]; split <;> rfl)
  | refused | silencing | resettingCommands | resettingReplies | marking | releasing =>
    exact .inl rfl
  | dismissing =>
    cases hwrite : s.writeCommand (.exit s.setup.cookie) with
    | done => exact .inl (by simp [closeStep, hwrite])
    | failed => exact .inl (by simp [closeStep, hwrite])
    | waits => exact .inr (.inl ⟨rfl, commands_of_writeCommand_waits hwrite⟩)
  | joining =>
    cases hs : s.stage with
    | stopped => exact .inl (by simp [closeStep, hs])
    | _ => exact .inr (.inr (.inl ⟨rfl, by simp [skeleton, hs, Stage.duty]⟩))
  | done result => exact .inr (.inr (.inr ⟨result, rfl⟩))

theorem skeleton_sendStep {now : Nat} {c c' : SendStage} (h : s.sendStep now c = some (c', s')) :
    Skeleton.Sends c s.skeleton c' s'.skeleton := by
  cases c with
  | writing command patience =>
    simp only [sendStep] at h
    split at h
    next hwrite =>
      cases h
      obtain ⟨queue, hqueue, hs'⟩ := skeleton_of_writeCommand hwrite
      rw [hs']
      exact .write hqueue
    next e hwrite =>
      cases h
      exact .failToWrite (commands_of_writeCommand_failed hwrite)
    next => cases h
  | awaiting deadline =>
    simp only [sendStep] at h
    split at h
    next hread =>
      cases h
      obtain ⟨queue, hqueue, hs'⟩ := skeleton_of_readReply hread
      rw [hs']
      exact .read hqueue
    next e hread =>
      cases h
      exact .failToRead (replies_of_readReply_failed hread)
    next =>
      split at h <;> cases h
      exact .expire
  | givingUp =>
    cases h
    exact .giveUp
  | done result => cases h

end Stream

end AudioStream
