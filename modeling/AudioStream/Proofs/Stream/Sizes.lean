import AudioStream.Proofs.Stream.States
import AudioStream.Proofs.Worker.Accepted

/-!
# The sizes that a worker goes by

A burst goes by three sizes: the bytes that the client asked for, those of the data queue, and those at the
front of the buffer that the next step uses. They are found out at different moments, and whatever comes in
between the buffer has room for all that is used of it. Frames are counted only at the end of a burst.
-/

namespace AudioStream

/-- The burst that a task is part of. -/
def Task.burst? : Task → Option Burst
  | looking b | taking b _ | moving b _ | appending b _ => some b
  | controlling _ _ _ => none

/-- The burst that is under way. -/
def Stage.burst? : Stage → Option Burst
  | handling _ task => task.burst?
  | _ => none

/-- How many bytes at the front of the buffer the worker is about to use for a task. -/
def Setup.used (s : Setup) : Task → Nat
  | .taking _ count => count
  | .moving _ size => size
  | .appending _ m => m.frames * s.frameSize
  | .looking _ | .controlling _ _ _ => 0

namespace Worker

variable {s : Setup} {w : Worker}

theorem buffer_react {now : Nat} {connected : Bool} {command : Command} {h : Handled}
    (hreact : w.react s now connected command = .reply h) : h.worker.buffer = w.buffer := by
  unfold react at hreact
  split at hreact <;> cases hreact <;> simp

theorem frameCount_react {now : Nat} {connected : Bool} {command : Command} {h : Handled}
    (hreact : w.react s now connected command = .reply h) : h.worker.frameCount = w.frameCount := by
  unfold react at hreact
  split at hreact <;> cases hreact <;> simp

/-- A burst is carried out for a command that asks for its bytes, and for no negative number of them. -/
theorem burst_of_react {now : Nat} {connected : Bool} {command : Command} {bytes : Nat}
    (hreact : w.react s now connected command = .burst bytes) :
    ∃ n, command = .burst n ∧ 0 ≤ n ∧ bytes = n.toInt.toNat := by
  unfold react at hreact
  split at hreact <;> cases hreact
  next hdecide =>
    obtain ⟨n, hcommand, hn, -, hbytes⟩ := s.decide_eq_burst_iff.mp hdecide
    exact ⟨n, hcommand, hn, hbytes.symm⟩

theorem frameCount_afterControl (now : Nat) (connected : Bool) (call : Control) (next : State)
    (result : Except DriverError Unit) :
    (w.afterControl now connected call next result).worker.frameCount = w.frameCount := by
  cases result with
  | ok done => exact w.frameCount_enter now next
  | error e => rfl

theorem frameCount_finishBurst (now : Nat) (b : Burst) (m : Moved) :
    (w.finishBurst s now b m true).worker.frameCount = w.frameCount + Int64.ofNat m.frames := by
  cases hm : m.failure with
  | none =>
    rw [w.worker_finishBurst_of_success s now b m hm, frameCount_afterBurst]
    rfl
  | some e =>
    rw [w.worker_finishBurst_of_failure s now b m hm]
    rfl

theorem frameCount_finishBurst_false (now : Nat) (b : Burst) (m : Moved) :
    (w.finishBurst s now b m false).worker.frameCount = w.frameCount := by
  cases hm : m.failure <;> simp [finishBurst, hm, frameCount_afterBurst]

end Worker

namespace Stream

variable {a b : Stream} {burst : Burst} {size : Nat} {moved : Worker × Moved}

/-! ## What is moved -/

theorem Moves.length_buffer (h : a.Moves burst size moved) :
    moved.1.buffer.length = a.worker.buffer.length := by
  cases h with
  | silent => exact Bench.length_buffer_withoutDevice a.setup size a.worker
  | answered => exact a.worker.length_fill _

theorem Moves.frameCount (h : a.Moves burst size moved) : moved.1.frameCount = a.worker.frameCount := by
  cases h with
  | silent => exact a.worker.frameCount_withoutDevice a.setup size
  | answered => rfl

/-- Whatever the driver says, no more frames are moved than the transfer was asked for. -/
theorem Moves.frames_le (h : a.Moves burst size moved) : moved.2.frames ≤ a.setup.frames size := by
  cases h with
  | silent =>
    rw [Worker.moved_withoutDevice]
    exact Nat.le_refl _
  | answered hconnected answer =>
    simp only [Worker.afterTransfer, Moved.ofAnswer]
    split
    · exact Nat.min_le_right _ _
    · exact Nat.zero_le _

theorem Moves.frames_mul_le (h : a.Moves burst size moved) :
    moved.2.frames * a.setup.frameSize ≤ size :=
  calc moved.2.frames * a.setup.frameSize
      ≤ a.setup.frames size * a.setup.frameSize := Nat.mul_le_mul_right _ h.frames_le
    _ ≤ size := a.setup.frames_mul_le size

/-! ## Sizes -/

/-- The buffer and the data queue have the same size, a burst goes by what its command asks for, and the buffer
has room for all that is used of it. -/
structure Sized (s : Stream) : Prop where
  buffer : s.worker.buffer.length = s.setup.bufferSize
  capacity : s.transport.data.capacity = s.setup.bufferSize
  asked : ∀ command task burst, s.stage = .handling command task → task.burst? = some burst →
    ∃ n, command = .burst n ∧ 0 ≤ n ∧ burst.bytes = n.toInt.toNat
  used : ∀ command task, s.stage = .handling command task → s.setup.used task ≤ s.setup.bufferSize

/-- The worker and the data queue are as large as they were, and no burst is under way. -/
theorem Sized.rest (h : a.Sized) (setup : b.setup = a.setup)
    (buffer : b.worker.buffer.length = a.worker.buffer.length)
    (capacity : b.transport.data.capacity = a.transport.data.capacity)
    (idle : ∀ command task, b.stage ≠ .handling command task) : b.Sized where
  buffer := by rw [buffer, setup, h.buffer]
  capacity := by rw [capacity, setup, h.capacity]
  asked command task burst hs := absurd hs (idle command task)
  used command task hs := absurd hs (idle command task)

theorem Sized.handled {s : Stream} {command : Command} {r : Handled} (h : a.Sized) (setup : s.setup = a.setup)
    (buffer : r.worker.buffer.length = a.worker.buffer.length)
    (capacity : s.transport.data.capacity = a.transport.data.capacity) : (s.handled command r).Sized := by
  obtain ⟨reports, heq⟩ := s.handled_eq command r
  rw [heq]
  exact h.rest setup buffer capacity (by rintro _ _ ⟨⟩)

/-- The worker goes on with a command, and the buffer has room for what it is about to use. -/
theorem Sized.carry {command : Command} {task : Task} (h : a.Sized) (setup : b.setup = a.setup)
    (buffer : b.worker.buffer.length = a.worker.buffer.length)
    (capacity : b.transport.data.capacity = a.transport.data.capacity)
    (stage : b.stage = .handling command task)
    (asked : ∀ burst, task.burst? = some burst → ∃ n, command = .burst n ∧ 0 ≤ n ∧ burst.bytes = n.toInt.toNat)
    (used : a.setup.used task ≤ a.setup.bufferSize) : b.Sized where
  buffer := by rw [buffer, setup, h.buffer]
  capacity := by rw [capacity, setup, h.capacity]
  asked command' task' burst hs := by
    rw [stage] at hs
    cases hs
    exact asked burst
  used command' task' hs := by
    rw [stage] at hs
    cases hs
    rwa [setup]

theorem Sized.goOn {command : Command} {task task' : Task} (h : a.Sized)
    (hs : a.stage = .handling command task) (stage : b.stage = .handling command task')
    (same : task'.burst? = task.burst?) (setup : b.setup = a.setup)
    (buffer : b.worker.buffer.length = a.worker.buffer.length)
    (capacity : b.transport.data.capacity = a.transport.data.capacity)
    (used : a.setup.used task' ≤ a.setup.bufferSize) : b.Sized :=
  h.carry setup buffer capacity stage (fun burst hb => h.asked command task burst hs (same ▸ hb)) used

theorem Sized.acts (h : a.Sized) (hacts : a.Acts b) : b.Sized := by
  cases hacts with
  | resolve m hs =>
    obtain ⟨reports, heq⟩ := a.beginCycle_eq m
    rw [heq]
    exact h.rest rfl (congrArg List.length (a.worker.buffer_resolve a.setup m.now)) rfl (by rintro _ _ ⟨⟩)
  | arm | take | timeOut | failToRead | leave | reply | failToWrite | shutCommands | shutReplies | stop =>
    exact h.rest rfl rfl rfl (by rintro _ _ ⟨⟩)
  | giveUp hs =>
    obtain ⟨reports, heq⟩ := report_eq { a with stage := .closingCommands } (.queueFailure _)
    rw [heq]
    exact h.rest rfl rfl rfl (by rintro _ _ ⟨⟩)
  | tell now hs hreact => exact h.handled rfl (congrArg List.length (Worker.buffer_react hreact)) rfl
  | call now hs hreact => exact h.carry rfl rfl rfl rfl (by rintro _ ⟨⟩) (Nat.zero_le _)
  | begin now hs hreact =>
    refine h.carry rfl rfl rfl rfl ?_ (Nat.zero_le _)
    rintro _ ⟨⟩
    exact Worker.burst_of_react hreact
  | size capture hs =>
    exact h.goOn hs rfl rfl rfl rfl rfl
      (Nat.le_trans (a.setup.captureSize_le _ _) (Nat.min_le_right _ _))
  | look playback hs => exact h.goOn hs rfl rfl rfl rfl rfl (Nat.min_le_right _ _)
  | fill hs hread =>
    exact h.goOn hs rfl rfl rfl (a.worker.length_fill _) (DataQueue.capacity_of_read hread)
      (Nat.le_trans (a.setup.playbackSize_le _ _) (Nat.min_le_right _ _))
  | starve now hs hread => exact h.handled rfl (congrArg List.length (Worker.buffer_finishBurst ..)) rfl
  | capture capture hs moves =>
    exact h.goOn hs rfl rfl rfl moves.length_buffer rfl
      (Nat.le_trans moves.frames_mul_le (h.used _ _ hs))
  | play now playback hs moves =>
    exact h.handled rfl ((congrArg List.length (Worker.buffer_finishBurst ..)).trans moves.length_buffer) rfl
  | append now hs hwrite =>
    exact h.handled rfl (congrArg List.length (Worker.buffer_finishBurst ..))
      (DataQueue.capacity_of_write hwrite)
  | overflow now hs hwrite => exact h.handled rfl (congrArg List.length (Worker.buffer_finishBurst ..)) rfl
  | control now hs result => exact h.handled rfl (congrArg List.length (Worker.buffer_afterControl ..)) rfl

theorem data_of_writeCommand {command : Command} (h : a.writeCommand command = .done b) :
    b.transport.data = a.transport.data := by
  unfold writeCommand at h
  split at h <;> cases h
  rfl

theorem data_of_closeStep {c c' : CloseStage} (h : a.closeStep c = some (c', b)) :
    b.transport.data = a.transport.data := by
  cases c with
  | arriving | joining =>
    simp only [closeStep] at h
    split at h <;> cases h <;> rfl
  | dismissing =>
    simp only [closeStep] at h
    split at h
    next hwrite =>
      cases h
      exact data_of_writeCommand hwrite
    next =>
      cases h
      rfl
    next => cases h
  | refused | silencing | resettingCommands | resettingReplies | marking | releasing =>
    cases h
    rfl
  | done result => cases h

/-- The others write to the data queue, or read from it, or leave it alone. -/
theorem Outside.data (h : a.Outside b) : b.transport.data = a.transport.data ∨
    (∃ bytes, a.transport.data.write bytes = some b.transport.data) ∨
    ∃ count bytes, a.transport.data.read count = some (bytes, b.transport.data) := by
  cases h with
  | stir h =>
    cases h with
    | @writeData _ bytes h =>
      obtain ⟨data, hwrite, rfl⟩ := Option.map_eq_some_iff.mp h
      exact .inr (.inl ⟨bytes, hwrite⟩)
    | @readData _ count bytes h =>
      obtain ⟨⟨bytes', data⟩, hread, h⟩ := Option.map_eq_some_iff.mp h
      cases h
      exact .inr (.inr ⟨count, bytes, hread⟩)
    | setConnected | setDevices => exact .inl rfl
    | checkErrors =>
      unfold Stream.checkErrors
      split <;> exact .inl rfl
  | writeCommand command h => exact .inl (data_of_writeCommand h)
  | readReply h =>
    unfold Stream.readReply at h
    split at h <;> cases h
    exact .inl rfl
  | tryReadReply => exact .inl rfl
  | shutdown channel => cases channel <;> exact .inl rfl
  | close h => exact .inl (data_of_closeStep h)

theorem Outside.capacity (h : a.Outside b) :
    b.transport.data.capacity = a.transport.data.capacity := by
  rcases h.data with same | ⟨bytes, hwrite⟩ | ⟨count, bytes, hread⟩
  · rw [same]
  · exact DataQueue.capacity_of_write hwrite
  · exact DataQueue.capacity_of_read hread

theorem Sized.outside (h : a.Sized) (hout : a.Outside b) : b.Sized where
  buffer := by rw [hout.leaves.worker, hout.leaves.setup, h.buffer]
  capacity := by rw [hout.capacity, hout.leaves.setup, h.capacity]
  asked command task burst hs := h.asked command task burst (hout.leaves.stage ▸ hs)
  used command task hs := by
    rw [hout.leaves.setup]
    exact h.used command task (hout.leaves.stage ▸ hs)

theorem setup_of_step (hstep : a.Works b ∨ a.Outside b) : b.setup = a.setup := by
  rcases hstep with hworks | hout
  · exact (acts_of_works hworks).setup
  · exact hout.leaves.setup

theorem sized_step (h : a.Sized) (hstep : a.Works b ∨ a.Outside b) : b.Sized := by
  rcases hstep with hworks | hout
  · exact h.acts (acts_of_works hworks)
  · exact h.outside hout

theorem sized_opened (direction : Direction) (t : Transport) (cookie : Int32)
    (microphones : List (Device × String)) : (Stream.opened direction t cookie microphones).Sized where
  buffer := List.length_replicate
  capacity := by simp [opened, Setup.ofTransport, DataQueue.quantumCount, DataQueue.quantumSize]
  asked := by rintro _ _ _ ⟨⟩
  used := by rintro _ _ ⟨⟩

/-! ## Frames -/

/-- A worker counts only at the end of a burst, and then no more frames than it has used bytes for. -/
theorem Acts.counts (h : a.Acts b) : b.worker.frameCount = a.worker.frameCount ∨
    ∃ command task frames, a.stage = .handling command task ∧ task.burst?.isSome = true ∧
      b.stage.burst? = none ∧ frames * a.setup.frameSize ≤ a.setup.used task ∧
      b.worker.frameCount = a.worker.frameCount + Int64.ofNat frames := by
  have hhandled (s : Stream) (command : Command) (r : Handled) :
      (s.handled command r).worker = r.worker ∧ (s.handled command r).stage.burst? = none := by
    obtain ⟨reports, heq⟩ := s.handled_eq command r
    rw [heq]
    exact ⟨rfl, rfl⟩
  cases h with
  | resolve m hs =>
    obtain ⟨reports, heq⟩ := a.beginCycle_eq m
    rw [heq]
    exact .inl (Bench.frameCount_resolve a.setup m.now a.worker)
  | tell now hs hreact =>
    rw [(hhandled _ _ _).1]
    exact .inl (Worker.frameCount_react hreact)
  | starve now hs hread =>
    rw [(hhandled _ _ _).1]
    exact .inl (Worker.frameCount_finishBurst_false ..)
  | capture capture hs moves => exact .inl moves.frameCount
  | play now playback hs moves =>
    rw [(hhandled _ _ _).1, Worker.frameCount_finishBurst, moves.frameCount]
    exact .inr ⟨_, _, _, hs, rfl, (hhandled _ _ _).2, moves.frames_mul_le, rfl⟩
  | append now hs hwrite =>
    rw [(hhandled _ _ _).1, Worker.frameCount_finishBurst]
    exact .inr ⟨_, _, _, hs, rfl, (hhandled _ _ _).2, Nat.le_refl _, rfl⟩
  | overflow now hs hwrite =>
    rw [(hhandled _ _ _).1]
    exact .inl (Worker.frameCount_finishBurst_false ..)
  | control now hs result =>
    rw [(hhandled _ _ _).1]
    exact .inl (Worker.frameCount_afterControl ..)
  | giveUp hs =>
    rw [worker_report]
    exact .inl rfl
  | _ => exact .inl rfl

end Stream

end AudioStream
