import AudioStream.Proofs.Stream.Working

/-!
# Everything that a worker does

A worker does one of the things listed here, each at its own stage. Whoever wants to know something about
all steps of a worker goes through the list, and need not open the definitions of the steps.
-/

namespace AudioStream

namespace Stream

/-- What has been moved of a buffer: a silent burst does without a device, and others get the answer of the
driver. -/
inductive Moves (a : Stream) (burst : Burst) (size : Nat) : Worker × Moved → Prop where
  | silent (h : burst.connected = false) : Moves a burst size (a.worker.withoutDevice a.setup size)
  | answered (h : burst.connected = true) (answer : TransferAnswer) :
      Moves a burst size (a.worker.afterTransfer a.setup size answer)

/-- What the worker does in one step, with or without an answer of the driver. -/
inductive Acts (a : Stream) : Stream → Prop where
  | resolve (m : Moment) (stage : a.stage = .fresh) : Acts a (a.beginCycle m)
  | arm (deadline : Option Nat) (stage : a.stage = .arming) : Acts a { a with stage := .waiting deadline }
  | take {deadline : Option Nat} {command : Command} {commands : MessageQueue Command}
      (stage : a.stage = .waiting deadline) (read : a.transport.commands.read = .done (command, commands)) :
      Acts a { a with transport := { a.transport with commands }, stage := .sampling command }
  | timeOut {time : Nat} (stage : a.stage = .waiting (some time))
      (read : a.transport.commands.read = .waits) : Acts a { a with stage := .fresh }
  | failToRead {deadline : Option Nat} {e : QueueError} (reason : String)
      (stage : a.stage = .waiting deadline) (read : a.transport.commands.read = .failed e) :
      Acts a (a.abort reason)
  | leave {command : Command} (now : Nat) (stage : a.stage = .sampling command)
      (react : a.worker.react a.setup now a.connected command = .stop) :
      Acts a { a with closed := true, stage := .leaving }
  | tell {command : Command} {h : Handled} (now : Nat) (stage : a.stage = .sampling command)
      (react : a.worker.react a.setup now a.connected command = .reply h) : Acts a (a.handled command h)
  | call {command : Command} {call : Control} {next : State} (now : Nat) (stage : a.stage = .sampling command)
      (react : a.worker.react a.setup now a.connected command = .control call next) :
      Acts a { a with stage := .handling command (.controlling a.connected call next) }
  | begin {command : Command} {bytes : Nat} (now : Nat) (stage : a.stage = .sampling command)
      (react : a.worker.react a.setup now a.connected command = .burst bytes) :
      Acts a { a with stage := .handling command (.looking ⟨bytes, a.connected⟩) }
  | size {command : Command} {burst : Burst} (capture : a.setup.direction = .input)
      (stage : a.stage = .handling command (.looking burst)) :
      Acts a { a with
        stage := .handling command
          (.moving burst (a.setup.captureSize burst.bytes a.transport.data.writable)) }
  | look {command : Command} {burst : Burst} (playback : a.setup.direction = .output)
      (stage : a.stage = .handling command (.looking burst)) :
      Acts a { a with
        stage := .handling command (.taking burst (a.setup.playbackTake a.transport.data.readable)) }
  | fill {command : Command} {burst : Burst} {count : Nat} {bytes : List UInt8} {data : DataQueue}
      (stage : a.stage = .handling command (.taking burst count))
      (read : a.transport.data.read count = some (bytes, data)) :
      Acts a { a with
        worker := a.worker.fill bytes
        transport := { a.transport with data }
        stage := .handling command (.moving burst (a.setup.playbackSize burst.bytes count)) }
  | starve {command : Command} {burst : Burst} {count : Nat} (now : Nat)
      (stage : a.stage = .handling command (.taking burst count))
      (read : a.transport.data.read count = none) :
      Acts a (a.handled command (a.worker.finishBurst a.setup now burst { frames := 0 } false))
  | capture {command : Command} {burst : Burst} {size : Nat} {moved : Worker × Moved}
      (capture : a.setup.direction = .input) (stage : a.stage = .handling command (.moving burst size))
      (moves : a.Moves burst size moved) :
      Acts a { a with worker := moved.1, stage := .handling command (.appending burst moved.2) }
  | play {command : Command} {burst : Burst} {size : Nat} {moved : Worker × Moved} (now : Nat)
      (playback : a.setup.direction = .output) (stage : a.stage = .handling command (.moving burst size))
      (moves : a.Moves burst size moved) :
      Acts a (a.handled command (moved.1.finishBurst a.setup now burst moved.2 true))
  | append {command : Command} {burst : Burst} {moved : Moved} {data : DataQueue} (now : Nat)
      (stage : a.stage = .handling command (.appending burst moved))
      (write : a.transport.data.write (a.worker.movedBytes a.setup moved) = some data) :
      Acts a (handled { a with transport := { a.transport with data } } command
        (a.worker.finishBurst a.setup now burst moved true))
  | overflow {command : Command} {burst : Burst} {moved : Moved} (now : Nat)
      (stage : a.stage = .handling command (.appending burst moved))
      (write : a.transport.data.write (a.worker.movedBytes a.setup moved) = none) :
      Acts a (a.handled command (a.worker.finishBurst a.setup now burst moved false))
  | control {command : Command} {connected : Bool} {call : Control} {next : State} (now : Nat)
      (stage : a.stage = .handling command (.controlling connected call next))
      (result : Except DriverError Unit) :
      Acts a (a.handled command (a.worker.afterControl now connected call next result))
  | reply {command : Command} {reply : Reply} {replies : MessageQueue Reply}
      (stage : a.stage = .replying command reply) (write : a.transport.replies.write reply = .done replies) :
      Acts a { a with transport := { a.transport with replies }, stage := .fresh }
  | failToWrite {command : Command} {reply : Reply} {e : QueueError} (reason : String)
      (stage : a.stage = .replying command reply) (write : a.transport.replies.write reply = .failed e) :
      Acts a (a.abort reason)
  | giveUp {reason : String} (stage : a.stage = .reporting reason) :
      Acts a (report { a with stage := .closingCommands } (.queueFailure reason))
  | shutCommands (stage : a.stage = .closingCommands) :
      Acts a { a.shutdown .command with stage := .closingReplies }
  | shutReplies (stage : a.stage = .closingReplies) : Acts a { a.shutdown .reply with stage := .stopped }
  | stop (stage : a.stage = .leaving) : Acts a { a with stage := .stopped }

variable {a b : Stream} {m : Moment} {command : Command}

theorem acts_awaitCommand {deadline : Option Nat} (hs : a.stage = .waiting deadline)
    (h : a.awaitCommand m deadline = some b) : a.Acts b := by
  unfold awaitCommand at h
  split at h
  next hread =>
    cases h
    exact .take hs hread
  next hread =>
    cases h
    exact .failToRead _ hs hread
  next hread =>
    split at h
    next =>
      split at h <;> cases h
      exact .timeOut hs hread
    next => cases h

theorem acts_beginCommand (m : Moment) (hs : a.stage = .sampling command) :
    a.Acts (a.beginCommand m command) := by
  unfold beginCommand
  split
  next hreact => exact .leave m.now hs hreact
  next hreact => exact .tell m.now hs hreact
  next hreact => exact .call m.now hs hreact
  next hreact => exact .begin m.now hs hreact

theorem acts_afterMoving (m : Moment) {burst : Burst} {size : Nat} {moved : Worker × Moved}
    (hs : a.stage = .handling command (.moving burst size)) (moves : a.Moves burst size moved) :
    a.Acts (a.afterMoving m command burst moved) := by
  unfold afterMoving
  split
  next hd => exact .capture hd hs moves
  next hd => exact .play m.now hd hs moves

theorem acts_continueTask {task : Task} (hs : a.stage = .handling command task)
    (h : a.continueTask m command task = some b) : a.Acts b := by
  cases task with
  | looking burst =>
    simp only [continueTask] at h
    split at h <;> cases h
    next hd => exact .size hd hs
    next hd => exact .look hd hs
  | taking burst count =>
    simp only [continueTask] at h
    split at h <;> cases h
    next hread => exact .fill hs hread
    next hread => exact .starve m.now hs hread
  | moving burst size =>
    simp only [continueTask] at h
    split at h <;> cases h
    next hsilent => exact acts_afterMoving m hs (.silent (by simpa using hsilent))
  | appending burst moved =>
    simp only [continueTask] at h
    split at h <;> cases h
    next hwrite => exact .append m.now hs hwrite
    next hwrite => exact .overflow m.now hs hwrite
  | controlling connected call next => cases h

theorem acts_writeReply {reply : Reply} (hs : a.stage = .replying command reply)
    (h : a.writeReply reply = some b) : a.Acts b := by
  unfold writeReply at h
  split at h <;> cases h
  next hwrite => exact .reply hs hwrite
  next hwrite => exact .failToWrite _ hs hwrite

theorem acts_of_step (h : a.step m = some b) : a.Acts b := by
  unfold step at h
  split at h
  next hs =>
    cases h
    exact .resolve m hs
  next hs =>
    cases h
    exact .arm _ hs
  next hs => exact acts_awaitCommand hs h
  next hs =>
    cases h
    exact acts_beginCommand m hs
  next hs => exact acts_continueTask hs h
  next hs => exact acts_writeReply hs h
  next hs =>
    cases h
    exact .giveUp hs
  next hs =>
    cases h
    exact .shutCommands hs
  next hs =>
    cases h
    exact .shutReplies hs
  next hs =>
    cases h
    exact .stop hs
  next => cases h

/-- A worker that does something does what is listed. -/
theorem acts_of_works (h : a.Works b) : a.Acts b := by
  cases h with
  | step m h => exact acts_of_step h
  | control m result h =>
    unfold answerControl at h
    split at h <;> cases h
    next hs => exact .control m.now hs result
  | transfer m answer h =>
    unfold answerTransfer at h
    split at h
    next hs =>
      split at h <;> cases h
      next hb => exact acts_afterMoving m hs (.answered hb answer)
    next => cases h

end Stream

end AudioStream
