import AudioStream.Proofs.Queue.Message
import AudioStream.Stream.Close
import AudioStream.Stream.Step

/-!
# The skeleton of a stream

For the order of commands and replies, and for closing, it does not matter how frames are moved, what
the driver says and what time it is. What matters is what the worker is about, the two queues for
messages, and the flags of closing: the skeleton of a stream. Each step of a worker, and each step of
someone who closes the stream, is one of a few steps of the skeleton.

The skeleton leaves open when a worker can go on.
-/

namespace AudioStream

/-- What a worker is about, as far as the queues for messages are concerned. -/
inductive Duty where
  | listening
  /-- With a command that has not been looked at. -/
  | holding (command : Command)
  | carrying (command : Command)
  | answering (command : Command) (reply : Reply)
  /-- About to shut the command queue down because a queue failed. -/
  | failing
  /-- About to shut the reply queue down. -/
  | muting
  | leaving
  | stopped
  deriving DecidableEq

def Stage.duty : Stage → Duty
  | fresh | arming | waiting _ => .listening
  | sampling command => .holding command
  | handling command _ => .carrying command
  | replying command reply => .answering command reply
  | reporting _ | closingCommands => .failing
  | closingReplies => .muting
  | leaving => .leaving
  | stopped => .stopped

/-- What a stream looks like to those who send commands or close it. -/
structure Skeleton where
  duty : Duty
  commands : MessageQueue Command
  replies : MessageQueue Reply
  cookie : Int32
  closed : Bool
  taken : Bool
  released : Bool

def Stream.skeleton (s : Stream) : Skeleton where
  duty := s.stage.duty
  commands := s.transport.commands
  replies := s.transport.replies
  cookie := s.setup.cookie
  closed := s.closed
  taken := s.taken
  released := s.released

namespace Skeleton

/-- What the worker does to the skeleton. -/
inductive Works : Skeleton → Skeleton → Prop where
  /-- The worker goes on with what it is about. -/
  | stay {k} : Works k k
  | take {k command queue} (duty : k.duty = .listening)
      (read : k.commands.read = .done (command, queue)) :
      Works k { k with duty := .holding command, commands := queue }
  | leave {k} (duty : k.duty = .holding (.exit k.cookie)) :
      Works k { k with duty := .leaving, closed := true }
  | carry {k command} (duty : k.duty = .holding command) (other : command ≠ .exit k.cookie) :
      Works k { k with duty := .carrying command }
  /-- The command is answered at once. -/
  | reply {k command reply} (duty : k.duty = .holding command) (other : command ≠ .exit k.cookie) :
      Works k { k with duty := .answering command reply }
  | finish {k command reply} (duty : k.duty = .carrying command) :
      Works k { k with duty := .answering command reply }
  | write {k command reply queue} (duty : k.duty = .answering command reply)
      (write : k.replies.write reply = .done queue) :
      Works k { k with duty := .listening, replies := queue }
  /-- A queue that was shut down makes the worker give up. -/
  | failToRead {k} (duty : k.duty = .listening) (shut : k.commands.isShutDown = true) :
      Works k { k with duty := .failing }
  | failToWrite {k command reply} (duty : k.duty = .answering command reply)
      (shut : k.replies.isShutDown = true) : Works k { k with duty := .failing }
  | shutCommands {k} (duty : k.duty = .failing) :
      Works k { k with duty := .muting, commands := k.commands.shutdown }
  | shutReplies {k} (duty : k.duty = .muting) :
      Works k { k with duty := .stopped, replies := k.replies.shutdown }
  | stop {k} (duty : k.duty = .leaving) : Works k { k with duty := .stopped }

/-- What someone does to the skeleton who closes the stream. -/
inductive Closes : CloseStage → Skeleton → CloseStage → Skeleton → Prop where
  | come {k} (free : k.taken = false) : Closes .arriving k .silencing { k with taken := true }
  | late {k} (taken : k.taken = true) : Closes .arriving k .refused k
  | refuse {k} :
      Closes .refused k (.done (.error (if k.released then .alreadyClosed else .closing))) k
  | silence {k} : Closes .silencing k .dismissing { k with replies := k.replies.shutdown }
  | dismiss {k queue} (write : k.commands.write (.exit k.cookie) = .done queue) :
      Closes .dismissing k .joining { k with commands := queue }
  | dismissed {k} (shut : k.commands.isShutDown = true) : Closes .dismissing k .joining k
  | join {k} (duty : k.duty = .stopped) : Closes .joining k .resettingCommands k
  | resetCommands {k} : Closes .resettingCommands k .resettingReplies
      { k with commands := k.commands.shutdown }
  | resetReplies {k} : Closes .resettingReplies k .marking { k with replies := k.replies.shutdown }
  | mark {k} : Closes .marking k .releasing { k with closed := true }
  | release {k} : Closes .releasing k (.done (.ok ())) { k with released := true }

/-- What a client does to the skeleton that sends a command. -/
inductive Sends : SendStage → Skeleton → SendStage → Skeleton → Prop where
  | write {k command patience deadline queue} (write : k.commands.write command = .done queue) :
      Sends (.writing command patience) k (.awaiting deadline) { k with commands := queue }
  | failToWrite {k command patience e} (shut : k.commands.isShutDown = true) :
      Sends (.writing command patience) k (.done (.error e)) k
  | read {k deadline reply queue} (read : k.replies.read = .done (reply, queue)) :
      Sends (.awaiting deadline) k (.done (.ok reply)) { k with replies := queue }
  | failToRead {k deadline e} (shut : k.replies.isShutDown = true) :
      Sends (.awaiting deadline) k (.done (.error e)) k
  | expire {k deadline} : Sends (.awaiting deadline) k .givingUp k
  | giveUp {k} :
      Sends .givingUp k (.done (.error .timeout)) { k with replies := k.replies.shutdown }

end Skeleton

end AudioStream
