import AudioStream.Stream.Basic

/-!
# Closing a stream and sending commands

Anyone may close a stream, and several may try at the same time: the one who comes first does the work,
the others are refused.  Shutting the reply queue down unblocks a worker whose reply nobody reads; then
the exit command is written, and the worker is waited for.  A client that sends a command waits for its
reply for a limited time.  If no reply comes the reply queue is shut down, so that a late reply cannot
be taken for the reply to another command.
-/

namespace AudioStream

/-- Where someone stands who closes a stream. -/
inductive CloseStage where
  | arriving
  /-- Too late, about to see whether closing is over. -/
  | refused
  /-- About to shut the reply queue down. -/
  | silencing
  | dismissing
  | joining
  | resettingCommands
  | resettingReplies
  | marking
  | releasing
  | done (result : Except StreamError Unit)

/-- Where a client stands that sends a command. -/
inductive SendStage where
  | writing (command : Command) (patience : Nat)
  | awaiting (deadline : Nat)
  /-- About to shut the reply queue down. -/
  | givingUp
  | done (result : Except QueueError Reply)

namespace Stream

/-- A step of someone who closes the stream; nothing if it has to wait, or is done. -/
def closeStep (s : Stream) : CloseStage → Option (CloseStage × Stream)
  | .arriving => if s.taken then some (.refused, s) else some (.silencing, { s with taken := true })
  | .refused =>
    some (.done (.error (if s.released then .alreadyClosed else .closing)), s)
  | .silencing => some (.dismissing, s.shutdown .reply)
  | .dismissing =>
    match s.writeCommand (.exit s.setup.cookie) with
    | .done s => some (.joining, s)
    | .failed _ => some (.joining, s)
    | .waits => none
  | .joining =>
    match s.stage with
    | .stopped => some (.resettingCommands, s)
    | _ => none
  | .resettingCommands => some (.resettingReplies, s.shutdown .command)
  | .resettingReplies => some (.marking, s.shutdown .reply)
  | .marking => some (.releasing, { s with closed := true })
  | .releasing => some (.done (.ok ()), { s with released := true })
  | .done _ => none

def prepareToClose (s : Stream) : Except StreamError Unit :=
  if s.closed then .error .alreadyClosed else .ok ()

/-- A step of a client that sends a command; nothing if it has to wait, or is done. -/
def sendStep (now : Nat) (s : Stream) : SendStage → Option (SendStage × Stream)
  | .writing command patience =>
    match s.writeCommand command with
    | .done s => some (.awaiting (now + patience), s)
    | .failed e => some (.done (.error e), s)
    | .waits => none
  | .awaiting deadline =>
    match s.readReply with
    | .done (reply, s) => some (.done (.ok reply), s)
    | .failed e => some (.done (.error e), s)
    | .waits => if deadline ≤ now then some (.givingUp, s) else none
  | .givingUp => some (.done (.error .timeout), s.shutdown .reply)
  | .done _ => none

end Stream

end AudioStream
