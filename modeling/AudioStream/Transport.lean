import AudioStream.Config.Basic
import AudioStream.Protocol.Command
import AudioStream.Protocol.Reply
import AudioStream.Queue.Data
import AudioStream.Queue.Message

/-!
# The transport of a stream

A client and the worker of a stream share three queues: one for a single command, one for a single reply
and one for the bytes of the frames.  The data queue holds a whole number of frames.  A transport is set
up for a buffer of at least 256 frames and of at most 2 ^ 20 bytes.
-/

namespace AudioStream

/-- The queues of a stream, with the geometry and the parameters that it was set up with. -/
structure Transport where
  commands : MessageQueue Command := .single
  replies : MessageQueue Reply := .single
  data : DataQueue
  geometry : Geometry
  debug : DebugParameters
  /-- Whether the client wants to be told when a transient state resolves. -/
  notifies : Bool

inductive Channel where
  | command
  | reply
  deriving DecidableEq

namespace Transport

/-- The least size of a buffer in frames. -/
def minimumFrames : Int64 := 256

/-- The greatest size of a buffer in bytes. -/
def maximumBytes : Nat := 1 <<< 20

def frameSize (t : Transport) : Nat := t.geometry.frameSize

/-- Finds the first thing that is wrong with a transport, if there is one. -/
def validate (t : Transport) : Except TransportError Unit :=
  if !t.commands.isValid then .error (.invalidQueue "command")
  else if !t.replies.isValid then .error (.invalidQueue "reply")
  else if t.frameSize = 0 then .error .invalidFrameSize
  else if !t.data.isValid || t.data.capacity % t.frameSize ≠ 0 then .error (.invalidQueue "data")
  else .ok ()

def isValid (t : Transport) : Bool :=
  match t.validate with
  | .ok _ => true
  | .error _ => false

/-- The greatest number of frames of a size that a buffer can hold. -/
def maximumFrames (frameSize : Nat) : Int64 := Int64.ofNat (maximumBytes / frameSize)

/-- Sets up the queues for the frames that a configuration asks for. -/
def configure (config : StreamConfig) (debug : DebugParameters) (notifies : Bool) :
    Except Error Transport :=
  let frames := config.bufferFrames
  let frameSize := config.geometry.frameSize
  if frames ≤ 0 then .error (.transport (.nonPositiveBufferSize frames))
  else if frames < minimumFrames then .error (.transport (.bufferTooSmall frames minimumFrames))
  else if frameSize = 0 then .error (.transport .invalidFrameSize)
  else if maximumFrames frameSize < frames then
    .error (.transport (.bufferTooLarge frames (maximumFrames frameSize)))
  else do
    let data ← (DataQueue.ofCapacity (frameSize * frames.toInt.toNat)).mapError Error.queue
    let t : Transport := { data, geometry := config.geometry, debug, notifies }
    t.validate.mapError Error.transport
    return t

def bufferFrames (t : Transport) : Nat :=
  if t.frameSize = 0 then 0 else t.data.quantumCount * DataQueue.quantumSize / t.frameSize

def shutdown (t : Transport) : Channel → Transport
  | .command => { t with commands := t.commands.shutdown }
  | .reply => { t with replies := t.replies.shutdown }

def reset (t : Transport) : Transport := (t.shutdown .command).shutdown .reply

end Transport

/-- What a client is told about the queues of a stream. -/
structure Descriptor where
  frameSize : Nat
  bufferFrames : Nat
  capacity : Nat
  quantumSize : Nat
  quantumCount : Nat
  commandCapacity : Nat
  replyCapacity : Nat

namespace Descriptor

def bufferBytes (d : Descriptor) : Nat := d.frameSize * d.bufferFrames

end Descriptor

namespace Transport

def describe (t : Transport) : Descriptor where
  frameSize := t.frameSize
  bufferFrames := t.bufferFrames
  capacity := t.data.capacity
  quantumSize := DataQueue.quantumSize
  quantumCount := t.data.quantumCount
  commandCapacity := t.commands.capacity
  replyCapacity := t.replies.capacity

end Transport

end AudioStream
