import AudioStream.Text.Decimal

/-!
# Errors

An error names its cause; the wording is given once, by the `message` functions.  What a command did is
no error: it is told by the status of the reply.
-/

namespace AudioStream

inductive TransportError where
  | nonPositiveBufferSize (frames : Int64)
  | bufferTooSmall (frames minimum : Int64)
  | bufferTooLarge (frames maximum : Int64)
  | invalidFrameSize
  | invalidQueue (queue : String)
  | quantumSizeMismatch (size : UInt64)
  deriving DecidableEq

namespace TransportError

def message : TransportError → String
  | nonPositiveBufferSize frames =>
    "Non-positive buffer size: " ++ Decimal.text frames.toInt ++ " frames"
  | bufferTooSmall frames minimum =>
    "Insufficient buffer size " ++ Decimal.text frames.toInt ++ " frames, must be at least "
      ++ Decimal.text minimum.toInt
  | bufferTooLarge frames maximum =>
    "Buffer size " ++ Decimal.text frames.toInt ++ " frames is too large, maximum is "
      ++ Decimal.text maximum.toInt
  | invalidFrameSize => "Could not calculate frame size"
  | invalidQueue queue => queue ++ " queue is invalid"
  | quantumSizeMismatch size => "Unexpected data queue quantum size: " ++ Decimal.text size.toNat

end TransportError

inductive QueueError where
  | invalidCapacity
  | shutDown
  | timeout
  deriving DecidableEq

namespace QueueError

def message : QueueError → String
  | invalidCapacity => "Queue capacity must be positive"
  | shutDown => "Queue was shut down"
  | timeout => "Timed out waiting on queue"

end QueueError

inductive DriverError where
  | callFailed (call : String) (status : Int32)
  | bufferTooSmall (requested available : UInt64)
  deriving DecidableEq

namespace DriverError

def message : DriverError → String
  | callFailed call status => call ++ " failed with status " ++ Decimal.text status.toInt
  | bufferTooSmall requested available =>
    "Transfer of " ++ Decimal.text requested.toNat ++ " frames does not fit a "
      ++ Decimal.text available.toNat ++ "-byte buffer"

end DriverError

/-- What can go wrong in the life of a stream.  The last three are reported by the worker while the
stream is open. -/
inductive StreamError where
  | alreadyClosed
  | closing
  | workerInit (reason : String)
  | workerSpawn (reason : String)
  | driverFailure (reason : String)
  | queueFailure (reason : String)
  | callback (reason : String)
  deriving DecidableEq

namespace StreamError

def message : StreamError → String
  | alreadyClosed => "Stream was already closed"
  | closing => "Stream is being closed"
  | workerInit reason => "Worker initialization failed: " ++ reason
  | workerSpawn reason => "Failed to spawn worker thread: " ++ reason
  | driverFailure reason => "Driver failure: " ++ reason
  | queueFailure reason => "Queue failure: " ++ reason
  | callback reason => "Async callback failed: " ++ reason

end StreamError

inductive FileError where
  | isADirectory
  | invalidData
  | other (reason : String)
  deriving DecidableEq

namespace FileError

def message : FileError → String
  | isADirectory => "Is a directory (os error 21)"
  | invalidData => "stream did not contain valid UTF-8"
  | other reason => reason

end FileError

/-- Any error of the library, by the part that it comes from. -/
inductive Error where
  | transport (cause : TransportError)
  | queue (cause : QueueError)
  | driver (cause : DriverError)
  | stream (cause : StreamError)
  | config (reason : String)
  | file (cause : FileError)
  deriving DecidableEq

namespace Error

/-- The wording of an error: the part that it comes from, then the cause. -/
def message : Error → String
  | transport cause => "Transport error: " ++ cause.message
  | queue cause => "Queue error: " ++ cause.message
  | driver cause => "Driver error: " ++ cause.message
  | stream cause => "Stream error: " ++ cause.message
  | config reason => "Configuration error: " ++ reason
  | file cause => "IO error: " ++ cause.message

/-- Whether an error says that the stream is closed or being closed. -/
def isIllegalState : Error → Bool
  | stream .alreadyClosed | stream .closing => true
  | _ => false

end Error

end AudioStream
