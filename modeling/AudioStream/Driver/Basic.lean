import AudioStream.Device
import AudioStream.Error
import AudioStream.Protocol.Command

/-!
# Drivers

A driver moves frames between a buffer and the hardware.  It is prepared once, and from then on is
called by the worker of its stream only.  A transfer leaves something in its buffer and tells how many
frames it moved and what the latency is.  A call takes some time, and a driver may use the stream during
a transfer: it may write to the data queue and change the connected devices.
-/

namespace AudioStream

/-- The calls that change the mode of the hardware. -/
inductive Control where
  | drain (mode : DrainMode)
  | flush
  | pause
  | standby
  deriving DecidableEq

namespace Control

def name : Control → String
  | drain _ => "drain"
  | flush => "flush"
  | pause => "pause"
  | standby => "standby"

end Control

inductive DriverCall where
  | control (call : Control)
  /-- Moves frames between the hardware and a buffer that holds the given bytes. -/
  | transfer (buffer : List UInt8) (frames : Nat)

/-- What a transfer that succeeds tells. -/
structure TransferResult where
  frames : Nat
  latency : Int32

/-- What a transfer leaves behind: the first bytes of its buffer, and its result. -/
structure TransferAnswer where
  buffer : List UInt8
  result : Except DriverError TransferResult

/-- How a driver uses the stream during a transfer. -/
inductive DriverUse where
  /-- Writes to the data queue, all of the bytes or none. -/
  | inject (bytes : List UInt8)
  | connect (devices : List Device)

/-- What comes of a call: the answer, and the time that the call takes, in nanoseconds. -/
structure Timed (α : Type) where
  answer : α
  duration : Nat

/-- The states of a driver and what its calls do. -/
class Driver (σ : Type) where
  prepare : σ → Except DriverError Unit × σ
  control : Control → σ → Timed (Except DriverError Unit) × σ
  transfer : List UInt8 → Nat → σ → Timed (TransferAnswer × List DriverUse) × σ

/-- A millisecond in nanoseconds. -/
def millisecond : Nat := 1000000

/-- The latency in milliseconds that is told when nothing better is known. -/
def nominalLatency : Int32 := 10

end AudioStream
