import AudioStream.Geometry

/-!
# Configuration

A configuration has three parts: how a stream is opened, the parameters that bend its behaviour for
debugging, and the filter of the log.  Each part, and each of its fields, has a default.
-/

namespace AudioStream

/-- What a stream is opened with. -/
structure StreamConfig where
  format : SampleFormat := .pcm16
  layout : ChannelLayout := .stereo
  sampleRate : UInt32 := 48000
  bufferFrames : Int64 := 1024
  deriving DecidableEq

namespace StreamConfig

def geometry (c : StreamConfig) : Geometry := ⟨c.format, c.layout, c.sampleRate⟩

end StreamConfig

/-- Parameters for debugging; none of them is part of the contract of a stream. -/
structure DebugParameters where
  /-- How long a transient state lasts before it resolves, in milliseconds. -/
  transientDelay : UInt32 := 0
  /-- Makes every playback burst one frame short, which keeps the stream out of the active state. -/
  shortBursts : Bool := false
  /-- Makes a drain of an active playback stream end at once. -/
  synchronousDrain : Bool := false
  deriving DecidableEq

structure LoggingConfig where
  filter : String := "info"
  deriving DecidableEq

structure Config where
  stream : StreamConfig := {}
  debug : DebugParameters := {}
  logging : LoggingConfig := {}
  deriving DecidableEq

end AudioStream
