import AudioStream.Datum.Keyed

/-!
# Geometry of a stream

A frame holds one sample per channel, so the size of a frame is the size of a sample times the number
of channels.  A geometry whose frames are empty cannot be streamed.
-/

namespace AudioStream

inductive SampleFormat where
  /-- Not specified; such samples have no size. -/
  | default
  | pcmU8
  | pcm16
  | pcm24Packed
  | pcm32
  | pcm8_24
  | pcmFloat
  /-- Compressed data, moved as bytes. -/
  | encoded
  deriving DecidableEq, Inhabited

namespace SampleFormat

def bytesPerSample : SampleFormat → Nat
  | default => 0
  | pcmU8 | encoded => 1
  | pcm16 => 2
  | pcm24Packed => 3
  | pcm32 | pcm8_24 | pcmFloat => 4

instance : Keyed SampleFormat where
  values := [default, pcmU8, pcm16, pcm24Packed, pcm32, pcm8_24, pcmFloat, encoded]
  key
    | default => "default"
    | pcmU8 => "pcm_u8"
    | pcm16 => "pcm16_bit"
    | pcm24Packed => "pcm24_bit_packed"
    | pcm32 => "pcm32_bit"
    | pcm8_24 => "pcm_8_24_bit"
    | pcmFloat => "pcm_float"
    | encoded => "encoded"
  mem_values a := by cases a <;> simp
  key_inj a b := by cases a <;> cases b <;> simp

end SampleFormat

/-- The number of ones in the binary numeral of a word. -/
def bitCount (bits : UInt32) : Nat :=
  ((List.range 32).filter fun i => bits.toNat.testBit i).length

inductive ChannelLayout where
  | none
  | mono
  | stereo
  | quad
  | surround5_1
  | surround7_1
  /-- A set of loudspeaker positions, one bit per channel. -/
  | mask (bits : UInt32)
  /-- A set of channel numbers, one bit per channel. -/
  | indexMask (bits : UInt32)
  deriving DecidableEq, Inhabited

namespace ChannelLayout

def channelCount : ChannelLayout → Nat
  | none => 0
  | mono => 1
  | stereo => 2
  | quad => 4
  | surround5_1 => 6
  | surround7_1 => 8
  | mask bits | indexMask bits => bitCount bits

end ChannelLayout

/-- What the frames of a stream look like and how fast they pass. -/
structure Geometry where
  format : SampleFormat
  layout : ChannelLayout
  sampleRate : UInt32
  deriving DecidableEq

namespace Geometry

def frameSize (g : Geometry) : Nat := g.format.bytesPerSample * g.layout.channelCount

end Geometry

end AudioStream
