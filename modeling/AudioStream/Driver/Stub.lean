import AudioStream.Driver.Basic
import AudioStream.Transport

/-!
# The stub driver

The stub driver stands in for hardware.  Every control call succeeds, and a transfer moves all frames
that it is asked for, provided that the buffer can hold them.  A capture transfer fills the buffer with
noise, which is never the byte 255.  A transfer takes a little less time than the frames take to play,
unless the client is notified of what becomes of a burst.  How many bytes the frames take up is a product of
two words, and it depends on the build of the program what becomes of one that needs more than a word.
-/

namespace AudioStream

/-- What a build of the program does about a product of two words that needs more than a word. -/
inductive Overflow where
  /-- The program stops, as in a build for development. -/
  | stops
  /-- The product is taken modulo the size of a word, as in a build for release. -/
  | wraps

namespace Overflow

/-- The product of two words; nothing if the program stops. -/
def product : Overflow → Nat → Nat → Option Nat
  | stops, a, b => if a * b < UInt64.size then some (a * b) else none
  | wraps, a, b => some (a * b % UInt64.size)

end Overflow

structure Stub where
  frameSize : Nat
  sampleRate : UInt32
  notifies : Bool
  isInput : Bool
  /-- The state of the noise; it is never zero. -/
  noise : UInt32

namespace Stub

/-- A stub driver for a stream.  The noise starts from a seed. -/
def ofTransport (t : Transport) (isInput : Bool) (seed : UInt32) : Stub where
  frameSize := t.frameSize
  sampleRate := t.geometry.sampleRate
  notifies := t.notifies
  isInput := isInput
  noise := seed ||| 1

def controlTime : Nat := 500000

/-- The time of a transfer in nanoseconds: four fifths of the time that the frames take to play, to the
nearest microsecond. -/
def transferTime (d : Stub) (frames : Nat) : Nat :=
  if d.notifies || d.sampleRate == 0 then controlTime
  else (2 * 800000 * frames + d.sampleRate.toNat) / (2 * d.sampleRate.toNat) * 1000

def nextNoise (x : UInt32) : UInt32 :=
  let x := x ^^^ (x <<< 13)
  let x := x ^^^ (x >>> 17)
  x ^^^ (x <<< 5)

/-- The given number of bytes of noise, added in reverse order in front of some bytes, and the state of
the noise after them. -/
def noiseBytes : Nat → UInt32 → List UInt8 → List UInt8 × UInt32
  | 0, x, bytes => (bytes, x)
  | n + 1, x, bytes =>
    let x := nextNoise x
    noiseBytes n x (UInt8.ofNat (x.toNat % 255) :: bytes)

/-- What a transfer leaves behind, and the driver after it, if the frames are found to take up `count`
bytes. -/
def answered (d : Stub) (buffer : List UInt8) (frames count : Nat) : TransferAnswer × Stub :=
  if buffer.length < count then
    (⟨buffer, .error (.bufferTooSmall (UInt64.ofNat frames) (UInt64.ofNat buffer.length))⟩, d)
  else if d.isInput then
    let (bytes, noise) := noiseBytes count d.noise []
    (⟨bytes ++ buffer.drop count, .ok ⟨frames, nominalLatency⟩⟩, { d with noise })
  else (⟨buffer, .ok ⟨frames, nominalLatency⟩⟩, d)

/-- A transfer in a build of the program; nothing if the program stops. -/
def attempt (o : Overflow) (d : Stub) (buffer : List UInt8) (frames : Nat) :
    Option (TransferAnswer × Stub) :=
  (o.product frames d.frameSize).map (d.answered buffer frames)

/-- A transfer in a build in which products wrap.  A worker asks only for frames that its buffer has room
for, and there the builds do the same. -/
def transferred (d : Stub) (buffer : List UInt8) (frames : Nat) : TransferAnswer × Stub :=
  d.answered buffer frames (frames * d.frameSize % UInt64.size)

instance : Driver Stub where
  prepare d := (.ok (), d)
  control _ d := (⟨.ok (), controlTime⟩, d)
  transfer buffer frames d :=
    let (answer, after) := d.transferred buffer frames
    let time := match answer.result with
      | .ok _ => d.transferTime frames
      | .error _ => 0
    (⟨(answer, []), time⟩, after)

theorem length_noiseBytes (n : Nat) (x : UInt32) (bytes : List UInt8) :
    (noiseBytes n x bytes).1.length = n + bytes.length := by
  induction n generalizing x bytes with
  | zero => simp [noiseBytes]
  | succ n ih =>
    rw [noiseBytes, ih]
    simp
    omega

end Stub

end AudioStream
