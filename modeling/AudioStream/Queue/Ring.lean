import AudioStream.Queue.Data

/-!
# Data queues on a ring of bytes

The bytes of a data queue are kept in a ring. A ring takes as many bytes of a slice as it has room for, and
fills as much of a slice as it has bytes for. The queue looks first whether that is the whole slice: it moves
all of a slice or nothing.
-/

namespace AudioStream

/-- The operations of rings of bytes. -/
class ByteRing (ρ : Type) where
  ofCapacity (capacity : Nat) (pos : 0 < capacity) : ρ
  /-- The number of bytes that are in the ring. -/
  occupied : ρ → Nat
  /-- The number of bytes that there is room for. -/
  vacant : ρ → Nat
  /-- Puts bytes of a slice into the ring: how many, and the ring after it. -/
  push : List UInt8 → ρ → Nat × ρ
  /-- Takes bytes out of the ring into the front of a slice: how many, the slice and the ring after it. -/
  pop : List UInt8 → ρ → Nat × List UInt8 × ρ

/-- A data queue that keeps its bytes in a ring. -/
structure RingQueue (ρ : Type) where
  ring : ρ
  capacity : Nat

namespace RingQueue

variable {ρ : Type} [ByteRing ρ]

def ofCapacity (capacity : Nat) : Except QueueError (RingQueue ρ) :=
  if h : 0 < capacity then .ok ⟨ByteRing.ofCapacity capacity h, capacity⟩ else .error .invalidCapacity

def readable (q : RingQueue ρ) : Nat := ByteRing.occupied q.ring

def writable (q : RingQueue ρ) : Nat := ByteRing.vacant q.ring

/-- Appends all of the bytes, or nothing if there is no room for them, and says which. -/
def write (bytes : List UInt8) (q : RingQueue ρ) : Bool × RingQueue ρ :=
  if q.writable < bytes.length then (false, q)
  else
    let (moved, ring) := ByteRing.push bytes q.ring
    (moved == bytes.length, { q with ring })

/-- Fills all of a slice, or nothing if there are not enough bytes, and says which. -/
def read (out : List UInt8) (q : RingQueue ρ) : Bool × List UInt8 × RingQueue ρ :=
  if q.readable < out.length then (false, out, q)
  else
    let (moved, out', ring) := ByteRing.pop out q.ring
    (moved == out.length, out', { q with ring })

end RingQueue

/-! ## Cells that are used over and over -/

/-- A position on a round of the given size, when it may have gone on into the next round. -/
def wrap (size position : Nat) : Nat := if position < size then position else position - size

/-- How far apart two positions are on two rounds of `size` cells. -/
def gap (size front back : Nat) : Nat := wrap (2 * size) (2 * size + back - front)

section Positions

variable {size front back position : Nat}

theorem wrap_lt (h : position < 2 * size) : wrap size position < size := by
  unfold wrap
  split <;> omega

theorem gap_back (hback : back < 2 * size) (hfront : front < 2 * size) (h : gap size front back < size) :
    gap size front (wrap (2 * size) (back + 1)) = gap size front back + 1 := by
  unfold gap wrap at *
  split at h <;> split <;> split <;> omega

theorem gap_front (hback : back < 2 * size) (hfront : front < 2 * size) (h : 0 < gap size front back) :
    gap size (wrap (2 * size) (front + 1)) back = gap size front back - 1 := by
  unfold gap wrap at *
  split at h <;> split <;> split <;> omega

end Positions

/-- A ring in cells that are used over and over. Its two positions go round twice before they begin again, so
that a ring that is full differs from one that is empty. -/
structure Circle where
  cells : Array UInt8
  /-- Where the oldest byte is. -/
  front : Nat := 0
  /-- Where the next byte goes. -/
  back : Nat := 0
  front_lt : front < 2 * cells.size
  back_lt : back < 2 * cells.size
  gap_le : gap cells.size front back ≤ cells.size

namespace Circle

def ofCapacity (capacity : Nat) (pos : 0 < capacity) : Circle where
  cells := Array.replicate capacity 0
  front_lt := by simpa using pos
  back_lt := by simpa using pos
  gap_le := by simp [gap, wrap]

def occupied (c : Circle) : Nat := gap c.cells.size c.front c.back

def vacant (c : Circle) : Nat := c.cells.size - c.occupied

/-- Puts a byte behind the others. -/
def put (b : UInt8) (c : Circle) (h : c.occupied < c.cells.size) : Circle where
  cells := c.cells.set (wrap c.cells.size c.back) b (wrap_lt c.back_lt)
  front := c.front
  back := wrap (2 * c.cells.size) (c.back + 1)
  front_lt := by simpa using c.front_lt
  back_lt := by
    have := c.back_lt
    simpa using wrap_lt (by omega)
  gap_le := by
    rw [Array.size_set, gap_back c.back_lt c.front_lt h]
    exact h

/-- The oldest byte. -/
def first (c : Circle) : UInt8 :=
  have := wrap_lt c.front_lt
  c.cells[wrap c.cells.size c.front]

/-- Leaves the oldest byte behind. -/
def drop (c : Circle) (h : 0 < c.occupied) : Circle where
  cells := c.cells
  front := wrap (2 * c.cells.size) (c.front + 1)
  back := c.back
  front_lt := wrap_lt (by have := c.front_lt; omega)
  back_lt := c.back_lt
  gap_le := by
    rw [gap_front c.back_lt c.front_lt h]
    have := c.gap_le
    omega

def push : List UInt8 → Circle → Nat × Circle
  | [], c => (0, c)
  | b :: bytes, c =>
    if h : c.occupied < c.cells.size then
      let (moved, c) := push bytes (c.put b h)
      (moved + 1, c)
    else (0, c)

def pop : List UInt8 → Circle → Nat × List UInt8 × Circle
  | [], c => (0, [], c)
  | x :: out, c =>
    if h : 0 < c.occupied then
      let (moved, out, rest) := pop out (c.drop h)
      (moved + 1, c.first :: out, rest)
    else (0, x :: out, c)

instance : ByteRing Circle where
  ofCapacity := ofCapacity
  occupied := occupied
  vacant := vacant
  push := push
  pop := pop

end Circle

end AudioStream
