import AudioStream.Error

/-!
# Data queues

A data queue carries the bytes of audio frames between the client and the worker.  It moves bytes in
their order, and all of a request or nothing: a write fails if there is not enough room, a read if there
are not enough bytes.
-/

namespace AudioStream

/-- A bounded queue of bytes. -/
structure DataQueue where
  capacity : Nat
  contents : List UInt8 := []
  capacity_pos : 0 < capacity
  length_le : contents.length ≤ capacity := by simp

namespace DataQueue

def ofCapacity (capacity : Nat) : Except QueueError DataQueue :=
  if h : 0 < capacity then .ok { capacity, capacity_pos := h } else .error .invalidCapacity

def quantumSize : Nat := 1

def quantumCount (q : DataQueue) : Nat := q.capacity / quantumSize

def isValid (q : DataQueue) : Bool := 0 < q.capacity

def readable (q : DataQueue) : Nat := q.contents.length

def writable (q : DataQueue) : Nat := q.capacity - q.contents.length

/-- Appends all of the given bytes, if there is room for them. -/
def write (q : DataQueue) (bytes : List UInt8) : Option DataQueue :=
  if h : bytes.length ≤ q.writable then
    some { q with
      contents := q.contents ++ bytes
      length_le := by
        have := q.length_le
        simp only [writable] at h
        simp only [List.length_append]
        omega }
  else none

/-- Takes the given number of bytes, if there are so many. -/
def read (q : DataQueue) (count : Nat) : Option (List UInt8 × DataQueue) :=
  if count ≤ q.readable then
    some (q.contents.take count, { q with
      contents := q.contents.drop count
      length_le := by have := q.length_le; simp only [List.length_drop]; omega })
  else none

theorem readable_add_writable (q : DataQueue) : q.readable + q.writable = q.capacity := by
  have := q.length_le
  simp only [readable, writable]
  omega

theorem write_isSome_iff {q : DataQueue} {bytes : List UInt8} :
    (q.write bytes).isSome ↔ bytes.length ≤ q.writable := by
  unfold write
  split <;> simp_all

theorem contents_of_write {q r : DataQueue} {bytes : List UInt8} (h : q.write bytes = some r) :
    r.contents = q.contents ++ bytes := by
  unfold write at h
  split at h
  · cases h
    rfl
  · simp at h

theorem capacity_of_write {q r : DataQueue} {bytes : List UInt8} (h : q.write bytes = some r) :
    r.capacity = q.capacity := by
  unfold write at h
  split at h
  · cases h
    rfl
  · simp at h

theorem read_isSome_iff {q : DataQueue} {count : Nat} :
    (q.read count).isSome ↔ count ≤ q.readable := by
  unfold read
  split <;> simp_all

theorem contents_of_read {q r : DataQueue} {count : Nat} {bytes : List UInt8}
    (h : q.read count = some (bytes, r)) : q.contents = bytes ++ r.contents := by
  unfold read at h
  split at h
  · cases h
    simp
  · simp at h

theorem length_of_read {q r : DataQueue} {count : Nat} {bytes : List UInt8}
    (h : q.read count = some (bytes, r)) : bytes.length = count := by
  unfold read at h
  split at h
  · next hc =>
    cases h
    simp only [readable] at hc
    simp only [List.length_take]
    omega
  · simp at h

theorem capacity_of_read {q r : DataQueue} {count : Nat} {bytes : List UInt8}
    (h : q.read count = some (bytes, r)) : r.capacity = q.capacity := by
  unfold read at h
  split at h
  · cases h
    rfl
  · simp at h

end DataQueue

end AudioStream
