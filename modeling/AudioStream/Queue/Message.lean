import AudioStream.Error

/-!
# Message queues

A message queue holds a bounded number of messages in the order in which they were written, and can be
shut down for good.  Each operation here is one attempt, made while no other thread touches the queue:
it succeeds, it fails because the queue is shut down, or it has to wait.  Waiting is the business of
`AudioStream.Queue.Monitor`.
-/

namespace AudioStream

/-- A bounded queue of messages. -/
structure MessageQueue (α : Type) where
  capacity : Nat
  items : List α := []
  isShutDown : Bool := false
  capacity_pos : 0 < capacity
  length_le : items.length ≤ capacity := by simp

/-- What comes of one attempt. -/
inductive Attempt (α : Type) where
  | done (result : α)
  | failed (error : QueueError)
  | waits

namespace MessageQueue

variable {α : Type}

def ofCapacity (capacity : Nat) : Except QueueError (MessageQueue α) :=
  if h : 0 < capacity then
    .ok { capacity, items := [], capacity_pos := h, length_le := Nat.zero_le capacity }
  else .error .invalidCapacity

def single : MessageQueue α := { capacity := 1, capacity_pos := Nat.one_pos }

def isValid (q : MessageQueue α) : Bool := !q.isShutDown

def length (q : MessageQueue α) : Nat := q.items.length

def isEmpty (q : MessageQueue α) : Bool := q.items.isEmpty

def write (q : MessageQueue α) (item : α) : Attempt (MessageQueue α) :=
  if q.isShutDown then .failed .shutDown
  else if h : q.items.length < q.capacity then
    .done { q with
      items := q.items ++ [item]
      length_le := by simp only [List.length_append, List.length_singleton]; omega }
  else .waits

/-- The queue without its first message, together with that message. -/
def pop (q : MessageQueue α) : Option (α × MessageQueue α) :=
  match h : q.items with
  | [] => none
  | item :: items =>
    some (item, { q with
      items
      length_le := by have := q.length_le; rw [h] at this; simp at this; omega })

def read (q : MessageQueue α) : Attempt (α × MessageQueue α) :=
  if q.isShutDown then .failed .shutDown
  else
    match q.pop with
    | some taken => .done taken
    | none => .waits

/-- Takes the first message if there is one, also from a queue that is shut down. -/
def tryRead (q : MessageQueue α) : Option α × MessageQueue α :=
  match q.pop with
  | some (item, q) => (some item, q)
  | none => (none, q)

/-- Shuts the queue down.  Its messages stay. -/
def shutdown (q : MessageQueue α) : MessageQueue α := { q with isShutDown := true }

theorem pop_eq_none_iff {q : MessageQueue α} : q.pop = none ↔ q.items = [] := by
  unfold pop
  split <;> simp_all

theorem items_of_pop {q r : MessageQueue α} {item : α} (h : q.pop = some (item, r)) :
    q.items = item :: r.items := by
  unfold pop at h
  split at h
  · simp at h
  · cases h
    assumption

@[simp] theorem isShutDown_shutdown (q : MessageQueue α) : q.shutdown.isShutDown = true := rfl

@[simp] theorem items_shutdown (q : MessageQueue α) : q.shutdown.items = q.items := rfl

end MessageQueue

end AudioStream
