import AudioStream.Queue.Message

/-!
# Waiting on a message queue

A monitor is a message queue together with the threads that are in a call on it.  A thread that has to
wait falls asleep.  A message that is written wakes one sleeping reader, if there is one; a message that
is taken wakes one sleeping writer; a shutdown wakes everyone.  A thread may also wake for no reason, and
a reader that waits for a limited time wakes when that time has run out.  A thread that is awake tries
again at some later moment.
-/

namespace AudioStream

/-- A call that may have to wait. -/
inductive QueueCall (α : Type) where
  | write (item : α)
  | read
  /-- A read that gives up after some time. -/
  | readTimed
  deriving DecidableEq

namespace QueueCall

/-- Whether a call waits for a message rather than for room. -/
def isRead {α : Type} : QueueCall α → Bool
  | write _ => false
  | read | readTimed => true

end QueueCall

inductive QueueOutcome (α : Type) where
  | wrote
  | took (item : α)
  /-- The time of the read ran out. -/
  | nothing
  | failed (error : QueueError)
  deriving DecidableEq

inductive Phase where
  | awake
  /-- Woken by another thread, and not yet running. -/
  | woken
  /-- Ready to try for the last time. -/
  | expired
  | asleep
  deriving DecidableEq

structure QueueThread (α : Type) where
  id : Nat
  call : QueueCall α
  phase : Phase

/-- A message queue and the threads in a call on it, in the order in which they came. -/
structure Monitor (α : Type) where
  queue : MessageQueue α
  threads : List (QueueThread α) := []
  /-- The number of the next thread that comes. -/
  next : Nat := 0

namespace Monitor

variable {α : Type}

/-- Wakes the threads of a list that satisfy a condition. -/
def wake (p : QueueThread α → Bool) (threads : List (QueueThread α)) : List (QueueThread α) :=
  threads.map fun t => if p t && t.phase == .asleep then { t with phase := .woken } else t

/-- Wakes one of the sleeping threads that wait for a message, or one of those that wait for room: the
one with the chosen number, or the first one if that is none of them. -/
def notify (readers : Bool) (chosen : Nat) (threads : List (QueueThread α)) :
    List (QueueThread α) :=
  let sleepers := threads.filter fun t => t.phase == .asleep && t.call.isRead == readers
  match sleepers.find? (fun t => t.id == chosen) with
  | some t => wake (fun u => u.id == t.id) threads
  | none =>
    match sleepers with
    | t :: _ => wake (fun u => u.id == t.id) threads
    | [] => threads

/-- One attempt of a call: its outcome and the queue after it, or nothing if it has to wait. -/
def attempt (q : MessageQueue α) (call : QueueCall α) (last : Bool) :
    Option (QueueOutcome α × MessageQueue α) :=
  match call with
  | .write item =>
    match q.write item with
    | .done q => some (.wrote, q)
    | .failed e => some (.failed e, q)
    | .waits => none
  | .read | .readTimed =>
    match q.read with
    | .done (item, q) => some (.took item, q)
    | .failed e => some (.failed e, q)
    | .waits => if last then some (.nothing, q) else none

/-- Whom an outcome wakes. -/
def notifyFor (outcome : QueueOutcome α) (chosen : Nat) (threads : List (QueueThread α)) :
    List (QueueThread α) :=
  match outcome with
  | .wrote => notify true chosen threads
  | .took _ => notify false chosen threads
  | .nothing | .failed _ => threads

inductive Event (α : Type) where
  | enter (call : QueueCall α)
  /-- A thread that is awake tries; if that wakes another one, it is the chosen one. -/
  | run (id chosen : Nat)
  /-- A sleeping thread wakes for no reason. -/
  | stir (id : Nat)
  | expire (id : Nat)
  | tryRead (chosen : Nat)
  | shutdown

def setPhase (id : Nat) (phase : Phase) (threads : List (QueueThread α)) : List (QueueThread α) :=
  threads.map fun t => if t.id == id then { t with phase } else t

/-- What an event does, and the outcome of the call that it ends; nothing if the event cannot
happen. -/
def step (m : Monitor α) (event : Event α) : Option (Monitor α × Option (QueueOutcome α)) :=
  match event with
  | .enter call =>
    some ({ m with threads := m.threads ++ [⟨m.next, call, .awake⟩], next := m.next + 1 }, none)
  | .run id chosen =>
    match m.threads.find? (fun t => t.id == id && t.phase != .asleep) with
    | none => none
    | some t =>
      match attempt m.queue t.call (t.phase == .expired) with
      | none => some ({ m with threads := setPhase id .asleep m.threads }, none)
      | some (outcome, queue) =>
        let others := m.threads.filter fun u => u.id != id
        some ({ m with queue, threads := notifyFor outcome chosen others }, some outcome)
  | .stir id =>
    match m.threads.find? (fun t => t.id == id && t.phase == .asleep) with
    | none => none
    | some _ => some ({ m with threads := setPhase id .awake m.threads }, none)
  | .expire id =>
    match m.threads.find? (fun t => t.id == id && t.phase == .asleep && t.call matches .readTimed) with
    | none => none
    | some _ => some ({ m with threads := setPhase id .expired m.threads }, none)
  | .tryRead chosen =>
    match m.queue.tryRead with
    | (some item, queue) =>
      some ({ m with queue, threads := notify false chosen m.threads }, some (.took item))
    | (none, _) => some (m, some .nothing)
  | .shutdown =>
    some ({ m with queue := m.queue.shutdown, threads := wake (fun _ => true) m.threads }, none)

end Monitor

end AudioStream
