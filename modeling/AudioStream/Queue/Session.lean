import AudioStream.Queue.Monitor

/-!
# A client of one message queue

A client works on a queue and leaves a call that has to wait to a helper, which can take one call at a
time.  The call ends when a later operation of the client lets it.
-/

namespace AudioStream

/-- A queue in use by a client, and the call that the helper is in. -/
structure QueueSession (α : Type) where
  monitor : Monitor α
  pending : Option Nat := none

namespace QueueSession

variable {α : Type}

inductive Action (α : Type) where
  | write (item : α)
  | read
  /-- A read of limited time; a patient one is worth the helper. -/
  | readTimed (patient : Bool)
  | tryRead
  | shutdown

inductive Result (α : Type) where
  | done (outcome : QueueOutcome α)
  | shutDown
  /-- The call went to the helper. -/
  | blocked
  /-- The call would go to the helper, who is in another; it is not made. -/
  | refused

def ofCapacity (capacity : Nat) : Except QueueError (QueueSession α) :=
  (MessageQueue.ofCapacity capacity).map fun queue => { monitor := { queue } }

/-- Makes an event happen and gives the outcome of the call that it ends. -/
def happen (s : QueueSession α) (event : Monitor.Event α) : QueueSession α × Option (QueueOutcome α) :=
  match s.monitor.step event with
  | some (monitor, outcome) => ({ s with monitor }, outcome)
  | none => (s, none)

/-- Starts a call.  One that has to wait is left to the helper, or is given up if it is not patient. -/
def start (s : QueueSession α) (call : QueueCall α) (patient : Bool) : QueueSession α × Result α :=
  let id := s.monitor.next
  let (entered, _) := s.happen (.enter call)
  match entered.happen (.run id 0) with
  | (after, some outcome) => (after, .done outcome)
  | (asleep, none) =>
    if patient then
      match s.pending with
      | some _ => (s, .refused)
      | none => ({ asleep with pending := some id }, .blocked)
    else
      let (expired, _) := asleep.happen (.expire id)
      match expired.happen (.run id 0) with
      | (after, some outcome) => (after, .done outcome)
      | (after, none) => (after, .refused)

def act (s : QueueSession α) : Action α → QueueSession α × Result α
  | .write item => s.start (.write item) true
  | .read => s.start .read true
  | .readTimed patient => s.start .readTimed patient
  | .tryRead =>
    match s.happen (.tryRead 0) with
    | (after, some outcome) => (after, .done outcome)
    | (after, none) => (after, .refused)
  | .shutdown => ((s.happen .shutdown).1, .shutDown)

/-- Lets the helper try, if someone has woken it. -/
def complete (s : QueueSession α) : QueueSession α × Option (QueueOutcome α) :=
  match s.pending with
  | none => (s, none)
  | some id =>
    match s.happen (.run id 0) with
    | (after, some outcome) => ({ after with pending := none }, some outcome)
    | (after, none) => (after, none)

/-- Carries out an action: what the client sees of it, and the outcome of the helper's call if that
ends. -/
def perform (s : QueueSession α) (action : Action α) :
    QueueSession α × Result α × Option (QueueOutcome α) :=
  match s.act action with
  | (after, .blocked) => (after, .blocked, none)
  | (after, result) =>
    let (after, completed) := after.complete
    (after, result, completed)

/-- Shuts the queue down to end the helper's call, and gives its outcome. -/
def finish (s : QueueSession α) : Option (QueueOutcome α) :=
  (s.happen .shutdown).1.complete.2

end QueueSession

end AudioStream
