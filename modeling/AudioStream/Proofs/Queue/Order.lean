import AudioStream.Proofs.Queue.Waking

/-!
# Messages pass through a queue in order

Many threads may be in calls on a queue at the same time, some of them asleep. Whoever sees the calls being
made and returning knows what is in the queue: the messages that were written and have not been read yet,
in the order in which they were written. A queue is shut down for good. From then on every call fails that
would have waited, and what is left can only be taken without waiting.

The main statement is `Ledger.fifo_of_reaches`.
-/

open Relation

namespace AudioStream

variable {α : Type}

namespace QueueCall

/-- The message that a call is to write. -/
def message? : QueueCall α → Option α
  | write item => some item
  | read | readTimed => none

end QueueCall

namespace QueueOutcome

/-- The message that a call has returned. -/
def message? : QueueOutcome α → Option α
  | took item => some item
  | wrote | nothing | failed _ => none

end QueueOutcome

namespace MessageQueue

variable {q r : MessageQueue α} {item : α} {e : QueueError}

theorem capacity_of_read (h : q.read = .done (item, r)) : r.capacity = q.capacity := by
  unfold read at h
  split at h
  · cases h
  · split at h <;> cases h
    next hpop => exact capacity_of_pop hpop

theorem tryRead_nil (h : q.items = []) : q.tryRead = (none, q) := by
  rw [tryRead, pop_eq_none_iff.mpr h]

end MessageQueue

namespace Monitor

variable {m m' : Monitor α} {q r : MessageQueue α} {threads threads' : List (QueueThread α)}
  {call : QueueCall α} {outcome : QueueOutcome α}

/-! ## The end of a call -/

/-- The ways in which a call can end, each with what it does to the queue. -/
inductive Ends (q : MessageQueue α) : QueueCall α → QueueOutcome α → MessageQueue α → Prop where
  | wrote {item : α} {r : MessageQueue α} (isOpen : q.isShutDown = false)
      (items : r.items = q.items ++ [item]) (capacity : r.capacity = q.capacity)
      (stays : r.isShutDown = false) : Ends q (.write item) .wrote r
  | took {call : QueueCall α} {item : α} {r : MessageQueue α} (isOpen : q.isShutDown = false)
      (items : q.items = item :: r.items) (capacity : r.capacity = q.capacity)
      (stays : r.isShutDown = false) : Ends q call (.took item) r
  | nothing {call : QueueCall α} (isOpen : q.isShutDown = false) : Ends q call .nothing q
  | failed {call : QueueCall α} (isShutDown : q.isShutDown = true) : Ends q call (.failed .shutDown) q

theorem ends_of_read {last : Bool} (h : attempt q .read last = some (outcome, r)) (call : QueueCall α) :
    Ends q call outcome r := by
  unfold attempt at h
  dsimp only at h
  split at h
  next item queue hread =>
    cases h
    obtain ⟨hopen, hitems, hopen'⟩ := MessageQueue.of_read_eq_done hread
    exact .took hopen hitems (MessageQueue.capacity_of_read hread) hopen'
  next e hread =>
    cases h
    obtain rfl := MessageQueue.eq_shutDown_of_read hread
    exact .failed (MessageQueue.of_read_eq_failed hread)
  next hread =>
    split at h <;> cases h
    exact .nothing (MessageQueue.of_read_eq_waits hread).1

theorem ends_of_attempt {last : Bool} (h : attempt q call last = some (outcome, r)) :
    Ends q call outcome r := by
  cases call with
  | write item =>
    unfold attempt at h
    dsimp only at h
    split at h <;> cases h
    next hwrite =>
      obtain ⟨hopen, hitems, hopen'⟩ := MessageQueue.of_write_eq_done hwrite
      exact .wrote hopen hitems (MessageQueue.capacity_of_write hwrite) hopen'
    next e hwrite =>
      obtain rfl := MessageQueue.eq_shutDown_of_write hwrite
      exact .failed (MessageQueue.of_write_eq_failed hwrite)
  | read => exact ends_of_read h _
  | readTimed => exact ends_of_read h _

/-- On a queue that is shut down every attempt fails. -/
theorem attempt_of_isShutDown (h : q.isShutDown = true) (call : QueueCall α) (last : Bool) :
    attempt q call last = some (.failed .shutDown, q) := by
  cases call <;> simp [attempt, MessageQueue.write, MessageQueue.read, h]

/-! ## Who is in which call -/

/-- Nobody has come, and whoever is still there is in the same call. -/
def SameCalls (threads threads' : List (QueueThread α)) : Prop :=
  ∀ t ∈ threads', ∃ u ∈ threads, u.id = t.id ∧ u.call = t.call

theorem sameCalls_map {f : QueueThread α → QueueThread α} (h : ∀ t, (f t).id = t.id ∧ (f t).call = t.call) :
    SameCalls threads (threads.map f) := by
  intro t ht
  obtain ⟨u, hu, rfl⟩ := List.mem_map.mp ht
  exact ⟨u, hu, (h u).1.symm, (h u).2.symm⟩

theorem sameCalls_setPhase (id : Nat) (phase : Phase) (threads : List (QueueThread α)) :
    SameCalls threads (setPhase id phase threads) :=
  sameCalls_map fun t => by split <;> exact ⟨rfl, rfl⟩

theorem sameCalls_wake (p : QueueThread α → Bool) (threads : List (QueueThread α)) :
    SameCalls threads (wake p threads) :=
  sameCalls_map fun t => by split <;> exact ⟨rfl, rfl⟩

theorem sameCalls_notify (readers : Bool) (chosen : Nat) (threads : List (QueueThread α)) :
    SameCalls threads (notify readers chosen threads) := by
  unfold notify
  dsimp only
  split
  · exact sameCalls_wake _ threads
  · split
    · exact sameCalls_wake _ threads
    · exact fun t ht => ⟨t, ht, rfl, rfl⟩

theorem sameCalls_notifyFor (outcome : QueueOutcome α) (chosen : Nat) (threads : List (QueueThread α)) :
    SameCalls threads (notifyFor outcome chosen threads) := by
  cases outcome with
  | wrote | took => exact sameCalls_notify _ chosen threads
  | nothing | failed => exact fun t ht => ⟨t, ht, rfl, rfl⟩

/-- When a thread runs, its call ends as the queue lets it, or the thread falls asleep. -/
inductive Turns (m : Monitor α) (id : Nat) : Monitor α → Option (QueueOutcome α) → Prop where
  | ends {t : QueueThread α} {outcome : QueueOutcome α} {queue : MessageQueue α} (mem : t ∈ m.threads)
      (here : t.id = id) (ends : Ends m.queue t.call outcome queue) (chosen : Nat) :
      Turns m id { m with
        queue
        threads := notifyFor outcome chosen (m.threads.filter fun u => u.id != id) } (some outcome)
  | sleeps : Turns m id { m with threads := setPhase id .asleep m.threads } none

theorem turns_of_step {id chosen : Nat} {result : Option (QueueOutcome α)}
    (h : m.step (.run id chosen) = some (m', result)) : m.Turns id m' result := by
  simp only [step] at h
  split at h
  next => cases h
  next t hfind =>
    obtain ⟨l₁, l₂, hhere, hid, -⟩ := find?_middle hfind
    split at h <;> cases h
    next => exact .sleeps
    next hattempt => exact .ends (by simp [hhere]) hid (ends_of_attempt hattempt) chosen

end Monitor

/-! ## What is known of the calls -/

/-- A monitor, and what can be seen of the calls on it from outside. -/
structure Ledger (α : Type) where
  monitor : Monitor α
  /-- The calls that have been made. The place of a call is the number of its thread. -/
  calls : List (QueueCall α) := []
  /-- The messages of the writes that have succeeded, in the order in which they did. -/
  written : List α := []
  /-- The messages that have been read in any way, in the order in which they were. -/
  taken : List α := []
  /-- Whether someone has shut the queue down. -/
  isOver : Bool := false

namespace Ledger

/-- Enters an event: a call that is made, or the outcome of one that returns. -/
def see (σ : Ledger α) (event : Monitor.Event α) (outcome : Option (QueueOutcome α)) (m : Monitor α) :
    Ledger α where
  monitor := m
  calls := match event with
    | .enter call => σ.calls ++ [call]
    | _ => σ.calls
  written := match event, outcome with
    | .run id _, some .wrote => σ.written ++ (σ.calls[id]?.bind QueueCall.message?).toList
    | _, _ => σ.written
  taken := σ.taken ++ (outcome.bind QueueOutcome.message?).toList
  isOver := match event with
    | .shutdown => true
    | _ => σ.isOver

/-- Anything that can happen to a queue and the threads at it. -/
inductive Step (σ : Ledger α) : Ledger α → Prop where
  | happen {event : Monitor.Event α} {outcome : Option (QueueOutcome α)} {m : Monitor α}
      (h : σ.monitor.step event = some (m, outcome)) : Step σ (σ.see event outcome m)

structure Inv (capacity : Nat) (σ : Ledger α) : Prop where
  waking : σ.monitor.Inv
  next : σ.monitor.next = σ.calls.length
  /-- The number of a thread leads to the call that it is in. -/
  calls : ∀ t ∈ σ.monitor.threads, σ.calls[t.id]? = some t.call
  capacity : σ.monitor.queue.capacity = capacity
  isOver : σ.isOver = σ.monitor.queue.isShutDown
  order : σ.taken ++ σ.monitor.queue.items = σ.written

variable {σ τ : Ledger α} {capacity : Nat} {m : Monitor α} {outcome : Option (QueueOutcome α)}

theorem Inv.sameCalls {threads : List (QueueThread α)} (inv : Inv capacity σ)
    (h : Monitor.SameCalls σ.monitor.threads threads) : ∀ t ∈ threads, σ.calls[t.id]? = some t.call := by
  intro t ht
  obtain ⟨u, hu, hid, hcall⟩ := h t ht
  rw [← hid, ← hcall]
  exact inv.calls u hu

theorem Inv.enter (inv : Inv capacity σ) {call : QueueCall α}
    (h : σ.monitor.step (.enter call) = some (m, outcome)) :
    Inv capacity (σ.see (.enter call) outcome m) := by
  have waking := Monitor.inv_step inv.waking ⟨_, _, h⟩
  cases h
  refine ⟨waking, by simp [see, inv.next], ?_, inv.capacity, inv.isOver, ?_⟩
  · intro t ht
    rcases List.mem_append.mp ht with ht | ht
    · exact getElem?_append_of_some (inv.calls t ht) call
    · rw [List.mem_singleton.mp ht, inv.next]
      exact List.getElem?_concat_length
  · simpa [see] using inv.order

/-- What leaves the queue alone, and who is in which call, breaks nothing. -/
theorem Inv.congr (inv : Inv capacity σ) (waking : m.Inv) (next : m.next = σ.monitor.next)
    (queue : m.queue = σ.monitor.queue) (same : Monitor.SameCalls σ.monitor.threads m.threads) :
    Inv capacity { σ with monitor := m } where
  waking := waking
  next := next.trans inv.next
  calls := inv.sameCalls same
  capacity := queue ▸ inv.capacity
  isOver := queue ▸ inv.isOver
  order := queue ▸ inv.order

/-- An event without an outcome is seen only if it is a call that is made, or a shutdown. -/
theorem see_none (event : Monitor.Event α) (m : Monitor α) (noEntry : ∀ call, event ≠ .enter call)
    (noEnd : event ≠ .shutdown) : σ.see event none m = { σ with monitor := m } := by
  cases event with
  | enter call => exact absurd rfl (noEntry call)
  | shutdown => exact absurd rfl noEnd
  | run | stir | expire | tryRead => simp [see]

theorem Inv.run (inv : Inv capacity σ) {id chosen : Nat}
    (h : σ.monitor.step (.run id chosen) = some (m, outcome)) :
    Inv capacity (σ.see (.run id chosen) outcome m) := by
  have waking := Monitor.inv_step inv.waking ⟨_, _, h⟩
  cases Monitor.turns_of_step h with
  | sleeps =>
    rw [see_none (.run id chosen) _ nofun nofun]
    exact inv.congr waking rfl rfl (Monitor.sameCalls_setPhase _ _ _)
  | @ends t result queue mem here hends chosen =>
    have hsame : Monitor.SameCalls σ.monitor.threads
        (Monitor.notifyFor result chosen (σ.monitor.threads.filter fun u => u.id != id)) := by
      intro u hu
      obtain ⟨v, hv, hsame⟩ := Monitor.sameCalls_notifyFor _ _ _ u hu
      exact ⟨v, List.mem_of_mem_filter hv, hsame⟩
    -- What is entered as written is the message of the call that the thread is in.
    have hcall : σ.calls[id]? = some t.call := here ▸ inv.calls t mem
    generalize t.call = call at hends hcall
    cases hends with
    | wrote isOpen items hcapacity stays =>
      refine ⟨waking, inv.next, inv.sameCalls hsame, hcapacity.trans inv.capacity, ?_, ?_⟩
      · exact inv.isOver.trans (isOpen.trans stays.symm)
      · simp only [see, hcall, items, Option.bind_some, QueueCall.message?, Option.toList_some,
          QueueOutcome.message?, Option.toList_none, List.append_nil]
        rw [← List.append_assoc, inv.order]
    | took isOpen items hcapacity stays =>
      refine ⟨waking, inv.next, inv.sameCalls hsame, hcapacity.trans inv.capacity, ?_, ?_⟩
      · exact inv.isOver.trans (isOpen.trans stays.symm)
      · have horder := inv.order
        rw [items] at horder
        simpa [see, QueueOutcome.message?] using horder
    | nothing | failed =>
      refine ⟨waking, inv.next, inv.sameCalls hsame, inv.capacity, inv.isOver, ?_⟩
      simpa [see, QueueOutcome.message?] using inv.order

/-- A thread wakes for no reason, or its time is over. -/
theorem Inv.rouse (inv : Inv capacity σ) {event : Monitor.Event α} {id : Nat}
    (hevent : event = .stir id ∨ event = .expire id)
    (h : σ.monitor.step event = some (m, outcome)) : Inv capacity (σ.see event outcome m) := by
  have waking := Monitor.inv_step inv.waking ⟨_, _, h⟩
  obtain ⟨phase, rfl, rfl⟩ : ∃ phase, outcome = none ∧
      m = { σ.monitor with threads := Monitor.setPhase id phase σ.monitor.threads } := by
    rcases hevent with rfl | rfl <;>
    · simp only [Monitor.step] at h
      split at h <;> cases h
      exact ⟨_, rfl, rfl⟩
  rw [see_none event _ (by rcases hevent with rfl | rfl <;> simp) (by rcases hevent with rfl | rfl <;> simp)]
  exact inv.congr waking rfl rfl (Monitor.sameCalls_setPhase _ _ _)

theorem Inv.tryRead (inv : Inv capacity σ) {chosen : Nat}
    (h : σ.monitor.step (.tryRead chosen) = some (m, outcome)) :
    Inv capacity (σ.see (.tryRead chosen) outcome m) := by
  have waking := Monitor.inv_step inv.waking ⟨_, _, h⟩
  simp only [Monitor.step, MessageQueue.tryRead] at h
  cases hpop : σ.monitor.queue.pop with
  | none =>
    rw [hpop] at h
    cases h
    refine ⟨waking, inv.next, inv.calls, inv.capacity, inv.isOver, ?_⟩
    simpa [see, QueueOutcome.message?] using inv.order
  | some popped =>
    rw [hpop] at h
    cases h
    refine ⟨waking, inv.next, inv.sameCalls (Monitor.sameCalls_notify _ _ _), ?_, ?_, ?_⟩
    · exact (MessageQueue.capacity_of_pop hpop).trans inv.capacity
    · exact inv.isOver.trans (MessageQueue.isShutDown_of_pop hpop).symm
    · have horder := inv.order
      rw [MessageQueue.items_of_pop hpop] at horder
      simpa [see, QueueOutcome.message?] using horder

theorem Inv.shutdown (inv : Inv capacity σ)
    (h : σ.monitor.step .shutdown = some (m, outcome)) : Inv capacity (σ.see .shutdown outcome m) := by
  have waking := Monitor.inv_step inv.waking ⟨_, _, h⟩
  cases h
  refine ⟨waking, inv.next, inv.sameCalls (Monitor.sameCalls_wake _ _), inv.capacity, rfl, ?_⟩
  simpa [see] using inv.order

theorem inv_step (inv : Inv capacity σ) (h : Step σ τ) : Inv capacity τ := by
  obtain ⟨h⟩ := h
  rename_i event outcome m
  cases event with
  | enter call => exact inv.enter h
  | run id chosen => exact inv.run h
  | stir id => exact inv.rouse (.inl rfl) h
  | expire id => exact inv.rouse (.inr rfl) h
  | tryRead chosen => exact inv.tryRead h
  | shutdown => exact inv.shutdown h

theorem inv_of_reaches (inv : Inv capacity σ) (h : ReflTransGen Step σ τ) : Inv capacity τ := by
  induction h with
  | refl => exact inv
  | tail _ hstep ih => exact inv_step ih hstep

/-! ## A queue that is shut down -/

/-- Nobody sleeps at a queue that is shut down, and whoever is in a call fails. -/
theorem Inv.run_of_isOver (inv : Inv capacity σ) (hover : σ.isOver = true) {t : QueueThread α}
    (ht : t ∈ σ.monitor.threads) (chosen : Nat) : σ.monitor.step (.run t.id chosen) =
      some ({ σ.monitor with threads := σ.monitor.threads.filter fun u => u.id != t.id },
        some (.failed .shutDown)) := by
  have hshut : σ.monitor.queue.isShutDown = true := inv.isOver.symm.trans hover
  have hfind := Monitor.find?_eq_of_mem inv.waking.nodup ht (inv.waking.up hshut t ht)
  simp only [QueueThread.isUp] at hfind
  simp only [Monitor.step, hfind, Monitor.attempt_of_isShutDown hshut, Monitor.notifyFor]

/-- What is left in a queue that is shut down can only be taken, from the front. -/
theorem Inv.step_of_isOver (inv : Inv capacity σ) (hover : σ.isOver = true) (h : Step σ τ) :
    τ.isOver = true ∧ τ.written = σ.written ∧
      ∃ popped, σ.monitor.queue.items = popped ++ τ.monitor.queue.items ∧ τ.taken = σ.taken ++ popped := by
  have hshut : σ.monitor.queue.isShutDown = true := inv.isOver.symm.trans hover
  have hinv := inv_step inv h
  have hover : τ.isOver = true := by
    obtain ⟨h⟩ := h
    simp only [see]
    split
    · rfl
    · exact hover
  have hwritten : τ.written = σ.written := by
    obtain ⟨h⟩ := h
    simp only [see]
    split
    next id chosen =>
      cases Monitor.turns_of_step h with
      | ends _ _ hends =>
        generalize QueueThread.call _ = call at hends
        cases hends with
        | wrote isOpen => cases hshut.symm.trans isOpen
    next => rfl
  obtain ⟨popped, htaken⟩ : ∃ popped, τ.taken = σ.taken ++ popped := by
    obtain ⟨h⟩ := h
    exact ⟨_, rfl⟩
  refine ⟨hover, hwritten, popped, ?_, htaken⟩
  have horder := hinv.order
  rw [hwritten, htaken, ← inv.order, List.append_assoc] at horder
  exact (List.append_cancel_left horder).symm

theorem Inv.final (inv : Inv capacity σ) (hover : σ.isOver = true) (h : ReflTransGen Step σ τ) :
    τ.isOver = true ∧ τ.written = σ.written ∧
      ∃ popped, σ.monitor.queue.items = popped ++ τ.monitor.queue.items ∧ τ.taken = σ.taken ++ popped := by
  induction h with
  | refl => exact ⟨hover, rfl, [], rfl, (List.append_nil _).symm⟩
  | tail hreach hstep ih =>
    obtain ⟨hover, hwritten, popped, hitems, htaken⟩ := ih
    obtain ⟨hover', hwritten', popped', hitems', htaken'⟩ :=
      (inv_of_reaches inv hreach).step_of_isOver hover hstep
    refine ⟨hover', hwritten'.trans hwritten, popped ++ popped', ?_, ?_⟩
    · rw [hitems, hitems', List.append_assoc]
    · rw [htaken', htaken, List.append_assoc]

/-! ## The order of messages -/

/-- The queue is a bounded buffer that keeps messages in their order, and is shut down for good. -/
structure IsFifo (capacity : Nat) (σ : Ledger α) : Prop where
  length_le : σ.monitor.queue.length ≤ capacity
  /-- What has been read, and what is in the queue, is what has been written. -/
  order : σ.taken ++ σ.monitor.queue.items = σ.written
  /-- A call that fails or finds nothing leaves the queue and the other calls as they are. -/
  unchanged : ∀ (id chosen : Nat) (outcome : QueueOutcome α) (m : Monitor α),
    σ.monitor.step (.run id chosen) = some (m, some outcome) → outcome.isDone = false →
      m = { σ.monitor with threads := σ.monitor.threads.filter fun t => t.id != id }
  /-- Whoever does not wait gets the first message, also from a queue that is shut down. -/
  tryRead_cons : ∀ (chosen : Nat) (item : α) (rest : List α), σ.monitor.queue.items = item :: rest →
    ∃ m, σ.monitor.step (.tryRead chosen) = some (m, some (.took item)) ∧ m.queue.items = rest
  tryRead_nil : ∀ chosen : Nat, σ.monitor.queue.items = [] →
    σ.monitor.step (.tryRead chosen) = some (σ.monitor, some .nothing)
  /-- Once the queue is shut down every call fails that was or is made, with or without a time limit. -/
  fails : σ.isOver = true → ∀ t ∈ σ.monitor.threads, ∀ chosen, ∃ m,
    σ.monitor.step (.run t.id chosen) = some (m, some (.failed .shutDown))
  /-- It stays shut down, and what was left in it is all that is ever read. -/
  final : σ.isOver = true → ∀ τ, ReflTransGen Step σ τ → τ.isOver = true ∧ τ.written = σ.written ∧
    ∃ popped, σ.monitor.queue.items = popped ++ τ.monitor.queue.items ∧ τ.taken = σ.taken ++ popped

theorem unchanged_of_turns {id : Nat} {outcome : QueueOutcome α}
    (h : σ.monitor.Turns id m (some outcome)) (hdone : outcome.isDone = false) :
    m = { σ.monitor with threads := σ.monitor.threads.filter fun t => t.id != id } := by
  cases h with
  | ends _ _ hends =>
    generalize QueueThread.call _ = call at hends
    cases hends with
    | nothing | failed => rfl
    | wrote | took => cases hdone

theorem tryRead_of_cons {item : α} {rest : List α} (h : σ.monitor.queue.items = item :: rest)
    (chosen : Nat) :
    ∃ m, σ.monitor.step (.tryRead chosen) = some (m, some (.took item)) ∧ m.queue.items = rest := by
  cases hpop : σ.monitor.queue.pop with
  | none =>
    rw [MessageQueue.pop_eq_none_iff.mp hpop] at h
    cases h
  | some popped =>
    obtain ⟨first, queue⟩ := popped
    have hitems := MessageQueue.items_of_pop hpop
    rw [h] at hitems
    cases hitems
    exact ⟨{ σ.monitor with queue, threads := Monitor.notify false chosen σ.monitor.threads },
      by simp only [Monitor.step, MessageQueue.tryRead, hpop], rfl⟩

theorem Inv.isFifo (inv : Inv capacity σ) : σ.IsFifo capacity where
  length_le := inv.capacity ▸ σ.monitor.queue.length_le
  order := inv.order
  unchanged _ _ _ _ h := unchanged_of_turns (Monitor.turns_of_step h)
  tryRead_cons chosen _ _ h := tryRead_of_cons h chosen
  tryRead_nil chosen h := by simp only [Monitor.step, MessageQueue.tryRead_nil h]
  fails hover t ht chosen := ⟨_, inv.run_of_isOver hover ht chosen⟩
  final hover _ h := inv.final hover h

/-- For every capacity there is a queue, and whatever the threads at it do, in whatever order they are
woken and run: it never holds more messages than it has room for, the messages that have been read are the
first of those that have been written, a call that fails or finds nothing changes nothing, and once the
queue is shut down all calls fail but for those that take what is left without waiting. -/
theorem fifo_of_reaches {capacity : Nat} (pos : 0 < capacity) : ∃ queue : MessageQueue α,
    MessageQueue.ofCapacity capacity = .ok queue ∧
    ∀ σ, ReflTransGen Step { monitor := { queue } } σ → σ.IsFifo capacity := by
  let queue : MessageQueue α := ⟨capacity, [], false, pos, Nat.zero_le _⟩
  refine ⟨queue, by rw [MessageQueue.ofCapacity, dif_pos pos], fun σ hσ => ?_⟩
  have waking : Monitor.Inv ({ queue } : Monitor α) := Monitor.inv_of_reaches .refl
  have hinit : Inv capacity ({ monitor := { queue } } : Ledger α) :=
    ⟨waking, rfl, by simp, rfl, rfl, rfl⟩
  exact (inv_of_reaches hinit hσ).isFifo

/-- Makes events happen one after the other. -/
def play (σ : Ledger α) : List (Monitor.Event α) → Option (Ledger α)
  | [] => some σ
  | event :: events =>
    match σ.monitor.step event with
    | some (m, outcome) => (σ.see event outcome m).play events
    | none => none

theorem reaches_of_play (events : List (Monitor.Event α)) (h : σ.play events = some τ) :
    ReflTransGen Step σ τ := by
  induction events generalizing σ with
  | nil =>
    cases h
    exact .refl
  | cons event events ih =>
    rw [play] at h
    split at h
    next hstep => exact (ih h).head (.happen hstep)
    next => cases h

/-- A queue that was shut down with one message in it, and with a writer who waited for room. -/
def interrupted : Ledger Nat where
  monitor := {
    queue := ⟨1, [6], true, Nat.one_pos, Nat.le_refl 1⟩
    threads := [⟨3, .write 7, .woken⟩]
    next := 4 }
  calls := [.write 5, .write 6, .readTimed, .write 7]
  written := [5, 6]
  taken := [5]
  isOver := true

/-- The second write waited until the first message had been read. The third one fails, and what is left is
taken without waiting. -/
theorem fifo_of_reaches_interrupted : 0 < 1 ∧
    ∃ queue : MessageQueue Nat, MessageQueue.ofCapacity 1 = .ok queue ∧
      ReflTransGen Step { monitor := { queue } } interrupted ∧
      interrupted.taken ++ interrupted.monitor.queue.items = interrupted.written ∧
      (∃ m, interrupted.monitor.step (.run 3 0) = some (m, some (.failed .shutDown))) ∧
      ∃ m, interrupted.monitor.step (.tryRead 0) = some (m, some (.took 6)) ∧ m.queue.items = [] := by
  obtain ⟨queue, hqueue, hfifo⟩ := @fifo_of_reaches Nat 1 Nat.one_pos
  have hsingle : queue = ⟨1, [], false, by decide, by decide⟩ := (Except.ok.inj hqueue).symm
  subst hsingle
  have hreach : ReflTransGen Step { monitor := { queue := ⟨1, [], false, by decide, by decide⟩ } }
      interrupted :=
    reaches_of_play [.enter (.write 5), .run 0 0, .enter (.write 6), .run 1 0, .enter .readTimed, .run 2 0,
      .run 1 0, .enter (.write 7), .run 3 0, .shutdown] rfl
  have fifo := hfifo interrupted hreach
  exact ⟨Nat.one_pos, _, hqueue, hreach, fifo.order,
    fifo.fails rfl ⟨3, .write 7, .woken⟩ (by simp [interrupted]) 0, fifo.tryRead_cons 0 6 [] rfl⟩

end Ledger

end AudioStream
