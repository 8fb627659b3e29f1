import AudioStream.Proofs.Queue.Message
import AudioStream.Queue.Monitor
import Mathlib.Data.List.Nodup

/-!
# The threads of a monitor

The threads in a call on a queue are told apart by their numbers. Whoever falls asleep, is woken or leaves
is one thread, and all the others stay as they are: a list of threads is taken apart at this one. What a
thread finds at the queue when it tries depends on the supply of its kind, which is messages for those who
read and free slots for those who write.
-/

namespace AudioStream

namespace QueueThread

variable {α : Type}

/-- Whether a thread sleeps that waits for a message, or one that waits for room. -/
def sleeps (readers : Bool) (t : QueueThread α) : Bool := t.call.isRead == readers && t.phase == .asleep

/-- Whether a thread has been woken to look for a message, or for room, and is not yet running. -/
def isWoken (readers : Bool) (t : QueueThread α) : Bool := t.call.isRead == readers && t.phase == .woken

/-- Whether a thread can run. -/
def isUp (t : QueueThread α) : Bool := t.phase != .asleep

theorem sleeps_of_isUp {t : QueueThread α} (h : t.isUp = true) (readers : Bool) :
    t.sleeps readers = false := by
  simp only [isUp, bne_iff_ne, ne_eq] at h
  simp [sleeps, h]

theorem isUp_of_isWoken {readers : Bool} {t : QueueThread α} (h : t.isWoken readers = true) :
    t.call.isRead = readers ∧ t.isUp = true := by
  simp only [isWoken, Bool.and_eq_true, beq_iff_eq] at h
  simp [isUp, h]

end QueueThread

namespace QueueOutcome

/-- Whether a call has done what it was made for. -/
def isDone {α : Type} : QueueOutcome α → Bool
  | wrote | took _ => true
  | nothing | failed _ => false

end QueueOutcome

namespace MessageQueue

variable {α : Type}

/-- What there is for those who wait: messages for readers, and free slots for writers. -/
def supply (q : MessageQueue α) (readers : Bool) : Nat :=
  if readers then q.items.length else q.capacity - q.items.length

/-- Someone took what there was for one kind of threads, and so left something for the other kind. -/
structure Serves (q r : MessageQueue α) (readers : Bool) : Prop where
  taken : r.supply readers + 1 = q.supply readers
  left : r.supply (!readers) = q.supply (!readers) + 1
  isShutDown : r.isShutDown = q.isShutDown

theorem capacity_of_pop {q r : MessageQueue α} {item : α} (h : q.pop = some (item, r)) :
    r.capacity = q.capacity := by
  unfold pop at h
  split at h <;> cases h
  rfl

theorem serves_of_pop {q r : MessageQueue α} {item : α} (h : q.pop = some (item, r)) :
    q.Serves r true := by
  have hitems := congrArg List.length (items_of_pop h)
  have hcapacity := capacity_of_pop h
  have hle := q.length_le
  rw [List.length_cons] at hitems
  constructor
  · simp [supply, hitems]
  · simp only [supply, Bool.not_true, Bool.false_eq_true, if_false]
    omega
  · exact isShutDown_of_pop h

theorem capacity_of_write {q r : MessageQueue α} {item : α} (h : q.write item = .done r) :
    r.capacity = q.capacity := by
  unfold write at h
  split at h
  · cases h
  · split at h <;> cases h
    rfl

theorem serves_of_write {q r : MessageQueue α} {item : α} (h : q.write item = .done r) :
    q.Serves r false := by
  obtain ⟨hopen, hitems, hopen'⟩ := of_write_eq_done h
  have hcapacity := capacity_of_write h
  have hle := r.length_le
  have hlength : r.items.length = q.items.length + 1 := by simp [hitems]
  constructor
  · simp only [supply, Bool.false_eq_true, if_false]
    omega
  · simp [supply, hlength]
  · rw [hopen, hopen']

theorem supply_of_write_waits {q : MessageQueue α} {item : α} (h : q.write item = .waits) :
    q.supply false = 0 := by
  unfold write at h
  split at h
  · cases h
  · split at h
    · cases h
    · simp only [supply, Bool.false_eq_true, if_false]
      omega

end MessageQueue

namespace Monitor

variable {α : Type} {threads l₁ l₂ : List (QueueThread α)} {t : QueueThread α} {readers : Bool}

/-! ## One thread among the others -/

theorem ne_id_of_nodup (h : ((l₁ ++ t :: l₂).map QueueThread.id).Nodup) :
    ∀ u ∈ l₁ ++ l₂, u.id ≠ t.id := by
  intro u hu
  rw [List.map_append, List.map_cons, List.nodup_middle, List.nodup_cons, ← List.map_append] at h
  exact fun he => h.1 (he ▸ List.mem_map_of_mem hu)

theorem map_middle {f : QueueThread α → QueueThread α} (h : ∀ u ∈ l₁ ++ l₂, f u = u) :
    (l₁ ++ t :: l₂).map f = l₁ ++ f t :: l₂ := by
  have hfront : l₁.map f = l₁ := by
    rw [List.map_congr_left fun u hu => h u (List.mem_append_left _ hu), List.map_id']
  have hback : l₂.map f = l₂ := by
    rw [List.map_congr_left fun u hu => h u (List.mem_append_right _ hu), List.map_id']
  rw [List.map_append, List.map_cons, hfront, hback]

theorem setPhase_middle (h : ((l₁ ++ t :: l₂).map QueueThread.id).Nodup) (phase : Phase) :
    setPhase t.id phase (l₁ ++ t :: l₂) = l₁ ++ { t with phase } :: l₂ := by
  have hothers := ne_id_of_nodup h
  rw [setPhase, map_middle fun u hu => by simp [hothers u hu]]
  simp

theorem wake_middle (h : ((l₁ ++ t :: l₂).map QueueThread.id).Nodup)
    (hs : t.sleeps readers = true) :
    wake (fun u => u.id == t.id) (l₁ ++ t :: l₂) = l₁ ++ { t with phase := .woken } :: l₂ := by
  have hothers := ne_id_of_nodup h
  have hasleep : t.phase = .asleep := by
    simp only [QueueThread.sleeps, Bool.and_eq_true, beq_iff_eq] at hs
    exact hs.2
  rw [wake, map_middle fun u hu => by simp [hothers u hu]]
  simp [hasleep]

theorem filter_middle (h : ((l₁ ++ t :: l₂).map QueueThread.id).Nodup) :
    (l₁ ++ t :: l₂).filter (fun u => u.id != t.id) = l₁ ++ l₂ := by
  have hothers : ∀ u ∈ l₁ ++ l₂, (u.id != t.id) = true := by
    intro u hu
    simp [ne_id_of_nodup h u hu]
  rw [List.filter_append, List.filter_cons_of_neg (by simp), ← List.filter_append,
    List.filter_eq_self.mpr hothers]

/-- Of the threads of a kind that sleep one is woken, if there is one. -/
inductive Notified (readers : Bool) : List (QueueThread α) → List (QueueThread α) → Prop where
  | nobody {threads : List (QueueThread α)} (h : ∀ t ∈ threads, t.sleeps readers = false) :
      Notified readers threads threads
  | one {l₁ l₂ : List (QueueThread α)} {t : QueueThread α} (h : t.sleeps readers = true) :
      Notified readers (l₁ ++ t :: l₂) (l₁ ++ { t with phase := .woken } :: l₂)

theorem notified_of_mem (h : (threads.map QueueThread.id).Nodup) (hmem : t ∈ threads)
    (hs : t.sleeps readers = true) :
    Notified readers threads (wake (fun u => u.id == t.id) threads) := by
  obtain ⟨l₁, l₂, rfl⟩ := List.append_of_mem hmem
  rw [wake_middle h hs]
  exact .one hs

theorem notified_notify (h : (threads.map QueueThread.id).Nodup) (readers : Bool) (chosen : Nat) :
    Notified readers threads (notify readers chosen threads) := by
  have hsleeps : ∀ t : QueueThread α, t.sleeps readers = (t.phase == .asleep && t.call.isRead == readers) :=
    fun t => Bool.and_comm _ _
  unfold notify
  dsimp only
  split
  next t hfind =>
    have hmem := List.mem_of_find?_eq_some hfind
    rw [List.mem_filter, ← hsleeps] at hmem
    exact notified_of_mem h hmem.1 hmem.2
  next =>
    split
    next t rest hsleepers =>
      have hmem : t ∈ threads.filter fun t => t.phase == .asleep && t.call.isRead == readers := by
        rw [hsleepers]
        exact List.mem_cons_self
      rw [List.mem_filter, ← hsleeps] at hmem
      exact notified_of_mem h hmem.1 hmem.2
    next hsleepers =>
      refine .nobody fun t ht => ?_
      rw [List.filter_eq_nil_iff] at hsleepers
      rw [hsleeps]
      exact Bool.eq_false_iff.mpr (hsleepers t ht)

/-! ## A thread that tries -/

/-- What becomes of a call when its thread tries. -/
inductive Tried (q : MessageQueue α) (call : QueueCall α) :
    Option (QueueOutcome α × MessageQueue α) → Prop where
  | served {outcome : QueueOutcome α} {r : MessageQueue α} (h : q.Serves r call.isRead)
      (isDone : outcome.isDone = true) (isOpen : q.isShutDown = false)
      (notifies : ∀ chosen threads, notifyFor outcome chosen threads = notify (!call.isRead) chosen threads) :
      Tried q call (some (outcome, r))
  /-- The queue is shut down, or the time is over. -/
  | leaves {outcome : QueueOutcome α} (h : q.isShutDown = true ∨ q.supply call.isRead = 0)
      (notifies : ∀ chosen threads, notifyFor outcome chosen threads = threads) :
      Tried q call (some (outcome, q))
  | sleeps (isOpen : q.isShutDown = false) (h : q.supply call.isRead = 0) : Tried q call none

theorem tried_read {call : QueueCall α} (q : MessageQueue α) (last : Bool) (hc : call.isRead = true)
    (h : attempt q call last = attempt q .read last) : Tried q call (attempt q call last) := by
  rw [h]
  unfold attempt
  dsimp only
  split
  next item r hread =>
    obtain ⟨hopen, -, -⟩ := MessageQueue.of_read_eq_done hread
    have hserves : q.Serves r true := by
      unfold MessageQueue.read at hread
      simp only [hopen, Bool.false_eq_true, if_false] at hread
      split at hread <;> cases hread
      next hpop => exact MessageQueue.serves_of_pop hpop
    exact .served (hc ▸ hserves) rfl hopen (by simp [hc, notifyFor])
  next hread => exact .leaves (.inl (MessageQueue.of_read_eq_failed hread)) (by simp [notifyFor])
  next hread =>
    obtain ⟨hopen, hempty⟩ := MessageQueue.of_read_eq_waits hread
    have hnone : q.supply call.isRead = 0 := by simp [hc, MessageQueue.supply, hempty]
    split
    next => exact .leaves (.inr hnone) (by simp [notifyFor])
    next => exact .sleeps hopen hnone

theorem tried (q : MessageQueue α) (call : QueueCall α) (last : Bool) :
    Tried q call (attempt q call last) := by
  cases call with
  | write item =>
    unfold attempt
    dsimp only
    split
    next r hwrite =>
      obtain ⟨hopen, -, -⟩ := MessageQueue.of_write_eq_done hwrite
      exact .served (MessageQueue.serves_of_write hwrite) rfl hopen
        (by simp [QueueCall.isRead, notifyFor])
    next hwrite => exact .leaves (.inl (MessageQueue.of_write_eq_failed hwrite)) (by simp [notifyFor])
    next hwrite =>
      exact .sleeps (MessageQueue.of_write_eq_waits hwrite).1 (MessageQueue.supply_of_write_waits hwrite)
  | read => exact tried_read q last rfl rfl
  | readTimed => exact tried_read q last rfl rfl

end Monitor

end AudioStream
