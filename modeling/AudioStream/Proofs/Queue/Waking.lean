import AudioStream.Proofs.Queue.Threads
import Mathlib.Logic.Relation

/-!
# No wake-up is lost

Threads wait at a queue for messages or for room, and are woken one at a time. Between the moment at which
a thread is woken and the one at which it runs, anyone may come and take what it was woken for. Nevertheless
nobody is forgotten: as long as a thread of a kind sleeps, as many of its kind have been woken as there are
messages, or free slots, to go round.

The main statement is `Monitor.no_lost_wakeUp`.
-/

open Relation

namespace AudioStream

namespace Monitor

variable {α : Type} {m m' : Monitor α} {threads threads' l₁ l₂ : List (QueueThread α)}
  {t t' : QueueThread α} {readers : Bool} {n : Nat}

/-- How many threads sleep that wait for messages, or for room. -/
def sleepers (m : Monitor α) (readers : Bool) : Nat := m.threads.countP (·.sleeps readers)

/-- How many threads have been woken to look for messages, or for room, and are not yet running. -/
def woken (m : Monitor α) (readers : Bool) : Nat := m.threads.countP (·.isWoken readers)

/-! ## Those who are woken -/

/-- If a thread of a kind sleeps then at least so many others of its kind have been woken. -/
def Attended (n : Nat) (readers : Bool) (threads : List (QueueThread α)) : Prop :=
  0 < threads.countP (·.sleeps readers) → n ≤ threads.countP (·.isWoken readers)

theorem attended_zero (readers : Bool) (threads : List (QueueThread α)) : Attended 0 readers threads :=
  fun _ => Nat.zero_le _

theorem Attended.mono {k : Nat} (h : Attended n readers threads) (hle : k ≤ n) :
    Attended k readers threads :=
  fun hpos => Nat.le_trans hle (h hpos)

theorem attended_of_nobody (h : ∀ t ∈ threads, t.sleeps readers = false) : Attended n readers threads := by
  intro hpos
  rw [List.countP_eq_zero.mpr fun t ht => Bool.eq_false_iff.mp (h t ht)] at hpos
  exact absurd hpos (Nat.lt_irrefl 0)

theorem ite_one_le_of_imp {p q : Prop} [Decidable p] [Decidable q] (h : p → q) :
    (if p then 1 else 0) ≤ if q then 1 else 0 := by
  by_cases hp : p
  · simp [hp, h hp]
  · simp [hp]

theorem Attended.replace (h : Attended n readers (l₁ ++ t :: l₂))
    (hs : t'.sleeps readers = true → t.sleeps readers = true)
    (hw : t.isWoken readers = true → t'.isWoken readers = true) :
    Attended n readers (l₁ ++ t' :: l₂) := by
  simp only [Attended, List.countP_append, List.countP_cons] at h ⊢
  intro hpos
  have hsleeps := ite_one_le_of_imp hs
  have hwoken := ite_one_le_of_imp hw
  have hle := h (by omega)
  omega

/-- A thread that was up leaves, and takes what one of its kind could have had. -/
theorem Attended.leave (h : Attended (n + 1) readers (l₁ ++ t :: l₂)) (hup : t.isUp = true) :
    Attended n readers (l₁ ++ l₂) := by
  have hs := QueueThread.sleeps_of_isUp hup readers
  simp only [Attended, List.countP_append, List.countP_cons, hs, Bool.false_eq_true, if_false,
    Nat.add_zero] at h ⊢
  intro hpos
  have hle := h hpos
  split at hle <;> omega

theorem Attended.leave_other (h : Attended n readers (l₁ ++ t :: l₂)) (hkind : t.call.isRead = !readers) :
    Attended n readers (l₁ ++ l₂) := by
  have hs : t.sleeps readers = false := by simp [QueueThread.sleeps, hkind]
  have hw : t.isWoken readers = false := by simp [QueueThread.isWoken, hkind]
  simpa only [Attended, List.countP_append, List.countP_cons, hs, hw, Bool.false_eq_true, if_false,
    Nat.add_zero] using h

/-- Whoever leaves something wakes one who can take it. -/
theorem Attended.notified (h : Attended n readers threads) (hn : Notified readers threads threads') :
    Attended (n + 1) readers threads' := by
  cases hn with
  | nobody hnobody => exact attended_of_nobody hnobody
  | @one l₁ l₂ t hs =>
    have hkind : t.call.isRead = readers := by
      simp only [QueueThread.sleeps, Bool.and_eq_true, beq_iff_eq] at hs
      exact hs.1
    intro _
    have hle := h (List.countP_pos_iff.mpr ⟨t, by simp, hs⟩)
    have hw : t.isWoken readers = false := by
      simp only [QueueThread.sleeps, Bool.and_eq_true, beq_iff_eq] at hs
      simp [QueueThread.isWoken, hs.2]
    have hw' : QueueThread.isWoken readers { t with phase := .woken } = true := by
      simp [QueueThread.isWoken, hkind]
    simp only [List.countP_append, List.countP_cons, hw, hw', Bool.false_eq_true, if_false, if_true] at hle ⊢
    omega

theorem Attended.notified_other (h : Attended n readers threads)
    (hn : Notified (!readers) threads threads') : Attended n readers threads' := by
  cases hn with
  | nobody => exact h
  | @one l₁ l₂ t hs =>
    have hkind : t.call.isRead = !readers := by
      simp only [QueueThread.sleeps, Bool.and_eq_true, beq_iff_eq] at hs
      exact hs.1
    refine h.replace ?_ ?_ <;> simp [QueueThread.sleeps, QueueThread.isWoken, hkind]

/-! ## Steps -/

/-- A thread comes, runs, wakes by itself or gives up waiting, or someone takes a message or shuts the
queue down. -/
def Steps (m m' : Monitor α) : Prop := ∃ event outcome, m.step event = some (m', outcome)

/-- A thread that is up runs. -/
def Runs (m m' : Monitor α) : Prop := ∃ id chosen outcome, m.step (.run id chosen) = some (m', outcome)

/-- What happens when a thread runs: it is served and wakes another, it leaves, or it falls asleep. -/
inductive Ran (m : Monitor α) : Monitor α → Prop where
  | served {l₁ l₂ threads : List (QueueThread α)} {t : QueueThread α} {queue : MessageQueue α}
      (here : m.threads = l₁ ++ t :: l₂) (isUp : t.isUp = true)
      (serves : m.queue.Serves queue t.call.isRead) (isOpen : m.queue.isShutDown = false)
      (notified : Notified (!t.call.isRead) (l₁ ++ l₂) threads) : Ran m { m with queue, threads }
  | left {l₁ l₂ : List (QueueThread α)} {t : QueueThread α} (here : m.threads = l₁ ++ t :: l₂)
      (isUp : t.isUp = true) (reason : m.queue.isShutDown = true ∨ m.queue.supply t.call.isRead = 0) :
      Ran m { m with threads := l₁ ++ l₂ }
  | slept {l₁ l₂ : List (QueueThread α)} {t : QueueThread α} (here : m.threads = l₁ ++ t :: l₂)
      (isUp : t.isUp = true) (isOpen : m.queue.isShutDown = false)
      (nothing : m.queue.supply t.call.isRead = 0) :
      Ran m { m with threads := l₁ ++ { t with phase := .asleep } :: l₂ }

theorem find?_middle {p : QueueThread α → Bool} {id : Nat}
    (h : threads.find? (fun t => t.id == id && p t) = some t) :
    ∃ l₁ l₂, threads = l₁ ++ t :: l₂ ∧ t.id = id ∧ p t = true := by
  obtain ⟨l₁, l₂, hmiddle⟩ := List.append_of_mem (List.mem_of_find?_eq_some h)
  have hfound := List.find?_some h
  simp only [Bool.and_eq_true, beq_iff_eq] at hfound
  exact ⟨l₁, l₂, hmiddle, hfound⟩

theorem ran_of_step {id chosen : Nat} {outcome : Option (QueueOutcome α)}
    (hnodup : (m.threads.map QueueThread.id).Nodup)
    (h : m.step (.run id chosen) = some (m', outcome)) : m.Ran m' := by
  simp only [step] at h
  split at h
  next => cases h
  next t hfind =>
    obtain ⟨l₁, l₂, hhere, rfl, hup⟩ := find?_middle hfind
    rw [hhere] at hnodup
    rw [hhere, setPhase_middle hnodup, filter_middle hnodup] at h
    have htried := tried m.queue t.call (t.phase == .expired)
    revert htried h
    generalize attempt m.queue t.call (t.phase == .expired) = result
    intro h htried
    cases htried with
    | served hserves hdone hopen hnotifies =>
      have hothers : ((l₁ ++ l₂).map QueueThread.id).Nodup := by
        rw [List.map_append, List.map_cons, List.nodup_middle, List.nodup_cons] at hnodup
        rw [List.map_append]
        exact hnodup.2
      dsimp only at h
      rw [hnotifies] at h
      cases h
      exact .served hhere hup hserves hopen (notified_notify hothers _ chosen)
    | leaves hreason hnotifies =>
      dsimp only at h
      rw [hnotifies] at h
      cases h
      exact .left hhere hup hreason
    | sleeps hopen hnothing =>
      cases h
      exact .slept hhere hup hopen hnothing

/-! ## The invariant -/

structure Inv (m : Monitor α) : Prop where
  fresh : ∀ t ∈ m.threads, t.id < m.next
  nodup : (m.threads.map QueueThread.id).Nodup
  attended : ∀ readers, Attended (m.queue.supply readers) readers m.threads
  /-- Nobody sleeps at a queue that is shut down. -/
  up : m.queue.isShutDown = true → ∀ t ∈ m.threads, t.isUp = true

theorem Notified.map_id (h : Notified readers threads threads') :
    threads'.map QueueThread.id = threads.map QueueThread.id := by
  cases h with
  | nobody => rfl
  | one => simp

theorem Notified.isUp (h : Notified readers threads threads') (hup : ∀ t ∈ threads, t.isUp = true) :
    threads' = threads := by
  cases h with
  | nobody => rfl
  | @one l₁ l₂ t hs =>
    rw [QueueThread.sleeps_of_isUp (hup t (by simp)) readers] at hs
    cases hs

/-- The numbers of threads are fresh and distinct as long as there come no new ones. -/
theorem Inv.ids {ids : List Nat} (inv : Inv m) (h : threads.map QueueThread.id = ids)
    (hsub : ids.Sublist (m.threads.map QueueThread.id)) :
    (∀ t ∈ threads, t.id < m.next) ∧ (threads.map QueueThread.id).Nodup := by
  refine ⟨fun t ht => ?_, h ▸ inv.nodup.sublist hsub⟩
  have hmem : t.id ∈ m.threads.map QueueThread.id := hsub.subset (h ▸ List.mem_map_of_mem ht)
  obtain ⟨u, hu, hid⟩ := List.mem_map.mp hmem
  exact hid ▸ inv.fresh u hu

theorem sublist_middle (l₁ l₂ : List (QueueThread α)) (t : QueueThread α) :
    ((l₁ ++ l₂).map QueueThread.id).Sublist ((l₁ ++ t :: l₂).map QueueThread.id) :=
  (List.Sublist.append_left (List.sublist_cons_self t l₂) l₁).map _

theorem Inv.ran (inv : Inv m) (h : m.Ran m') : Inv m' := by
  cases h with
  | @served l₁ l₂ threads t queue hhere hup hserves hopen hnotified =>
    obtain ⟨hfresh, hnodup⟩ := inv.ids hnotified.map_id (hhere ▸ sublist_middle l₁ l₂ t)
    refine ⟨hfresh, hnodup, fun readers => ?_, fun hshut => ?_⟩
    · have hattended := inv.attended readers
      rw [hhere] at hattended
      by_cases hkind : t.call.isRead = readers
      · subst hkind
        rw [← hserves.taken] at hattended
        exact (hattended.leave hup).notified_other hnotified
      · have hother : t.call.isRead = !readers := by simpa using Bool.eq_not_of_ne hkind
        have hleft := hserves.left
        rw [hother, Bool.not_not] at hleft hnotified
        rw [hleft]
        exact (hattended.leave_other hother).notified hnotified
    · rw [hserves.isShutDown, hopen] at hshut
      cases hshut
  | @left l₁ l₂ t hhere hup hreason =>
    obtain ⟨hfresh, hnodup⟩ := inv.ids rfl (hhere ▸ sublist_middle l₁ l₂ t)
    have hrest : m.queue.isShutDown = true → ∀ u ∈ l₁ ++ l₂, u.isUp = true := by
      intro hshut u hu
      exact inv.up hshut u (hhere ▸ (List.Sublist.append_left (List.sublist_cons_self t l₂) l₁).subset hu)
    refine ⟨hfresh, hnodup, fun readers => ?_, hrest⟩
    have hattended := inv.attended readers
    rw [hhere] at hattended
    rcases hreason with hshut | hnothing
    · exact attended_of_nobody fun u hu => QueueThread.sleeps_of_isUp (hrest hshut u hu) readers
    · by_cases hkind : t.call.isRead = readers
      · rw [hkind] at hnothing
        rw [hnothing]
        exact attended_zero _ _
      · exact hattended.leave_other (by simpa using Bool.eq_not_of_ne hkind)
  | @slept l₁ l₂ t hhere hup hopen hnothing =>
    have hsame : (l₁ ++ { t with phase := .asleep } :: l₂).map QueueThread.id =
      (l₁ ++ t :: l₂).map QueueThread.id := by simp
    obtain ⟨hfresh, hnodup⟩ := inv.ids hsame (hhere ▸ List.Sublist.refl _)
    refine ⟨hfresh, hnodup, fun readers => ?_, fun hshut => ?_⟩
    · have hattended := inv.attended readers
      rw [hhere] at hattended
      by_cases hkind : t.call.isRead = readers
      · rw [hkind] at hnothing
        rw [hnothing]
        exact attended_zero _ _
      · refine hattended.replace ?_ ?_ <;> simp [QueueThread.sleeps, QueueThread.isWoken, hkind]
    · rw [hopen] at hshut
      cases hshut

/-- A sleeping thread wakes for no reason, or because its time is over. -/
theorem Inv.rouse {phase : Phase} (inv : Inv m) (hhere : m.threads = l₁ ++ t :: l₂)
    (hasleep : t.phase = .asleep) (hup : phase ≠ .asleep) :
    Inv { m with threads := setPhase t.id phase m.threads } := by
  rw [hhere, setPhase_middle (hhere ▸ inv.nodup)]
  have hsame : (l₁ ++ { t with phase } :: l₂).map QueueThread.id =
    (l₁ ++ t :: l₂).map QueueThread.id := by simp
  obtain ⟨hfresh, hnodup⟩ := inv.ids hsame (hhere ▸ List.Sublist.refl _)
  refine ⟨hfresh, hnodup, fun readers => ?_, fun hshut => ?_⟩
  · have hattended := inv.attended readers
    rw [hhere] at hattended
    refine hattended.replace ?_ ?_ <;> simp [QueueThread.sleeps, QueueThread.isWoken, hasleep, hup]
  · have hawake := inv.up hshut t (hhere ▸ by simp)
    simp [QueueThread.isUp, hasleep] at hawake

theorem Inv.enter (inv : Inv m) (call : QueueCall α) :
    Inv { m with threads := m.threads ++ [⟨m.next, call, .awake⟩], next := m.next + 1 } := by
  refine ⟨?_, ?_, fun readers => ?_, fun hshut => ?_⟩
  · intro t ht
    rcases List.mem_append.mp ht with ht | ht
    · exact Nat.lt_succ_of_lt (inv.fresh t ht)
    · rw [List.mem_singleton.mp ht]
      exact Nat.lt_succ_self _
  · have hnew : m.next ∉ m.threads.map QueueThread.id := by
      intro hmem
      obtain ⟨t, ht, hid⟩ := List.mem_map.mp hmem
      exact absurd (inv.fresh t ht) (hid ▸ Nat.lt_irrefl _)
    rw [List.map_append, List.map_cons, List.map_nil, List.nodup_middle, List.append_nil]
    exact List.nodup_cons.mpr ⟨hnew, inv.nodup⟩
  · simpa [Attended, List.countP_append, QueueThread.sleeps, QueueThread.isWoken] using inv.attended readers
  · intro t ht
    rcases List.mem_append.mp ht with ht | ht
    · exact inv.up hshut t ht
    · rw [List.mem_singleton.mp ht]
      rfl

theorem Inv.tryRead {item : α} {queue : MessageQueue α} (inv : Inv m) (h : m.queue.pop = some (item, queue))
    (chosen : Nat) : Inv { m with queue, threads := notify false chosen m.threads } := by
  have hserves := MessageQueue.serves_of_pop h
  have hnotified := notified_notify inv.nodup false chosen
  obtain ⟨hfresh, hnodup⟩ := inv.ids hnotified.map_id (List.Sublist.refl _)
  refine ⟨hfresh, hnodup, fun readers => ?_, fun hshut => ?_⟩
  · have hattended := inv.attended readers
    cases readers with
    | true =>
      rw [← hserves.taken] at hattended
      exact (hattended.mono (Nat.le_succ _)).notified_other hnotified
    | false =>
      have hleft := hserves.left
      rw [Bool.not_true] at hleft
      rw [hleft]
      exact hattended.notified hnotified
  · have hup := inv.up (hserves.isShutDown ▸ hshut)
    rwa [hnotified.isUp hup]

theorem Inv.shutdown (inv : Inv m) :
    Inv { m with queue := m.queue.shutdown, threads := wake (fun _ => true) m.threads } := by
  have hup : ∀ t ∈ wake (fun _ => true) m.threads, t.isUp = true := by
    intro t ht
    obtain ⟨u, -, rfl⟩ := List.mem_map.mp ht
    by_cases hasleep : u.phase = .asleep <;> simp [QueueThread.isUp, hasleep]
  have hids : (wake (fun _ => true) m.threads).map QueueThread.id = m.threads.map QueueThread.id := by
    rw [wake, List.map_map]
    apply List.map_congr_left
    intro t _
    simp only [Function.comp]
    split <;> rfl
  obtain ⟨hfresh, hnodup⟩ := inv.ids hids (List.Sublist.refl _)
  exact ⟨hfresh, hnodup, fun readers => attended_of_nobody fun t ht =>
    QueueThread.sleeps_of_isUp (hup t ht) readers, fun _ => hup⟩

theorem inv_step (inv : Inv m) (h : m.Steps m') : Inv m' := by
  obtain ⟨event, outcome, h⟩ := h
  cases event with
  | enter call =>
    cases h
    exact inv.enter call
  | run id chosen => exact inv.ran (ran_of_step inv.nodup h)
  | stir id =>
    simp only [step] at h
    split at h <;> cases h
    next t hfind =>
      obtain ⟨l₁, l₂, hhere, rfl, hasleep⟩ := find?_middle hfind
      exact inv.rouse hhere (by simpa using hasleep) nofun
  | expire id =>
    simp only [step] at h
    split at h <;> cases h
    next t hfind =>
      simp only [Bool.and_assoc] at hfind
      obtain ⟨l₁, l₂, hhere, rfl, hasleep⟩ := find?_middle hfind
      rw [Bool.and_eq_true, beq_iff_eq] at hasleep
      exact inv.rouse hhere hasleep.1 nofun
  | tryRead chosen =>
    simp only [step, MessageQueue.tryRead] at h
    cases hpop : m.queue.pop with
    | none =>
      rw [hpop] at h
      cases h
      exact inv
    | some taken =>
      rw [hpop] at h
      cases h
      exact inv.tryRead hpop chosen
  | shutdown =>
    cases h
    exact inv.shutdown

theorem inv_of_reaches {queue : MessageQueue α} (h : ReflTransGen Steps { queue } m) : Inv m := by
  induction h with
  | refl => exact ⟨by simp, by simp, fun _ => attended_of_nobody (by simp), by simp⟩
  | tail _ hstep ih => exact inv_step ih hstep

/-! ## What becomes of those who are woken -/

theorem find?_eq_of_mem (h : (threads.map QueueThread.id).Nodup) (hmem : t ∈ threads)
    (hup : t.isUp = true) : threads.find? (fun u => u.id == t.id && u.isUp) = some t := by
  obtain ⟨l₁, l₂, rfl⟩ := List.append_of_mem hmem
  have hfront : l₁.find? (fun u => u.id == t.id && u.isUp) = none := by
    rw [List.find?_eq_none]
    intro u hu
    simp [ne_id_of_nodup h u (List.mem_append_left _ hu)]
  rw [List.find?_append, hfront, Option.none_or, List.find?_cons_of_pos (by simp [hup])]

/-- A thread that is up runs. If there is something for it, it gets that. -/
theorem Inv.exists_runs (inv : Inv m) (hmem : t ∈ m.threads) (hup : t.isUp = true) (chosen : Nat) :
    ∃ m' outcome, m.step (.run t.id chosen) = some (m', outcome) ∧
      (m.queue.isShutDown = false → 0 < m.queue.supply t.call.isRead →
        ∃ done, outcome = some done ∧ done.isDone = true) := by
  have hfind := find?_eq_of_mem inv.nodup hmem hup
  simp only [QueueThread.isUp] at hfind
  have htried := tried m.queue t.call (t.phase == .expired)
  simp only [step, hfind]
  revert htried
  generalize attempt m.queue t.call (t.phase == .expired) = result
  intro htried
  cases htried with
  | served _ hdone => exact ⟨_, _, rfl, fun _ _ => ⟨_, rfl, hdone⟩⟩
  | leaves hreason =>
    refine ⟨_, _, rfl, fun hopen hsupply => ?_⟩
    rcases hreason with hshut | hnothing
    · rw [hopen] at hshut
      cases hshut
    · omega
  | sleeps _ hnothing => exact ⟨_, _, rfl, fun _ hsupply => by omega⟩

/-- How often the threads can run, at the most, if nothing else happens. -/
def effort (m : Monitor α) : Nat := m.threads.length + m.threads.countP QueueThread.isUp

theorem Notified.countP_isUp_le (h : Notified readers threads threads') :
    threads'.countP QueueThread.isUp ≤ threads.countP QueueThread.isUp + 1 := by
  cases h with
  | nobody => exact Nat.le_succ _
  | one =>
    simp only [List.countP_append, List.countP_cons]
    split <;> omega

theorem Ran.effort_lt (h : m.Ran m') : m'.effort < m.effort := by
  cases h with
  | @served l₁ l₂ threads t queue hhere hup _ _ hnotified =>
    -- The thread leaves, and so makes up for the one that it wakes.
    have hlength : threads.length = (l₁ ++ l₂).length := by
      simpa using congrArg List.length hnotified.map_id
    have hcount := hnotified.countP_isUp_le
    simp only [effort, hhere, hlength]
    simp only [List.length_append, List.length_cons, List.countP_append, List.countP_cons, hup,
      if_true] at hcount ⊢
    omega
  | left hhere hup =>
    simp only [effort, hhere, List.length_append, List.length_cons, List.countP_append, List.countP_cons, hup,
      if_true]
    omega
  | slept hhere hup =>
    simp only [effort, hhere, List.length_append, List.length_cons, List.countP_append, List.countP_cons, hup,
      if_true]
    simp [QueueThread.isUp]

theorem inv_runs (inv : Inv m) (h : m.Runs m') : Inv m' ∧ m'.effort < m.effort := by
  obtain ⟨id, chosen, outcome, h⟩ := h
  have hran := ran_of_step inv.nodup h
  exact ⟨inv.ran hran, hran.effort_lt⟩

/-- Threads that are up cannot go on running for ever if nothing else happens. -/
theorem Inv.exists_not_runs (inv : Inv m) {ms : ℕ → Monitor α} (h : ms 0 = m) :
    ∃ k, ¬ (ms k).Runs (ms (k + 1)) := by
  by_contra hall
  push Not at hall
  have hinv : ∀ k, Inv (ms k) := by
    intro k
    induction k with
    | zero => exact h ▸ inv
    | succ k ih => exact (inv_runs ih (hall k)).1
  have heffort : ∀ k, (ms k).effort + k ≤ m.effort := by
    intro k
    induction k with
    | zero => exact Nat.le_of_eq (h ▸ rfl)
    | succ k ih =>
      have hlt := (inv_runs (hinv k) (hall k)).2
      omega
  have hle := heffort (m.effort + 1)
  omega

/-- Nobody sleeps who could run, and nobody is forgotten. If a reader sleeps then at least as many readers
have been woken, and are not yet running, as there are messages; and likewise for writers and free slots.
Nobody sleeps at a queue that is shut down. So, as long as there is something for a thread that sleeps,
another of its kind is up and gets it when it runs; those who are up are done after finitely many runs if
nothing else happens, and then there is nothing left for those who still sleep. -/
theorem no_lost_wakeUp {queue : MessageQueue α} (h : ReflTransGen Steps { queue } m) :
    (m.queue.isShutDown = false → 0 < m.sleepers true → m.queue.length ≤ m.woken true) ∧
    (0 < m.sleepers false → m.queue.capacity - m.queue.length ≤ m.woken false) ∧
    (m.queue.isShutDown = true → ∀ t ∈ m.threads, t.phase ≠ .asleep) ∧
    (∀ readers, 0 < m.sleepers readers → 0 < m.queue.supply readers →
      ∃ t ∈ m.threads, t.isWoken readers = true ∧ ∀ chosen, ∃ m' done,
        m.step (.run t.id chosen) = some (m', some done) ∧ done.isDone = true) ∧
    (∀ ms : ℕ → Monitor α, ms 0 = m → ∃ k, ¬ (ms k).Runs (ms (k + 1))) ∧
    ((∀ m', ¬ m.Runs m') → ∀ readers, 0 < m.sleepers readers →
      m.queue.isShutDown = false ∧ m.queue.supply readers = 0) := by
  have inv := inv_of_reaches h
  have hopen : ∀ readers, 0 < m.sleepers readers → m.queue.isShutDown = false := by
    intro readers hsleeps
    rw [Bool.eq_false_iff]
    intro hshut
    obtain ⟨t, ht, hs⟩ := List.countP_pos_iff.mp hsleeps
    rw [QueueThread.sleeps_of_isUp (inv.up hshut t ht)] at hs
    cases hs
  refine ⟨fun _ => inv.attended true, inv.attended false, ?_, ?_, fun ms hms => inv.exists_not_runs hms, ?_⟩
  · intro hshut t ht
    simpa [QueueThread.isUp] using inv.up hshut t ht
  · intro readers hsleeps hsupply
    have hwoken : 0 < m.woken readers := Nat.lt_of_lt_of_le hsupply (inv.attended readers hsleeps)
    obtain ⟨t, ht, hw⟩ := List.countP_pos_iff.mp hwoken
    obtain ⟨hkind, hup⟩ := QueueThread.isUp_of_isWoken hw
    refine ⟨t, ht, hw, fun chosen => ?_⟩
    obtain ⟨m', outcome, hstep, hserved⟩ := inv.exists_runs ht hup chosen
    obtain ⟨done, rfl, hdone⟩ := hserved (hopen readers hsleeps) (hkind ▸ hsupply)
    exact ⟨m', done, hstep, hdone⟩
  · intro hidle readers hsleeps
    refine ⟨hopen readers hsleeps, Nat.eq_zero_of_not_pos fun hsupply => ?_⟩
    have hwoken : 0 < m.woken readers := Nat.lt_of_lt_of_le hsupply (inv.attended readers hsleeps)
    obtain ⟨t, ht, hw⟩ := List.countP_pos_iff.mp hwoken
    obtain ⟨m', outcome, hstep, -⟩ := inv.exists_runs ht (QueueThread.isUp_of_isWoken hw).2 0
    exact hidle m' ⟨t.id, 0, outcome, hstep⟩

/-- Three readers at a queue with one message. The first was woken for a message that a fourth reader has
taken meanwhile, the second for the one that is there, and the third sleeps. -/
def stolen : Monitor Nat where
  queue := ⟨1, [6], false, by decide, by decide⟩
  threads := [⟨0, .read, .woken⟩, ⟨1, .readTimed, .woken⟩, ⟨2, .read, .asleep⟩]
  next := 6

theorem reaches_stolen : ReflTransGen Steps { queue := .single } stolen := by
  have opened : ReflTransGen Steps { queue := .single } ({ queue := .single } : Monitor Nat) := .refl
  have first := (opened.tail ⟨.enter .read, none, rfl⟩).tail ⟨.run 0 0, none, rfl⟩
  have second := (first.tail ⟨.enter .readTimed, none, rfl⟩).tail ⟨.run 1 0, none, rfl⟩
  have third := (second.tail ⟨.enter .read, none, rfl⟩).tail ⟨.run 2 0, none, rfl⟩
  have written := (third.tail ⟨.enter (.write 5), none, rfl⟩).tail ⟨.run 3 0, some .wrote, rfl⟩
  have taken := (written.tail ⟨.enter .readTimed, none, rfl⟩).tail ⟨.run 4 0, some (.took 5), rfl⟩
  exact (taken.tail ⟨.enter (.write 6), none, rfl⟩).tail ⟨.run 5 1, some .wrote, rfl⟩

theorem no_lost_wakeUp_stolen : stolen.sleepers true = 1 ∧ stolen.woken true = 2 ∧
    ReflTransGen Steps { queue := .single } stolen ∧
    stolen.queue.length ≤ stolen.woken true ∧
    ∃ t ∈ stolen.threads, t.isWoken true = true ∧ ∀ chosen, ∃ m' done,
      stolen.step (.run t.id chosen) = some (m', some done) ∧ done.isDone = true := by
  obtain ⟨hreaders, -, -, hserved, -, -⟩ := no_lost_wakeUp reaches_stolen
  exact ⟨rfl, rfl, reaches_stolen, hreaders rfl (by decide), hserved true (by decide) (by decide)⟩

end Monitor

end AudioStream
