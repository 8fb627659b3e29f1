import AudioStream.Queue.Message

/-!
# One attempt on a message queue

What the outcome of an attempt says about the queue before it and about the one after it, and what
stands where in a list that something is appended to.
-/

namespace AudioStream

section Append

variable {α : Type} {l : List α} {a b : α} {i : Nat}

theorem getElem?_append_of_some (h : l[i]? = some b) (a : α) : (l ++ [a])[i]? = some b := by
  rwa [List.getElem?_append_left (List.getElem?_eq_some_iff.mp h).1]

theorem of_getElem?_append (h : (l ++ [a])[i]? = some b) :
    l[i]? = some b ∨ (i = l.length ∧ b = a) := by
  rcases Nat.lt_or_ge i l.length with hlt | hge
  · rw [List.getElem?_append_left hlt] at h
    exact .inl h
  · rw [List.getElem?_append_right hge, List.getElem?_singleton] at h
    split at h
    next hi => exact .inr ⟨by omega, (Option.some.inj h).symm⟩
    next => cases h

end Append

namespace MessageQueue

variable {α : Type} {q r : MessageQueue α} {item : α} {e : QueueError}

theorem isShutDown_of_pop (h : q.pop = some (item, r)) : r.isShutDown = q.isShutDown := by
  unfold pop at h
  split at h
  · cases h
  · cases h
    rfl

theorem of_write_eq_done (h : q.write item = .done r) :
    q.isShutDown = false ∧ r.items = q.items ++ [item] ∧ r.isShutDown = false := by
  cases hs : q.isShutDown with
  | true => simp [write, hs] at h
  | false =>
    by_cases hroom : q.items.length < q.capacity
    · simp only [write, hs, hroom, Bool.false_eq_true, if_false, dite_true] at h
      cases h
      exact ⟨rfl, rfl, rfl⟩
    · simp [write, hs, hroom] at h

theorem of_write_eq_failed (h : q.write item = .failed e) : q.isShutDown = true := by
  cases hs : q.isShutDown with
  | true => rfl
  | false =>
    by_cases hroom : q.items.length < q.capacity <;> simp [write, hs, hroom] at h

theorem eq_shutDown_of_write (h : q.write item = .failed e) : e = .shutDown := by
  unfold write at h
  split at h
  · cases h
    rfl
  · split at h <;> cases h

/-- A write waits only on a queue that has something in it. -/
theorem of_write_eq_waits (h : q.write item = .waits) : q.isShutDown = false ∧ q.items ≠ [] := by
  have hpos := q.capacity_pos
  cases hs : q.isShutDown with
  | true => simp [write, hs] at h
  | false =>
    by_cases hroom : q.items.length < q.capacity
    · simp [write, hs, hroom] at h
    · refine ⟨rfl, fun hempty => hroom ?_⟩
      rwa [hempty]

theorem of_read_eq_done (h : q.read = .done (item, r)) :
    q.isShutDown = false ∧ q.items = item :: r.items ∧ r.isShutDown = false := by
  cases hs : q.isShutDown with
  | true => simp [read, hs] at h
  | false =>
    cases hp : q.pop with
    | none => simp [read, hs, hp] at h
    | some taken =>
      simp only [read, hs, hp, Bool.false_eq_true, if_false] at h
      cases h
      exact ⟨rfl, items_of_pop hp, (isShutDown_of_pop hp).trans hs⟩

theorem of_read_eq_failed (h : q.read = .failed e) : q.isShutDown = true := by
  cases hs : q.isShutDown with
  | true => rfl
  | false => cases hp : q.pop <;> simp [read, hs, hp] at h

theorem eq_shutDown_of_read (h : q.read = .failed e) : e = .shutDown := by
  unfold read at h
  split at h
  · cases h
    rfl
  · split at h <;> cases h

/-- A read waits only on an empty queue. -/
theorem of_read_eq_waits (h : q.read = .waits) : q.isShutDown = false ∧ q.items = [] := by
  cases hs : q.isShutDown with
  | true => simp [read, hs] at h
  | false =>
    cases hp : q.pop with
    | none => exact ⟨rfl, pop_eq_none_iff.mp hp⟩
    | some taken => simp [read, hs, hp] at h

theorem isShutDown_tryRead (q : MessageQueue α) : q.tryRead.2.isShutDown = q.isShutDown := by
  cases hp : q.pop with
  | none => simp [tryRead, hp]
  | some taken => simpa [tryRead, hp] using isShutDown_of_pop hp

end MessageQueue

end AudioStream
