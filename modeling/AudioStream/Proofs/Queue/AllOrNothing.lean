import AudioStream.Proofs.Queue.Data
import AudioStream.Proofs.Queue.Ring

/-!
# A data queue moves all of a slice or nothing

Whoever calls a data queue hands over a slice: bytes to be taken, or room to be filled. A call succeeds just if
the queue has room for the whole slice, or bytes for it. Otherwise queue and slice are left as they are. What
has been read and what is left is what has been written, whatever calls there are and wherever the positions
of the ring stand.

The main statement is `RingQueue.fifo_of_calls`.
-/

namespace AudioStream

/-- What is asked of a data queue. -/
inductive DataRequest where
  /-- To take the bytes of a slice. -/
  | write (bytes : List UInt8)
  /-- To fill a slice. -/
  | read (out : List UInt8)

namespace DataRequest

def slice : DataRequest → List UInt8
  | write bytes => bytes
  | read out => out

/-- Whether a queue with so many bytes and so much room can do as it is asked. -/
def Fits (readable writable : Nat) : DataRequest → Prop
  | write bytes => bytes.length ≤ writable
  | read out => out.length ≤ readable

end DataRequest

/-- What a call comes to: whether it succeeds, and its slice after it. -/
structure DataAnswer where
  succeeds : Bool
  slice : List UInt8
  deriving DecidableEq

/-- A call on a queue, and the queue before and after it. -/
structure DataCall (σ : Type) where
  before : σ
  request : DataRequest
  answer : DataAnswer
  after : σ

namespace DataCall

variable {σ : Type}

/-- The bytes that a call gets into the queue. -/
def written (c : DataCall σ) : List UInt8 :=
  match c.request with
  | .write bytes => if c.answer.succeeds then bytes else []
  | .read _ => []

/-- The bytes that a call gets out of the queue. -/
def returned (c : DataCall σ) : List UInt8 :=
  match c.request with
  | .write _ => []
  | .read _ => if c.answer.succeeds then c.answer.slice else []

end DataCall

/-- The calls that have been made on a queue, and the queue after them. -/
structure DataLog (σ : Type) where
  calls : List (DataCall σ)
  last : σ

namespace DataLog

variable {σ : Type}

/-- All bytes that the calls got into the queue. -/
def written (log : DataLog σ) : List UInt8 := log.calls.flatMap DataCall.written

/-- All bytes that the calls got out of the queue. -/
def returned (log : DataLog σ) : List UInt8 := log.calls.flatMap DataCall.returned

def answers (log : DataLog σ) : List DataAnswer := log.calls.map DataCall.answer

/-- Makes requests one after another, of a queue that answers in some way. -/
def ofRequests (answer : DataRequest → σ → DataAnswer × σ) : List DataRequest → σ → DataLog σ
  | [], s => ⟨[], s⟩
  | request :: rest, s =>
    let (reply, after) := answer request s
    let log := ofRequests answer rest after
    ⟨⟨s, request, reply, after⟩ :: log.calls, log.last⟩

end DataLog

namespace DataQueue

def answer (request : DataRequest) (d : DataQueue) : DataAnswer × DataQueue :=
  match request with
  | .write bytes =>
    match d.write bytes with
    | some d => (⟨true, bytes⟩, d)
    | none => (⟨false, bytes⟩, d)
  | .read out =>
    match d.read out.length with
    | some (bytes, d) => (⟨true, bytes⟩, d)
    | none => (⟨false, out⟩, d)

end DataQueue

namespace RingQueue

open ByteRing LawfulByteRing

variable {ρ : Type} [ByteRing ρ]

def answer (request : DataRequest) (q : RingQueue ρ) : DataAnswer × RingQueue ρ :=
  match request with
  | .write bytes =>
    let (succeeds, q) := q.write bytes
    (⟨succeeds, bytes⟩, q)
  | .read out =>
    let (succeeds, out, q) := q.read out
    (⟨succeeds, out⟩, q)

variable [LawfulByteRing ρ] {q : RingQueue ρ} {d d' : DataQueue} {bytes out : List UInt8}

/-! ## On a ring and without one -/

/-- A queue on a ring holds what a bounded list holds. -/
structure Holds (q : RingQueue ρ) (d : DataQueue) : Prop where
  contents : contents q.ring = d.contents
  capacity : LawfulByteRing.capacity q.ring = d.capacity

theorem Holds.readable (h : q.Holds d) : q.readable = d.readable := by
  rw [RingQueue.readable, occupied_eq, h.contents, DataQueue.readable]

theorem Holds.writable (h : q.Holds d) : q.writable = d.writable := by
  rw [RingQueue.writable, vacant_eq, h.contents, h.capacity, DataQueue.writable]

theorem Holds.balanced (h : q.Holds d) : q.readable + q.writable = d.capacity := by
  rw [h.readable, h.writable, d.readable_add_writable]

theorem exists_ofCapacity {n : Nat} (pos : 0 < n) :
    ∃ (q : RingQueue ρ) (d : DataQueue), ofCapacity n = .ok q ∧ DataQueue.ofCapacity n = .ok d ∧
      q.Holds d ∧ d.contents = [] ∧ d.capacity = n :=
  ⟨⟨ByteRing.ofCapacity n pos, n⟩, { capacity := n, capacity_pos := pos }, dif_pos pos, dif_pos pos,
    ⟨contents_ofCapacity n pos, capacity_ofCapacity n pos⟩, rfl, rfl⟩

theorem write_of_none (h : q.Holds d) (hw : d.write bytes = none) : q.write bytes = (false, q) := by
  have hfull : q.writable < bytes.length := by
    rw [h.writable, ← Nat.not_le, ← DataQueue.write_isSome_iff, hw]
    exact Bool.false_ne_true
  rw [write, if_pos hfull]

theorem write_of_some (h : q.Holds d) (hw : d.write bytes = some d') :
    ∃ q' : RingQueue ρ, q.write bytes = (true, q') ∧ q'.Holds d' := by
  have hroom : bytes.length ≤ q.writable := by
    rw [h.writable, ← DataQueue.write_isSome_iff, hw]
    rfl
  have hall : (push bytes q.ring).1 = bytes.length := by
    rw [moved_push]
    exact Nat.min_eq_left hroom
  refine ⟨{ q with ring := (push bytes q.ring).2 }, ?_, ?_, ?_⟩
  · rw [write, if_neg (Nat.not_lt.mpr hroom)]
    exact congrArg (·, _) (beq_iff_eq.mpr hall)
  · rw [contents_push, hall, List.take_length, h.contents, DataQueue.contents_of_write hw]
  · rw [capacity_push, h.capacity, DataQueue.capacity_of_write hw]

theorem read_of_none (h : q.Holds d) (hr : d.read out.length = none) : q.read out = (false, out, q) := by
  have hshort : q.readable < out.length := by
    rw [h.readable, ← Nat.not_le, ← DataQueue.read_isSome_iff, hr]
    exact Bool.false_ne_true
  rw [read, if_pos hshort]

theorem read_of_some (h : q.Holds d) (hr : d.read out.length = some (bytes, d')) :
    ∃ q' : RingQueue ρ, q.read out = (true, bytes, q') ∧ q'.Holds d' := by
  have henough : out.length ≤ q.readable := by
    rw [h.readable, ← DataQueue.read_isSome_iff, hr]
    rfl
  have hall : (pop out q.ring).1 = out.length := by
    rw [moved_pop]
    exact Nat.min_eq_left henough
  have hlength := DataQueue.length_of_read hr
  have hcontents : contents q.ring = bytes ++ d'.contents := h.contents.trans (DataQueue.contents_of_read hr)
  have hfilled : (pop out q.ring).2.1 = bytes := by
    rw [filled_pop, hall, List.drop_length, List.append_nil, hcontents, ← hlength, List.take_left]
  refine ⟨{ q with ring := (pop out q.ring).2.2 }, ?_, ?_, ?_⟩
  · rw [read, if_neg (Nat.not_lt.mpr henough), ← hfilled]
    exact congrArg (·, _) (beq_iff_eq.mpr hall)
  · rw [contents_pop, hall, hcontents, ← hlength, List.drop_left]
  · rw [capacity_pop, h.capacity, DataQueue.capacity_of_read hr]

/-- The ways in which both answer a request, each with what it comes to. -/
inductive Alike (q : RingQueue ρ) (d : DataQueue) :
    DataRequest → DataAnswer × RingQueue ρ → DataAnswer × DataQueue → Prop where
  | wrote {bytes : List UInt8} {q' : RingQueue ρ} {d' : DataQueue} (h : d.write bytes = some d')
      (holds : q'.Holds d') : Alike q d (.write bytes) (⟨true, bytes⟩, q') (⟨true, bytes⟩, d')
  | full {bytes : List UInt8} (h : d.write bytes = none) :
      Alike q d (.write bytes) (⟨false, bytes⟩, q) (⟨false, bytes⟩, d)
  | took {out bytes : List UInt8} {q' : RingQueue ρ} {d' : DataQueue}
      (h : d.read out.length = some (bytes, d')) (holds : q'.Holds d') :
      Alike q d (.read out) (⟨true, bytes⟩, q') (⟨true, bytes⟩, d')
  | short {out : List UInt8} (h : d.read out.length = none) :
      Alike q d (.read out) (⟨false, out⟩, q) (⟨false, out⟩, d)

theorem alike_answer (h : q.Holds d) (request : DataRequest) :
    Alike q d request (q.answer request) (d.answer request) := by
  cases request with
  | write bytes =>
    cases hw : d.write bytes with
    | none =>
      simp only [answer, write_of_none h hw, DataQueue.answer, hw]
      exact .full hw
    | some d' =>
      obtain ⟨q', hq, hholds⟩ := write_of_some h hw
      simp only [answer, hq, DataQueue.answer, hw]
      exact .wrote hw hholds
  | read out =>
    cases hr : d.read out.length with
    | none =>
      simp only [answer, read_of_none h hr, DataQueue.answer, hr]
      exact .short hr
    | some taken =>
      obtain ⟨q', hq, hholds⟩ := read_of_some h hr
      simp only [answer, hq, DataQueue.answer, hr]
      exact .took hr hholds

/-! ## Single calls -/

/-- What a call on a queue of the given capacity is to do. -/
structure IsAllOrNothing (n : Nat) (c : DataCall (RingQueue ρ)) : Prop where
  succeeds_iff : c.answer.succeeds = true ↔ c.request.Fits c.before.readable c.before.writable
  queue_kept : c.answer.succeeds = false → c.after = c.before
  slice_kept : c.answer.succeeds = false → c.answer.slice = c.request.slice
  slice_length : c.answer.slice.length = c.request.slice.length
  balanced_before : c.before.readable + c.before.writable = n
  balanced_after : c.after.readable + c.after.writable = n

namespace Alike

variable {request : DataRequest} {a : DataAnswer × RingQueue ρ} {a' : DataAnswer × DataQueue}

theorem answer_eq (h : Alike q d request a a') : a.1 = a'.1 := by
  cases h <;> rfl

theorem holds (h : Alike q d request a a') (hq : q.Holds d) : a.2.Holds a'.2 := by
  cases h with
  | wrote _ hholds => exact hholds
  | full => exact hq
  | took _ hholds => exact hholds
  | short => exact hq

theorem capacity_eq (h : Alike q d request a a') : a'.2.capacity = d.capacity := by
  cases h with
  | wrote hw => exact DataQueue.capacity_of_write hw
  | full => rfl
  | took hr => exact DataQueue.capacity_of_read hr
  | short => rfl

theorem passes (h : Alike q d request a a') :
    let c : DataCall (RingQueue ρ) := ⟨q, request, a.1, a.2⟩
    Passes d.contents c.written c.returned a'.2.contents := by
  cases h with
  | wrote hw =>
    simp only [DataCall.written, DataCall.returned, DataQueue.contents_of_write hw]
    exact .append _ _
  | full => exact .refl _
  | took hr => exact (List.append_nil _).trans (DataQueue.contents_of_read hr)
  | short => exact .refl _

theorem isAllOrNothing (h : Alike q d request a a') (hq : q.Holds d) :
    IsAllOrNothing d.capacity ⟨q, request, a.1, a.2⟩ := by
  have hafter : a.2.readable + a.2.writable = d.capacity := h.capacity_eq ▸ (h.holds hq).balanced
  cases h with
  | wrote hw =>
    have hroom := DataQueue.write_isSome_iff.mp (Option.isSome_of_eq_some hw)
    exact ⟨iff_of_true rfl (hq.writable ▸ hroom), by simp, by simp, rfl, hq.balanced, hafter⟩
  | @full bytes hw =>
    have hfull : ¬ bytes.length ≤ d.writable := by simp [← DataQueue.write_isSome_iff, hw]
    exact ⟨iff_of_false (by simp) (hq.writable ▸ hfull), fun _ => rfl, fun _ => rfl, rfl, hq.balanced,
      hafter⟩
  | took hr =>
    have henough := DataQueue.read_isSome_iff.mp (Option.isSome_of_eq_some hr)
    exact ⟨iff_of_true rfl (hq.readable ▸ henough), by simp, by simp, DataQueue.length_of_read hr,
      hq.balanced, hafter⟩
  | @short out hr =>
    have hshort : ¬ out.length ≤ d.readable := by simp [← DataQueue.read_isSome_iff, hr]
    exact ⟨iff_of_false (by simp) (hq.readable ▸ hshort), fun _ => rfl, fun _ => rfl, rfl, hq.balanced,
      hafter⟩

end Alike

/-! ## Calls one after another -/

theorem log_of_holds (h : q.Holds d) (requests : List DataRequest) :
    let log := DataLog.ofRequests answer requests q
    let log' := DataLog.ofRequests DataQueue.answer requests d
    (∀ c ∈ log.calls, IsAllOrNothing d.capacity c) ∧
    log.last.readable + log.last.writable = d.capacity ∧
    Passes d.contents log.written log.returned log'.last.contents ∧
    log.answers = log'.answers ∧ log.last.Holds log'.last := by
  induction requests generalizing q d with
  | nil => exact ⟨by simp [DataLog.ofRequests], h.balanced, .refl _, rfl, h⟩
  | cons request rest ih =>
    have halike := alike_answer h request
    obtain ⟨hcalls, hbalanced, hpasses, hanswers, hlast⟩ := ih (halike.holds h)
    rw [halike.capacity_eq] at hcalls hbalanced
    refine ⟨?_, hbalanced, halike.passes.trans hpasses, ?_, hlast⟩
    · exact List.forall_mem_cons.mpr ⟨halike.isAllOrNothing h, hcalls⟩
    · exact congr (congrArg _ halike.answer_eq) hanswers

/-- On every lawful ring, and whatever the queue is asked for, each call moves all of its slice or nothing,
the bytes and the room together stay what the queue was set up for, and bytes come out in the order in which
they went in. A bounded list of bytes does the same. -/
theorem fifo_of_calls (ρ : Type) [ByteRing ρ] [LawfulByteRing ρ] {n : Nat} (pos : 0 < n)
    (requests : List DataRequest) :
    ∃ (q : RingQueue ρ) (d : DataQueue), ofCapacity n = .ok q ∧ DataQueue.ofCapacity n = .ok d ∧
      let log := DataLog.ofRequests answer requests q
      let log' := DataLog.ofRequests DataQueue.answer requests d
      (∀ c ∈ log.calls, IsAllOrNothing n c) ∧ log.last.readable + log.last.writable = n ∧
      log.returned ++ contents log.last.ring = log.written ∧
      log.answers = log'.answers ∧ contents log.last.ring = log'.last.contents := by
  obtain ⟨q, d, hq, hd, hholds, hempty, hcapacity⟩ := exists_ofCapacity (ρ := ρ) pos
  obtain ⟨hcalls, hbalanced, hpasses, hanswers, hlast⟩ := log_of_holds hholds requests
  rw [hcapacity] at hcalls hbalanced
  rw [hempty, ← hlast.contents] at hpasses
  exact ⟨q, d, hq, hd, hcalls, hbalanced, hpasses.symm, hanswers, hlast.contents⟩

/-- On a ring of three cells the second write goes round the end, and the two calls after it are too large. -/
theorem fifo_of_calls_wrapping :
    let requests : List DataRequest :=
      [.write [1, 2], .read [0], .write [3, 4], .write [5], .read [9, 9, 9, 9], .read [0, 0, 0]]
    0 < 3 ∧ ∃ q : RingQueue Circle, ofCapacity 3 = .ok q ∧
      let log := DataLog.ofRequests answer requests q
      log.answers = [⟨true, [1, 2]⟩, ⟨true, [1]⟩, ⟨true, [3, 4]⟩, ⟨false, [5]⟩, ⟨false, [9, 9, 9, 9]⟩,
        ⟨true, [2, 3, 4]⟩] ∧
      (∀ c ∈ log.calls, IsAllOrNothing 3 c) ∧ log.last.readable + log.last.writable = 3 ∧
      log.returned ++ contents log.last.ring = log.written := by
  intro requests
  obtain ⟨q, d, hq, hd, hcalls, hbalanced, horder, hanswers, -⟩ :=
    fifo_of_calls Circle (n := 3) (by decide) requests
  cases hd
  exact ⟨by decide, q, hq, hanswers.trans (by decide), hcalls, hbalanced, horder⟩

end RingQueue

end AudioStream
