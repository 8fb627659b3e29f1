import AudioStream.Proofs.Worker.Counted

/-!
# The accounts of a run

The replies of some cycles tell of the bytes that were moved in them. A run is in the accounts if what
its replies tell of is what the worker has counted.
-/

namespace AudioStream

/-- The bytes that the reply of a cycle tells of. -/
def Cycle.bytes (c : Cycle) : Int := (c.reply.map fun r => r.byteCount.toInt).getD 0

/-- The bytes that the replies of some cycles tell of. -/
def movedBytes : List Cycle → Int
  | [] => 0
  | c :: cycles => c.bytes + movedBytes cycles

@[simp] theorem movedBytes_nil : movedBytes [] = 0 := rfl

@[simp] theorem movedBytes_cons (c : Cycle) (cycles : List Cycle) :
    movedBytes (c :: cycles) = c.bytes + movedBytes cycles := rfl

theorem movedBytes_append (cycles more : List Cycle) :
    movedBytes (cycles ++ more) = movedBytes cycles + movedBytes more := by
  induction cycles with
  | nil => simp
  | cons c cycles ih => rw [List.cons_append, movedBytes_cons, movedBytes_cons, ih, Int.add_assoc]

theorem movedBytes_nonneg {cycles : List Cycle} (h : ∀ c ∈ cycles, 0 ≤ c.bytes) :
    0 ≤ movedBytes cycles := by
  induction cycles with
  | nil => exact Int.le_refl 0
  | cons c cycles ih =>
    have hc := h c List.mem_cons_self
    have hrest := ih fun d hd => h d (List.mem_cons_of_mem _ hd)
    rw [movedBytes_cons]
    omega

theorem movedBytes_take_le {cycles : List Cycle} (h : ∀ c ∈ cycles, 0 ≤ c.bytes) {i j : Nat}
    (hij : i ≤ j) : movedBytes (cycles.take i) ≤ movedBytes (cycles.take j) := by
  have hsplit : cycles.take j = cycles.take i ++ (cycles.take j).drop i :=
    calc cycles.take j = (cycles.take j).take i ++ (cycles.take j).drop i :=
          (List.take_append_drop i _).symm
      _ = cycles.take i ++ (cycles.take j).drop i := by rw [List.take_take, Nat.min_eq_left hij]
  have hrest : 0 ≤ movedBytes ((cycles.take j).drop i) :=
    movedBytes_nonneg fun c hc => h c (List.mem_of_mem_take (List.mem_of_mem_drop hc))
  rw [hsplit, movedBytes_append]
  omega

/-- The replies of a run agree with the frames counted by the worker that it begins with and by the one
that it leads to. -/
structure Accounts (s : Setup) (turns : List Turn) (first last : Worker) (cycles : List Cycle) :
    Prop where
  /-- Each reply tells of whole frames, and of no more bytes than were asked for. -/
  reply : ∀ (i : Nat) (c : Cycle) (r : Reply), cycles[i]? = some c → c.reply = some r →
    ∃ (t : Turn) (command : Command), turns[i]? = some t ∧ t.heard = some command ∧
      0 ≤ r.byteCount.toInt ∧ r.byteCount.toInt ≤ (min command.asked s.bufferSize : Nat) ∧
      (s.frameSize : Int) ∣ r.byteCount.toInt
  count : last.frameCount.toInt * s.frameSize =
    first.frameCount.toInt * s.frameSize + movedBytes cycles
  position : ∀ (i : Nat) (c : Cycle) (r : Reply), cycles[i]? = some c → c.reply = some r →
    r.observable ≠ .unknown → r.observable.frames.toInt * s.frameSize =
      first.frameCount.toInt * s.frameSize + movedBytes (cycles.take (i + 1))

namespace Accounts

variable {s : Setup} {t : Turn} {turns : List Turn} {c : Cycle} {cycles : List Cycle}
  {first mid last : Worker}

theorem nil (s : Setup) (turns : List Turn) (w : Worker) : Accounts s turns w w [] where
  reply i c r hc := by simp at hc
  count := by simp
  position i c r hc := by simp at hc

theorem cons (head : Accounts s [t] first mid [c]) (tail : Accounts s turns mid last cycles) :
    Accounts s (t :: turns) first last (c :: cycles) where
  reply i d r hd hr := by
    cases i with
    | zero => exact head.reply 0 d r (by simpa using hd) hr
    | succ i => exact tail.reply i d r (by simpa using hd) hr
  count := by
    have h := head.count
    rw [tail.count, h]
    simp [Int.add_assoc]
  position i d r hd hr hknown := by
    cases i with
    | zero =>
      have h := head.position 0 d r (by simpa using hd) hr hknown
      simpa using h
    | succ i =>
      have h := head.count
      rw [tail.position i d r (by simpa using hd) hr hknown, h]
      simp [Int.add_assoc]

theorem single
    (reply : ∀ r, c.reply = some r → ∃ command, t.heard = some command ∧
      0 ≤ r.byteCount.toInt ∧ r.byteCount.toInt ≤ (min command.asked s.bufferSize : Nat) ∧
      (s.frameSize : Int) ∣ r.byteCount.toInt)
    (count : mid.frameCount.toInt * s.frameSize = first.frameCount.toInt * s.frameSize + c.bytes)
    (position : ∀ r, c.reply = some r → r.observable ≠ .unknown →
      r.observable.frames = mid.frameCount) : Accounts s [t] first mid [c] where
  reply i d r hd hr := by
    obtain ⟨rfl, rfl⟩ : i = 0 ∧ c = d := by simpa [List.getElem?_singleton] using hd
    obtain ⟨command, heard, hbounds⟩ := reply r hr
    exact ⟨t, command, rfl, heard, hbounds⟩
  count := by simpa using count
  position i d r hd hr hknown := by
    obtain ⟨rfl, rfl⟩ : i = 0 ∧ c = d := by simpa [List.getElem?_singleton] using hd
    rw [position r hr hknown, count]
    simp

theorem bytes_nonneg (h : Accounts s turns first last cycles) : ∀ c ∈ cycles, 0 ≤ c.bytes := by
  intro c hc
  obtain ⟨i, hi⟩ := List.getElem?_of_mem hc
  cases hr : c.reply with
  | none => simp [Cycle.bytes, hr]
  | some r =>
    obtain ⟨t, command, -, -, hbytes, -⟩ := h.reply i c r hi hr
    simpa [Cycle.bytes, hr] using hbytes

/-- The positions that are known never fall. -/
theorem frames_le (h : Accounts s turns first last cycles) (hpos : 0 < s.frameSize) {i j : Nat}
    (hij : i ≤ j) {c d : Cycle} (hc : cycles[i]? = some c) (hd : cycles[j]? = some d) {r q : Reply}
    (hr : c.reply = some r) (hq : d.reply = some q) (hknown : r.observable ≠ .unknown)
    (hknown' : q.observable ≠ .unknown) : r.observable.frames ≤ q.observable.frames := by
  have hfirst := h.position i c r hc hr hknown
  have hsecond := h.position j d q hd hq hknown'
  have hle := movedBytes_take_le h.bytes_nonneg (Nat.succ_le_succ hij)
  have hpos' : (0 : Int) < s.frameSize := Int.ofNat_lt.mpr hpos
  rw [Int64.le_iff_toInt_le]
  refine Int.le_of_mul_le_mul_right ?_ hpos'
  rw [hfirst, hsecond]
  exact Int.add_le_add_left hle _

end Accounts

end AudioStream
