import AudioStream.Worker.Cycle

/-!
# Traffic on a data queue

Whoever writes to a data queue or reads from it moves bytes through it in their order. `Passes` says so of
a stretch of time, and stretches that follow each other make a longer one. A client that only reads leaves
the room in place that someone has seen, and one that only writes the bytes.
-/

namespace AudioStream

/-- Bytes pass through a queue in their order: what was in it and what came in is what went out and what is
left. -/
def Passes (before inflow outflow after : List UInt8) : Prop :=
  before ++ inflow = outflow ++ after

namespace Passes

variable {a b c inflow outflow inflow' outflow' : List UInt8}

theorem refl (a : List UInt8) : Passes a [] [] a := List.append_nil a

theorem trans (h : Passes a inflow outflow b) (h' : Passes b inflow' outflow' c) :
    Passes a (inflow ++ inflow') (outflow ++ outflow') c :=
  calc a ++ (inflow ++ inflow') = (a ++ inflow) ++ inflow' := (List.append_assoc _ _ _).symm
    _ = outflow ++ (b ++ inflow') := by rw [h, List.append_assoc]
    _ = (outflow ++ outflow') ++ c := by rw [h', List.append_assoc]

theorem append (a inflow : List UInt8) : Passes a inflow [] (a ++ inflow) := rfl

end Passes

namespace Access

def IsRead (access : Access) : Prop := ∃ count, access = .read count

def IsWrite (access : Access) : Prop := ∃ bytes, access = .write bytes

end Access

namespace DataQueue

theorem eq_of_contents {q r : DataQueue} (capacity : q.capacity = r.capacity)
    (contents : q.contents = r.contents) : q = r := by
  cases q
  cases r
  cases capacity
  cases contents
  rfl

/-- The bytes that a client gets into the queue: those of its writes that find room. -/
def admitted (q : DataQueue) : List Access → List UInt8
  | [] => []
  | .write bytes :: rest =>
    match q.write bytes with
    | some q => bytes ++ q.admitted rest
    | none => q.admitted rest
  | .read count :: rest =>
    match q.read count with
    | some (_, q) => q.admitted rest
    | none => q.admitted rest

theorem write_nil (q : DataQueue) : q.write [] = some q := by
  simp [write]

theorem passes_serve (q : DataQueue) (accesses : List Access) :
    Passes q.contents (q.admitted accesses) (q.serve accesses).2 (q.serve accesses).1.contents := by
  induction accesses generalizing q with
  | nil => exact .refl q.contents
  | cons access rest ih =>
    cases access with
    | write bytes =>
      cases hw : q.write bytes with
      | none => simpa [admitted, serve, hw] using ih q
      | some r =>
        have hfirst : Passes q.contents bytes [] r.contents := by
          rw [contents_of_write hw]
          exact .append q.contents bytes
        simpa [admitted, serve, hw] using hfirst.trans (ih r)
    | read count =>
      cases hr : q.read count with
      | none => simpa [admitted, serve, hr] using ih q
      | some taken =>
        obtain ⟨bytes, r⟩ := taken
        have hfirst : Passes q.contents [] bytes r.contents := by
          rw [Passes, List.append_nil]
          exact contents_of_read hr
        simpa [admitted, serve, hr] using hfirst.trans (ih r)

/-- What is done to a queue last comes on top of what was done before. -/
theorem serve_concat {q r r' : DataQueue} {accesses : List Access} {access : Access}
    {served bytes : List UInt8} (h : q.serve accesses = (r, served)) (hlast : r.serve [access] = (r', bytes)) :
    q.serve (accesses ++ [access]) = (r', served ++ bytes) := by
  induction accesses generalizing q served with
  | nil =>
    cases h
    exact hlast
  | cons first rest ih =>
    cases first with
    | write written => exact ih h
    | read count =>
      rw [serve] at h
      rw [List.cons_append, serve]
      cases hread : q.read count with
      | none =>
        rw [hread] at h
        exact ih h
      | some taken =>
        rw [hread] at h
        obtain ⟨hr, rfl⟩ := Prod.mk.inj h
        dsimp only
        rw [ih (Prod.ext hr rfl), List.append_assoc]

@[simp] theorem capacity_serve (q : DataQueue) (accesses : List Access) :
    (q.serve accesses).1.capacity = q.capacity := by
  induction accesses generalizing q with
  | nil => rfl
  | cons access rest ih =>
    cases access with
    | write bytes =>
      cases hw : q.write bytes with
      | none => simpa [serve, hw] using ih q
      | some r => simpa [serve, hw, capacity_of_write hw] using ih r
    | read count =>
      cases hr : q.read count with
      | none => simpa [serve, hr] using ih q
      | some taken => simpa [serve, hr, capacity_of_read hr] using ih taken.2

theorem admitted_of_reads (q : DataQueue) {accesses : List Access}
    (h : ∀ access ∈ accesses, access.IsRead) : q.admitted accesses = [] := by
  induction accesses generalizing q with
  | nil => rfl
  | cons access rest ih =>
    obtain ⟨count, rfl⟩ := h access List.mem_cons_self
    have hrest := fun q => ih q fun a ha => h a (List.mem_cons_of_mem _ ha)
    rw [admitted]
    split
    · exact hrest _
    · exact hrest q

theorem served_of_writes (q : DataQueue) {accesses : List Access}
    (h : ∀ access ∈ accesses, access.IsWrite) : (q.serve accesses).2 = [] := by
  induction accesses generalizing q with
  | nil => rfl
  | cons access rest ih =>
    obtain ⟨bytes, rfl⟩ := h access List.mem_cons_self
    exact ih _ fun a ha => h a (List.mem_cons_of_mem _ ha)

/-- What a client that only writes gets in comes behind what is in the queue. -/
theorem contents_serve_of_writes (q : DataQueue) {accesses : List Access}
    (h : ∀ access ∈ accesses, access.IsWrite) :
    (q.serve accesses).1.contents = q.contents ++ q.admitted accesses := by
  have hpasses := q.passes_serve accesses
  rw [q.served_of_writes h] at hpasses
  exact hpasses.symm

/-- A client that only reads takes bytes off the front. -/
theorem contents_serve_of_reads (q : DataQueue) {accesses : List Access}
    (h : ∀ access ∈ accesses, access.IsRead) :
    q.contents = (q.serve accesses).2 ++ (q.serve accesses).1.contents := by
  have hpasses := q.passes_serve accesses
  rwa [q.admitted_of_reads h, Passes, List.append_nil] at hpasses

/-- Reading makes room. -/
theorem writable_le_serve (q : DataQueue) {accesses : List Access}
    (h : ∀ access ∈ accesses, access.IsRead) :
    q.writable ≤ (q.serve accesses).1.writable := by
  have hlength := congrArg List.length (q.contents_serve_of_reads h)
  simp only [writable, capacity_serve]
  rw [List.length_append] at hlength
  omega

end DataQueue

/-- The client only reads from the data queue in this turn. -/
def Turn.OnlyReads (t : Turn) : Prop := ∀ access ∈ t.before ++ t.during, access.IsRead

end AudioStream
