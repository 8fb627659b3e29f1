import AudioStream.Queue.Ring

/-!
# Rings of bytes

A ring is lawful if it gives bytes out in the order in which they came in, moves as much of a slice as it can,
and says how much that is. A ring in cells that are used over and over is lawful: its two positions, which go
round twice, always tell how many bytes there are, and a byte that is put in overwrites none of them.
-/

namespace AudioStream

open ByteRing

/-- What is known of a ring. -/
class LawfulByteRing (ρ : Type) [ByteRing ρ] where
  /-- The bytes that are in a ring, the oldest first. -/
  contents : ρ → List UInt8
  capacity : ρ → Nat
  contents_ofCapacity (n : Nat) (pos : 0 < n) : contents (ofCapacity n pos) = []
  capacity_ofCapacity (n : Nat) (pos : 0 < n) : capacity (ofCapacity n pos) = n
  occupied_eq (r : ρ) : occupied r = (contents r).length
  vacant_eq (r : ρ) : vacant r = capacity r - (contents r).length
  moved_push (bytes : List UInt8) (r : ρ) : (push bytes r).1 = min bytes.length (vacant r)
  contents_push (bytes : List UInt8) (r : ρ) :
    contents (push bytes r).2 = contents r ++ bytes.take (push bytes r).1
  capacity_push (bytes : List UInt8) (r : ρ) : capacity (push bytes r).2 = capacity r
  moved_pop (out : List UInt8) (r : ρ) : (pop out r).1 = min out.length (occupied r)
  filled_pop (out : List UInt8) (r : ρ) :
    (pop out r).2.1 = (contents r).take (pop out r).1 ++ out.drop (pop out r).1
  contents_pop (out : List UInt8) (r : ρ) :
    contents (pop out r).2.2 = (contents r).drop (pop out r).1
  capacity_pop (out : List UInt8) (r : ρ) : capacity (pop out r).2.2 = capacity r

/-! ## Cells that are used over and over -/

section Positions

variable {size front back i j : Nat}

/-- Positions that are less than a round apart are in different cells. -/
theorem wrap_ne_wrap (hfront : front < 2 * size) (hij : i < j) (hj : j < size) :
    wrap size (wrap (2 * size) (front + j)) ≠ wrap size (wrap (2 * size) (front + i)) := by
  unfold wrap
  split <;> split <;> split <;> split <;> omega

theorem wrap_gap (hfront : front < 2 * size) (hback : back < 2 * size) :
    wrap (2 * size) (front + gap size front back) = back := by
  unfold gap wrap
  split <;> split <;> omega

theorem wrap_front (hfront : front < 2 * size) (hi : i < size) :
    wrap (2 * size) (wrap (2 * size) (front + 1) + i) = wrap (2 * size) (front + (i + 1)) := by
  unfold wrap
  split <;> split <;> split <;> omega

end Positions

namespace Circle

variable {c : Circle} {b : UInt8}

/-- The byte that is `i` places behind the oldest one. -/
def byte (c : Circle) (i : Nat) : UInt8 :=
  c.cells[wrap c.cells.size (wrap (2 * c.cells.size) (c.front + i))]?.getD 0

def contents (c : Circle) : List UInt8 := (List.range c.occupied).map c.byte

theorem length_contents (c : Circle) : c.contents.length = c.occupied := by
  simp [contents]

theorem occupied_ofCapacity (n : Nat) (pos : 0 < n) : (ofCapacity n pos).occupied = 0 := by
  simp [ofCapacity, occupied, gap, wrap]

theorem size_put (h : c.occupied < c.cells.size) : (c.put b h).cells.size = c.cells.size := by
  simp [put]

theorem occupied_put (h : c.occupied < c.cells.size) : (c.put b h).occupied = c.occupied + 1 := by
  rw [occupied, size_put h]
  exact gap_back c.back_lt c.front_lt h

theorem occupied_drop (h : 0 < c.occupied) : (c.drop h).occupied = c.occupied - 1 :=
  gap_front c.back_lt c.front_lt h

/-- The place behind the youngest byte is where the next one goes. -/
theorem back_eq (c : Circle) : wrap (2 * c.cells.size) (c.front + c.occupied) = c.back :=
  wrap_gap c.front_lt c.back_lt

theorem byte_put (h : c.occupied < c.cells.size) (i : Nat) :
    (c.put b h).byte i =
      if wrap c.cells.size c.back = wrap c.cells.size (wrap (2 * c.cells.size) (c.front + i)) then b
      else c.byte i := by
  rw [byte, size_put h]
  unfold put byte
  rw [Array.getElem?_set]
  split <;> rfl

theorem contents_put (h : c.occupied < c.cells.size) : (c.put b h).contents = c.contents ++ [b] := by
  have hlast : (c.put b h).byte c.occupied = b := by
    rw [byte_put, back_eq, if_pos rfl]
  have hothers : ∀ i ∈ List.range c.occupied, (c.put b h).byte i = c.byte i := by
    intro i hi
    rw [byte_put, ← back_eq, if_neg (wrap_ne_wrap c.front_lt (List.mem_range.mp hi) h)]
  rw [contents, occupied_put, List.range_succ, List.map_append, List.map_congr_left hothers,
    List.map_singleton, hlast, contents]

theorem contents_drop (h : 0 < c.occupied) : c.contents = c.first :: (c.drop h).contents := by
  obtain ⟨n, hn⟩ : ∃ n, c.occupied = n + 1 := ⟨c.occupied - 1, by omega⟩
  have hfirst : c.byte 0 = c.first := by
    have hplace : wrap (2 * c.cells.size) (c.front + 0) = c.front := if_pos c.front_lt
    rw [byte, hplace, Array.getElem?_eq_getElem (wrap_lt c.front_lt), Option.getD_some, first]
  have hothers : ∀ i ∈ List.range n, c.byte (i + 1) = (c.drop h).byte i := fun i hi => by
    have hle : c.occupied ≤ c.cells.size := c.gap_le
    have hi : i < c.cells.size := by
      have := List.mem_range.mp hi
      omega
    rw [byte, byte, ← wrap_front c.front_lt hi, drop]
  rw [contents, contents, occupied_drop, hn, List.range_succ_eq_map, List.map_cons, List.map_map, hfirst,
    Nat.add_sub_cancel]
  exact congrArg _ (List.map_congr_left hothers)

theorem moved_push (bytes : List UInt8) (c : Circle) :
    (push bytes c).1 = min bytes.length c.vacant := by
  fun_induction push bytes c with
  | case1 c => simp
  | case2 b bytes c h moved c' heq ih =>
    rw [heq, vacant, size_put, occupied_put] at ih
    simp only [vacant, List.length_cons]
    omega
  | case3 b bytes c h =>
    simp only [vacant]
    omega

theorem contents_push (bytes : List UInt8) (c : Circle) :
    (push bytes c).2.contents = c.contents ++ bytes.take (push bytes c).1 := by
  fun_induction push bytes c with
  | case1 c => simp
  | case2 b bytes c h moved c' heq ih =>
    rw [heq, contents_put] at ih
    simpa using ih
  | case3 b bytes c h => simp

theorem size_push (bytes : List UInt8) (c : Circle) :
    (push bytes c).2.cells.size = c.cells.size := by
  fun_induction push bytes c with
  | case1 c => rfl
  | case2 b bytes c h moved c' heq ih =>
    rw [heq, size_put] at ih
    exact ih
  | case3 b bytes c h => rfl

theorem moved_pop (out : List UInt8) (c : Circle) :
    (pop out c).1 = min out.length c.occupied := by
  fun_induction pop out c with
  | case1 c => simp
  | case2 x out c h moved out' c' heq ih =>
    rw [heq, occupied_drop] at ih
    simp only [List.length_cons]
    omega
  | case3 x out c h => omega

theorem filled_pop (out : List UInt8) (c : Circle) :
    (pop out c).2.1 = c.contents.take (pop out c).1 ++ out.drop (pop out c).1 := by
  fun_induction pop out c with
  | case1 c => simp
  | case2 x out c h moved out' c' heq ih =>
    rw [heq] at ih
    rw [contents_drop h]
    simpa using ih
  | case3 x out c h => simp

theorem contents_pop (out : List UInt8) (c : Circle) :
    (pop out c).2.2.contents = c.contents.drop (pop out c).1 := by
  fun_induction pop out c with
  | case1 c => simp
  | case2 x out c h moved out' c' heq ih =>
    rw [heq] at ih
    rw [contents_drop h]
    simpa using ih
  | case3 x out c h => simp

theorem size_pop (out : List UInt8) (c : Circle) :
    (pop out c).2.2.cells.size = c.cells.size := by
  fun_induction pop out c with
  | case1 c => rfl
  | case2 x out c h moved out' c' heq ih =>
    rw [heq] at ih
    exact ih
  | case3 x out c h => rfl

instance : LawfulByteRing Circle where
  contents := contents
  capacity c := c.cells.size
  contents_ofCapacity n pos := by
    rw [← List.length_eq_zero_iff, length_contents]
    exact occupied_ofCapacity n pos
  capacity_ofCapacity n pos := Array.size_replicate
  occupied_eq c := c.length_contents.symm
  vacant_eq c := by rw [length_contents]; rfl
  moved_push := moved_push
  contents_push := contents_push
  capacity_push := size_push
  moved_pop := moved_pop
  filled_pop := filled_pop
  contents_pop := contents_pop
  capacity_pop := size_pop

end Circle

end AudioStream
