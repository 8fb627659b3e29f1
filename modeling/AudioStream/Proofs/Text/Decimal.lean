import AudioStream.Text.Decimal
import Mathlib.Algebra.Group.Nat.Defs
import Mathlib.Data.List.Basic

/-!
# Numerals are read back

The digits that are written for a number are read back as that number, in every base up to sixteen, with
letters in either case and with any number of zeros in front.

The main statement is `Decimal.ofDigits_toDigits`.
-/

namespace AudioStream.Decimal

variable {b n : Nat}

/-! ## Single digits -/

theorem digitValue?_digitChar : ∀ d < 16, digitValue? (Nat.digitChar d) = some d := by decide

theorem digitValue?_toUpper_digitChar :
    ∀ d < 16, digitValue? (Nat.digitChar d).toUpper = some d := by decide

/-- A character with a value below the base is a digit. -/
theorem isDigit_of_digitValue? {c : Char} {d : Nat} (hc : digitValue? c = some d) (hd : d < b) :
    isDigit b c = true := by
  simp [isDigit, hc, hd]

/-! ## Lists of digits -/

/-- Numerals grow by a digit at the end. -/
theorem toDigits_induction (hb : 1 < b) {P : Nat → List Char → Prop}
    (one : ∀ d < b, P d [Nat.digitChar d])
    (more : ∀ n d, 0 < n → d < b → P n (Nat.toDigits b n) →
      P (n * b + d) (Nat.toDigits b n ++ [Nat.digitChar d])) (n : Nat) :
    P n (Nat.toDigits b n) := by
  induction n using Nat.strongRecOn with
  | ind n ih =>
    rw [Nat.toDigits_eq_if hb]
    split
    next hlt => exact one n hlt
    next hge =>
      have hpos : 0 < n / b := Nat.div_pos (Nat.not_lt.mp hge) (by omega)
      have hless : n / b < n := Nat.div_lt_self (by omega) hb
      have hgrown := more (n / b) (n % b) hpos (Nat.mod_lt n (by omega)) (ih _ hless)
      rwa [Nat.div_add_mod'] at hgrown

theorem exists_digitChar_of_mem (hb : 1 < b) {c : Char} :
    c ∈ Nat.toDigits b n → ∃ d < b, c = Nat.digitChar d := by
  refine toDigits_induction hb (P := fun _ ds => c ∈ ds → _) ?_ ?_ n
  · exact fun d hd hc => ⟨d, hd, List.mem_singleton.mp hc⟩
  · intro n d _ hd ih hc
    rcases List.mem_append.mp hc with hfront | hlast
    · exact ih hfront
    · exact ⟨d, hd, List.mem_singleton.mp hlast⟩

theorem isDigit_of_mem_toDigits (hb : 1 < b) (hle : b ≤ 16) {c : Char}
    (hc : c ∈ Nat.toDigits b n) : isDigit b c = true := by
  obtain ⟨d, hd, rfl⟩ := exists_digitChar_of_mem hb hc
  exact isDigit_of_digitValue? (digitValue?_digitChar d (by omega)) hd

/-- A numeral begins with a digit. -/
theorem exists_cons_toDigits (hb : 1 < b) (hle : b ≤ 16) (n : Nat) :
    ∃ c ds, Nat.toDigits b n = c :: ds ∧ isDigit b c = true := by
  obtain ⟨c, ds, heq⟩ := List.exists_cons_of_ne_nil (Nat.toDigits_ne_nil (b := b) (n := n))
  exact ⟨c, ds, heq, isDigit_of_mem_toDigits hb hle (heq ▸ List.mem_cons_self)⟩

/-- An integer begins with a minus sign or a digit. -/
theorem exists_cons_chars (n : Int) : ∃ c cs, chars n = c :: cs ∧ (c = '-' ∨ isDigit 10 c = true) := by
  unfold chars
  split
  · exact ⟨_, _, rfl, .inl rfl⟩
  · obtain ⟨c, ds, heq, hc⟩ := exists_cons_toDigits (b := 10) (by decide) (by decide) n.natAbs
    exact ⟨c, ds, heq, .inr hc⟩

/-- A minus sign stands nowhere but in front. -/
theorem isDigit_of_chars {n : Int} {c d : Char} {cs : List Char} (h : chars n = c :: cs) (hd : d ∈ cs) :
    isDigit 10 d = true := by
  have hmem : d ∈ Nat.toDigits 10 n.natAbs := by
    unfold chars at h
    split at h
    · exact (List.cons.inj h).2 ▸ hd
    · exact h ▸ List.mem_cons_of_mem c hd
  exact isDigit_of_mem_toDigits (by decide) (by decide) hmem

theorem ne_of_begins {c d : Char} (hc : c = '-' ∨ isDigit 10 c = true) (hminus : d ≠ '-')
    (hdigit : isDigit 10 d = false) : c ≠ d := by
  rintro rfl
  rcases hc with rfl | hc
  · exact hminus rfl
  · rw [hdigit] at hc
    cases hc

theorem ofDigits_append_singleton (b : Nat) (cs : List Char) (c : Char) :
    ofDigits b (cs ++ [c]) = ofDigits b cs * b + (digitValue? c).getD 0 := by
  simp [ofDigits]

/-- The digits of a number give it back. -/
theorem ofDigits_toDigits (hb : 1 < b) (hle : b ≤ 16) (n : Nat) :
    ofDigits b (Nat.toDigits b n) = n := by
  refine toDigits_induction hb (P := fun n ds => ofDigits b ds = n) ?_ ?_ n
  · intro d hd
    simp [ofDigits, digitValue?_digitChar d (by omega)]
  · intro n d _ hd ih
    rw [ofDigits_append_singleton, ih, digitValue?_digitChar d (by omega)]
    rfl

/-- Only the number zero is written with a zero in front. -/
theorem eq_zero_of_head?_toDigits (hb : 1 < b) (hle : b ≤ 16) :
    (Nat.toDigits b n).head? = some '0' → n = 0 := by
  refine toDigits_induction hb (P := fun n ds => ds.head? = some '0' → n = 0) ?_ ?_ n
  · intro d hd h
    have hvalue := digitValue?_digitChar d (by omega)
    rw [Option.some.inj h] at hvalue
    exact (Option.some.inj hvalue).symm
  · intro n d hpos _ ih h
    rw [List.head?_append_of_ne_nil _ Nat.toDigits_ne_nil] at h
    exact absurd (ih h) (Nat.ne_of_gt hpos)

/-! ## Digits that are filled up -/

theorem ofDigits_replicate_append (b k : Nat) (cs : List Char) :
    ofDigits b (List.replicate k '0' ++ cs) = ofDigits b cs := by
  have hzero : ofDigits b (List.replicate k '0') = 0 := by
    induction k with
    | zero => rfl
    | succ k ih => rw [List.replicate_succ', ofDigits_append_singleton, ih, Nat.zero_mul]; rfl
  unfold ofDigits at hzero ⊢
  rw [List.foldl_append, hzero]

theorem ofDigits_padded (hb : 1 < b) (hle : b ≤ 16) (width n : Nat) :
    ofDigits b (padded b width n) = n := by
  rw [padded, ofDigits_replicate_append, ofDigits_toDigits hb hle]

theorem length_padded (hb : 1 < b) {width : Nat} (hwidth : 0 < width) (h : n < b ^ width) :
    (padded b width n).length = width := by
  have hle := (Nat.length_toDigits_le_iff hb hwidth).mpr h
  rw [padded, List.length_append, List.length_replicate]
  omega

theorem exists_digitChar_of_mem_padded (hb : 1 < b) {width : Nat} {c : Char}
    (hc : c ∈ padded b width n) : ∃ d < b, c = Nat.digitChar d := by
  rcases List.mem_append.mp hc with hzero | hdigit
  · exact ⟨0, by omega, List.eq_of_mem_replicate hzero⟩
  · exact exists_digitChar_of_mem hb hdigit

/-- Upper-case letters have the values of lower-case ones. -/
theorem ofDigits_hexUpper (width n : Nat) : ofDigits 16 (hexUpper width n) = n := by
  have hvalues : ∀ c ∈ padded 16 width n, digitValue? c.toUpper = digitValue? c := by
    intro c hc
    obtain ⟨d, hd, rfl⟩ := exists_digitChar_of_mem_padded (by decide) hc
    rw [digitValue?_toUpper_digitChar d hd, digitValue?_digitChar d hd]
  calc ofDigits 16 (hexUpper width n)
      = (padded 16 width n).foldl (fun n c => n * 16 + (digitValue? c.toUpper).getD 0) 0 := List.foldl_map
    _ = ofDigits 16 (padded 16 width n) :=
      List.foldl_ext _ _ _ fun n c hc => by rw [hvalues c hc]
    _ = n := ofDigits_padded (by decide) (by decide) width n

theorem isDigit_of_mem_hexLower {width : Nat} {c : Char} (hc : c ∈ hexLower width n) :
    isDigit 16 c = true := by
  obtain ⟨d, hd, rfl⟩ := exists_digitChar_of_mem_padded (by decide) hc
  exact isDigit_of_digitValue? (digitValue?_digitChar d hd) hd

theorem isDigit_of_mem_hexUpper {width : Nat} {c : Char} (hc : c ∈ hexUpper width n) :
    isDigit 16 c = true := by
  obtain ⟨lower, hlower, rfl⟩ := List.mem_map.mp hc
  obtain ⟨d, hd, rfl⟩ := exists_digitChar_of_mem_padded (by decide) hlower
  exact isDigit_of_digitValue? (digitValue?_toUpper_digitChar d hd) hd

end AudioStream.Decimal
