import AudioStream.Proofs.Text.Decimal
import AudioStream.Toml.Number

/-!
# TOML integers are read back

An integer that is written in base ten at the end of a line is read back, unless it needs more than sixty-four
bits. It is taken neither for a date, whose parts have other characters between them, nor for a float.

The main statement is `Toml.number_chars`.
-/

namespace AudioStream.Toml

/-- A word of sixty-four bits holds the number. -/
def IsWord (n : Int) : Prop := Int64.minValue.toInt ≤ n ∧ n ≤ Int64.maxValue.toInt

theorem word?_of_isWord {n : Int} (h : IsWord n) : word? n = some (.int n) := if_pos h

/-- A text that goes on with a digit, or with the end of the line. -/
def DigitOrEnd (cs : List Char) : Prop :=
  ∃ c tail, cs = c :: tail ∧ (c = '\n' ∨ Decimal.isDigit 10 c = true)

theorem DigitOrEnd.ne_cons {cs tail : List Char} {c : Char} (h : DigitOrEnd cs) (hline : c ≠ '\n')
    (hdigit : Decimal.isDigit 10 c = false) : cs ≠ c :: tail := by
  rintro rfl
  obtain ⟨d, tail, heq, hd⟩ := h
  obtain ⟨rfl, -⟩ := List.cons.inj heq
  rcases hd with rfl | hd
  · exact hline rfl
  · rw [hdigit] at hd
    cases hd

variable {rest : List Char}

/-! ## Dates -/

theorem digitOrEnd_append {ds : List Char} (hds : ∀ c ∈ ds, Decimal.isDigit 10 c = true) :
    DigitOrEnd (ds ++ '\n' :: rest) := by
  cases ds with
  | nil => exact ⟨_, _, rfl, .inl rfl⟩
  | cons d ds => exact ⟨_, _, rfl, .inr (hds d List.mem_cons_self)⟩

/-- After some digits of an integer come further ones, or the end of the line. -/
theorem digitOrEnd_of_fixed {width k : Nat} {n : Int} {tail : List Char}
    (h : fixed (width + 1) (Decimal.chars n ++ '\n' :: rest) = some (k, tail)) : DigitOrEnd tail := by
  obtain ⟨c, ds, heq, -⟩ := Decimal.exists_cons_chars n
  have hds : ∀ d ∈ ds, Decimal.isDigit 10 d = true := fun d => Decimal.isDigit_of_chars heq
  rw [heq, List.cons_append, fixed] at h
  split at h
  next htaken =>
    obtain ⟨-, rfl⟩ := Prod.mk.inj (Option.some.inj h)
    have hall := List.all_eq_true.mp htaken.2
    rw [List.drop_succ_cons]
    -- The line does not end within the digits that were taken.
    have hwidth : width ≤ ds.length := by
      refine Nat.le_of_not_lt fun hless => ?_
      have hend : '\n' ∈ (ds ++ '\n' :: rest).take width := by
        obtain ⟨k, hk⟩ : ∃ k, width - ds.length = k + 1 := ⟨width - ds.length - 1, by omega⟩
        rw [List.take_append, hk, List.take_succ_cons]
        exact List.mem_append_right _ List.mem_cons_self
      cases hall '\n' (List.mem_cons_of_mem c hend)
    rw [List.drop_append_of_le_length hwidth]
    exact digitOrEnd_append fun d hd => hds d (List.mem_of_mem_drop hd)
  next => cases h

theorem date?_chars (n : Int) : date? (Decimal.chars n ++ '\n' :: rest) = none := by
  unfold date?
  cases hfixed : fixed 4 (Decimal.chars n ++ '\n' :: rest) with
  | none => rfl
  | some result =>
    have htail := digitOrEnd_of_fixed hfixed
    simp only [Option.bind_eq_bind, Option.bind_some]
    split
    next heq => exact absurd heq (htail.ne_cons (by decide) (by decide))
    next => rfl

theorem hourMinute?_chars (n : Int) : hourMinute? (Decimal.chars n ++ '\n' :: rest) = none := by
  unfold hourMinute?
  cases hfixed : fixed 2 (Decimal.chars n ++ '\n' :: rest) with
  | none => rfl
  | some result =>
    have htail := digitOrEnd_of_fixed hfixed
    simp only [Option.bind_eq_bind, Option.bind_some]
    split
    next heq => exact absurd heq (htail.ne_cons (by decide) (by decide))
    next => rfl

theorem dateTime_chars (n : Int) : dateTime (Decimal.chars n ++ '\n' :: rest) = none := by
  simp [dateTime, time?, date?_chars, hourMinute?_chars]

/-! ## Digits -/

theorem digitRun_append {ds : List Char} (hds : ∀ c ∈ ds, Decimal.isDigit 10 c = true) :
    digitRun 10 (ds ++ '\n' :: rest) = (ds, '\n' :: rest) := by
  induction ds with
  | nil => rfl
  | cons d ds ih =>
    obtain ⟨hd, hds⟩ := List.forall_mem_cons.mp hds
    rw [List.cons_append, digitRun, if_pos hd, ih hds]
    rintro _ _ rfl
    cases hd

theorem whole?_toDigits (n : Nat) :
    whole? (Nat.toDigits 10 n ++ '\n' :: rest) = some (Nat.toDigits 10 n, '\n' :: rest) := by
  obtain ⟨c, ds, heq, hc⟩ := Decimal.exists_cons_toDigits (b := 10) (by decide) (by decide) n
  by_cases hzero : c = '0'
  · -- A zero in front is written for the number zero only, and stands alone then.
    have hn : n = 0 :=
      Decimal.eq_zero_of_head?_toDigits (b := 10) (by decide) (by decide) (by rw [heq, hzero]; rfl)
    rw [hn]
    rfl
  · have hds : ∀ d ∈ ds, Decimal.isDigit 10 d = true := fun d hd =>
      Decimal.isDigit_of_mem_toDigits (b := 10) (by decide) (by decide) (heq ▸ List.mem_cons_of_mem c hd)
    rw [heq, List.cons_append, whole?, digits?, if_pos hc, digitRun_append hds]
    exact fun _ h => hzero (List.cons.inj h).1

theorem sign_chars (n : Int) : sign (Decimal.chars n ++ '\n' :: rest) =
    (decide (n < 0), Nat.toDigits 10 n.natAbs ++ '\n' :: rest) := by
  by_cases hneg : n < 0
  · simp [Decimal.chars_of_neg hneg, sign, hneg]
  · obtain ⟨c, ds, heq, hc⟩ := Decimal.exists_cons_toDigits (b := 10) (by decide) (by decide) n.natAbs
    rw [Decimal.chars_of_nonneg (Int.not_lt.mp hneg), heq]
    unfold sign
    split
    next h => rw [(List.cons.inj h).1] at hc; cases hc
    next h => rw [(List.cons.inj h).1] at hc; cases hc
    next => simp [hneg]

/-! ## Numbers -/

theorem float_chars (n : Int) : float (Decimal.chars n ++ '\n' :: rest) = none := by
  obtain ⟨c, ds, heq, hc⟩ := Decimal.exists_cons_toDigits (b := 10) (by decide) (by decide) n.natAbs
  have hwhole : whole? (c :: ds ++ '\n' :: rest) = some (c :: ds, '\n' :: rest) := heq ▸ whole?_toDigits n.natAbs
  unfold float
  rw [sign_chars, heq]
  simp only
  split
  next h => rw [(List.cons.inj h).1] at hc; cases hc
  next h => rw [(List.cons.inj h).1] at hc; cases hc
  next =>
    rw [hwhole]
    rfl

/-- Behind the first character of an integer comes a digit, or the end of the line. -/
theorem chars_ne_cons_cons (n : Int) {c d : Char} {tail : List Char} (hline : d ≠ '\n')
    (hdigit : Decimal.isDigit 10 d = false) : Decimal.chars n ++ '\n' :: rest ≠ c :: d :: tail := by
  obtain ⟨e, ds, heq, -⟩ := Decimal.exists_cons_chars n
  have htail : DigitOrEnd (ds ++ '\n' :: rest) := digitOrEnd_append fun d => Decimal.isDigit_of_chars heq
  rw [heq]
  exact fun h => htail.ne_cons hline hdigit (List.cons.inj h).2

theorem integer_chars {n : Int} (h : IsWord n) :
    integer (Decimal.chars n ++ '\n' :: rest) = some (.int n, '\n' :: rest) := by
  have habs : Decimal.ofDigits 10 (Nat.toDigits 10 n.natAbs) = n.natAbs :=
    Decimal.ofDigits_toDigits (by decide) (by decide) _
  have hvalue : (if decide (n < 0) = true then -(Decimal.ofDigits 10 (Nat.toDigits 10 n.natAbs) : Int)
      else Decimal.ofDigits 10 (Nat.toDigits 10 n.natAbs)) = n := by
    split
    next hneg => have := of_decide_eq_true hneg; omega
    next hneg => have := of_decide_eq_false (Bool.eq_false_iff.mpr hneg); omega
  unfold integer
  split
  iterate 3 next heq => exact absurd heq (chars_ne_cons_cons n (by decide) (by decide))
  next =>
    rw [sign_chars]
    simp only [whole?_toDigits, Option.bind_eq_bind, Option.bind_some, hvalue, word?_of_isWord h]

theorem number_chars {n : Int} (h : IsWord n) :
    number (Decimal.chars n ++ '\n' :: rest) = some (.int n, '\n' :: rest) := by
  rw [number, dateTime_chars, float_chars, integer_chars h]
  rfl

end AudioStream.Toml
