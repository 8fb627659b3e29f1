import AudioStream.Proofs.Text.Decimal
import AudioStream.Toml.Quoted
import AudioStream.Toml.Written

/-!
# TOML strings are read back

A text is read back from the string that is written for it, in whichever of the four forms that is.

The main statement is `Toml.quoted_stringChars`.
-/

namespace AudioStream.Toml

/-! ## Escapes -/

/-- The number of a character in four digits is read as that character, unless it is half of a surrogate
pair or too great. -/
theorem scalar?_hexUpper {c : Char} (h : c.toNat < 0xd800) :
    scalar? (Decimal.hexUpper 4 c.toNat) = some c := by
  have hdigits : (Decimal.hexUpper 4 c.toNat).all (Decimal.isDigit 16) = true :=
    List.all_eq_true.mpr fun d hd => Decimal.isDigit_of_mem_hexUpper hd
  simp [scalar?, hdigits, Decimal.ofDigits_hexUpper, h, Char.ofNat_toNat]

/-- An escape is a letter, or the number of the character in four digits. -/
theorem escape_eq {c : Char} (h : c.toNat < 0xd800) :
    (∃ d, escape c = ['\x5c', d] ∧ escaped? d = some c) ∨
    ∃ x y z w, escape c = ['\x5c', 'u', x, y, z, w] ∧ scalar? [x, y, z, w] = some c := by
  unfold escape
  split
  iterate 7 next => exact .inl ⟨_, rfl, rfl⟩
  next =>
    have hlength : (Decimal.hexUpper 4 c.toNat).length = 4 := by
      rw [Decimal.hexUpper, List.length_map]
      exact Decimal.length_padded (by decide) (by decide) (by omega)
    have hscalar := scalar?_hexUpper h
    obtain ⟨x, y, z, w, heq⟩ := List.length_eq_four.mp hlength
    rw [heq] at hscalar ⊢
    exact .inr ⟨x, y, z, w, rfl, hscalar⟩

theorem basic_escape {c : Char} (h : c.toNat < 0xd800) (tail : List Char) :
    basic (escape c ++ tail) = andThen (some c) (basic tail) := by
  rcases escape_eq h with ⟨d, heq, hd⟩ | ⟨x, y, z, w, heq, hscalar⟩
  · rw [heq, List.cons_append, List.cons_append, List.nil_append, basic, hd]
    · rintro _ _ _ _ _ ⟨⟩
      cases hd
    · rintro _ _ _ _ _ _ _ _ _ ⟨⟩
      cases hd
  · rw [heq]
    simp only [List.cons_append, List.nil_append]
    rw [basic, hscalar]

theorem basicLines_escape {c : Char} (h : c.toNat < 0xd800) (tail : List Char) :
    basicLines false (escape c ++ tail) = andThen (some c) (basicLines false tail) := by
  rcases escape_eq h with ⟨d, heq, hd⟩ | ⟨x, y, z, w, heq, hscalar⟩
  · have hblank : blankToLineEnd (d :: tail) = false := by
      unfold escaped? at hd
      split at hd
      iterate 7 next => rfl
      next => cases hd
    rw [heq, List.cons_append, List.cons_append, List.nil_append, basicLines, hblank]
    · simp [hd]
    · rintro _ _ _ _ _ ⟨⟩
      cases hd
    · rintro _ _ _ _ _ _ _ _ _ ⟨⟩
      cases hd
  · rw [heq]
    simp only [List.cons_append, List.nil_append]
    rw [basicLines, hscalar]

theorem toNat_lt_of_isControl {c : Char} (h : isControl c = true) : c.toNat < 0xd800 := by
  simp only [isControl, Bool.or_eq_true, Bool.and_eq_true, decide_eq_true_eq, beq_iff_eq] at h
  rcases h with ⟨⟨hlow, -⟩, -⟩ | rfl
  · have hsmall : c.toNat < 32 := UInt32.lt_iff_toNat_lt.mp hlow
    omega
  · decide

/-- A character that is no control character stands for itself, unless it is a line feed. -/
theorem isPlain_of_isControl {c : Char} (h : isControl c = false) (hline : c ≠ '\n') : isPlain c = true := by
  simp only [isControl, Bool.or_eq_false_iff, Bool.and_eq_false_iff, decide_eq_false_iff_not, bne_eq_false_iff_eq,
    beq_eq_false_iff_ne] at h
  obtain ⟨(hhigh | htab) | hfeed, hdelete⟩ := h
  · have hle : ' ' ≤ c := Char.not_lt.mp hhigh
    simp [isPlain, hle, hdelete]
  · simp [isPlain, htab]
  · exact absurd hfeed hline

/-- What is written for a character within a basic string that comes after some quotes in a row, and how many
quotes stand in a row then. -/
inductive Spells (severalLines : Bool) (allowed n : Nat) : Char → List Char → Nat → Prop where
  | quote (h : n < allowed) : Spells severalLines allowed n '\x22' ['\x22'] (n + 1)
  | lineFeed (h : severalLines = true) : Spells severalLines allowed n '\n' ['\n'] 0
  | escape {c : Char} (h : c.toNat < 0xd800) : Spells severalLines allowed n c (escape c) 0
  | plain {c : Char} (hquote : c ≠ '\x22') (hbackslash : c ≠ '\x5c') (hline : c ≠ '\n')
      (hplain : isPlain c = true) : Spells severalLines allowed n c [c] 0

theorem exists_spells (severalLines : Bool) (allowed n : Nat) (c : Char) (cs : List Char) :
    ∃ text m, Spells severalLines allowed n c text m ∧
      escapeAll severalLines allowed n (c :: cs) = text ++ escapeAll severalLines allowed m cs := by
  rw [escapeAll]
  split
  next hquote =>
    subst hquote
    split
    next hless => exact ⟨_, _, .quote hless, rfl⟩
    next => exact ⟨_, _, .escape (by decide), rfl⟩
  next hquote =>
    split
    next hfeed =>
      simp only [Bool.and_eq_true, decide_eq_true_eq] at hfeed
      obtain ⟨rfl, hseveral⟩ := hfeed
      exact ⟨_, _, .lineFeed hseveral, rfl⟩
    next =>
      split
      next hspecial =>
        simp only [Bool.or_eq_true, decide_eq_true_eq] at hspecial
        rcases hspecial with ((rfl | rfl) | rfl) | hcontrol
        · exact ⟨_, _, .escape (by decide), rfl⟩
        · exact ⟨_, _, .escape (by decide), rfl⟩
        · exact ⟨_, _, .escape (by decide), rfl⟩
        · exact ⟨_, _, .escape (toNat_lt_of_isControl hcontrol), rfl⟩
      next hspecial =>
        simp only [Bool.or_eq_true, decide_eq_true_eq, not_or, Bool.not_eq_true] at hspecial
        obtain ⟨⟨⟨-, hline⟩, hbackslash⟩, hcontrol⟩ := hspecial
        exact ⟨_, _, .plain hquote hbackslash hline (isPlain_of_isControl hcontrol hline), rfl⟩

/-! ## Strings on one line -/

theorem basic_plain {c : Char} (hquote : c ≠ '\x22') (hbackslash : c ≠ '\x5c') (hplain : isPlain c = true)
    (tail : List Char) : basic (c :: tail) = andThen (some c) (basic tail) := by
  rw [basic]
  · rw [if_pos hplain]
  · exact hquote
  · exact fun _ _ _ _ _ h => absurd h hbackslash
  · exact fun _ _ _ _ _ _ _ _ _ h => absurd h hbackslash
  · exact fun _ _ h => absurd h hbackslash

theorem basic_escapeAll (cs rest : List Char) :
    basic (escapeAll false 0 0 cs ++ '\x22' :: rest) = some (cs, rest) := by
  induction cs with
  | nil => rfl
  | cons c cs ih =>
    obtain ⟨text, m, hspells, heq⟩ := exists_spells false 0 0 c cs
    rw [heq, List.append_assoc]
    cases hspells with
    | quote h => cases h
    | lineFeed h => cases h
    | escape h => rw [basic_escape h, ih]; rfl
    | plain hquote hbackslash _ hplain =>
      rw [List.singleton_append, basic_plain hquote hbackslash hplain, ih]
      rfl

theorem literal_append {cs : List Char} (hplain : ∀ c ∈ cs, isPlain c = true ∧ c ≠ '\x27')
    (rest : List Char) : literal (cs ++ '\x27' :: rest) = some (cs, rest) := by
  induction cs with
  | nil => rfl
  | cons c cs ih =>
    obtain ⟨⟨hc, hquote⟩, hcs⟩ := List.forall_mem_cons.mp hplain
    rw [List.cons_append, literal, if_pos hc, ih hcs]
    · rfl
    · exact hquote

/-! ## The end of a string over several lines -/

section Closing

variable {q c d : Char} {rest : List Char}

theorem closing?_three (hrest : rest.head? ≠ some q) : closing? q (q :: q :: q :: rest) = some ([], rest) := by
  rcases rest with _ | ⟨d, _ | ⟨e, rest⟩⟩ <;> simp_all [closing?]

theorem closing?_four (hrest : rest.head? ≠ some q) :
    closing? q (q :: q :: q :: q :: rest) = some ([q], rest) := by
  rcases rest with _ | ⟨d, rest⟩ <;> simp_all [closing?]

theorem closing?_five (q : Char) (rest : List Char) :
    closing? q (q :: q :: q :: q :: q :: rest) = some ([q, q], rest) := by
  simp [closing?]

theorem closing?_other (h : c ≠ q) (rest : List Char) : closing? q (c :: rest) = none := by
  rcases rest with _ | ⟨d, _ | ⟨e, rest⟩⟩ <;> simp_all [closing?]

theorem closing?_one_other (h : c ≠ q) (rest : List Char) : closing? q (q :: c :: rest) = none := by
  rcases rest with _ | ⟨d, rest⟩ <;> simp_all [closing?]

theorem closing?_two_other (h : c ≠ q) (rest : List Char) : closing? q (q :: q :: c :: rest) = none := by
  simp_all [closing?]

end Closing

/-! ## Literal strings over several lines -/

theorem literalLines_of_closing {c : Char} {rest : List Char} {result : List Char × List Char}
    (hline : c ≠ '\n') (hreturn : c ≠ '\r') (h : closing? '\x27' (c :: rest) = some result) :
    literalLines (c :: rest) = some result := by
  rw [literalLines, h]
  · exact hline
  · exact fun _ h => absurd h hreturn

theorem literalLines_plain {c : Char} {rest : List Char} (hline : c ≠ '\n')
    (h : closing? '\x27' (c :: rest) = none) (hplain : isPlain c = true) :
    literalLines (c :: rest) = andThen (some c) (literalLines rest) := by
  rw [literalLines, h, if_pos hplain]
  · exact hline
  · rintro _ rfl
    cases hplain

theorem literalLines_append {rest : List Char} (hrest : rest.head? ≠ some '\x27') {cs : List Char} {n : Nat}
    (hrun : longestRun '\x27' n cs ≤ 2) (hplain : ∀ c ∈ cs, c ≠ '\n' → isPlain c = true) :
    literalLines (cs ++ '\x27' :: '\x27' :: '\x27' :: rest) = some (cs, rest) := by
  induction cs generalizing n with
  | nil => exact literalLines_of_closing (by decide) (by decide) (closing?_three hrest)
  | cons c cs ih =>
    obtain ⟨hc, hcs⟩ := List.forall_mem_cons.mp hplain
    rw [longestRun] at hrun
    by_cases hquote : c = '\x27'
    · subst hquote
      rw [if_pos rfl] at hrun
      have ih := ih (Nat.le_trans (Nat.le_max_right _ _) hrun) hcs
      have hplainly (h : closing? '\x27' ('\x27' :: (cs ++ '\x27' :: '\x27' :: '\x27' :: rest)) = none) :
          literalLines ('\x27' :: (cs ++ '\x27' :: '\x27' :: '\x27' :: rest)) = some ('\x27' :: cs, rest) := by
        rw [literalLines_plain (by decide) h (by decide), ih]
        rfl
      -- The quotes at the end of the text are read with the delimiter; three in a row there are not.
      match cs with
      | [] => exact literalLines_of_closing (by decide) (by decide) (closing?_four hrest)
      | d :: ds =>
        by_cases hd : d = '\x27'
        · subst hd
          match ds with
          | [] => exact literalLines_of_closing (by decide) (by decide) (closing?_five _ rest)
          | e :: es =>
            refine hplainly (closing?_two_other ?_ _)
            rintro rfl
            simp only [longestRun, if_true] at hrun
            omega
        · exact hplainly (closing?_one_other hd _)
    · rw [if_neg hquote] at hrun
      by_cases hline : c = '\n'
      · subst hline
        rw [List.cons_append, literalLines, ih hrun hcs]
        rfl
      · rw [List.cons_append, literalLines_plain hline (closing?_other hquote _) (hc hline), ih hrun hcs]
        rfl

/-! ## Basic strings over several lines -/

theorem basicLines_of_closing {c : Char} {rest : List Char} {result : List Char × List Char}
    (hline : c ≠ '\n') (hreturn : c ≠ '\r') (hbackslash : c ≠ '\x5c')
    (h : closing? '\x22' (c :: rest) = some result) : basicLines false (c :: rest) = some result := by
  rw [basicLines, h]
  · rfl
  · exact hline
  · exact fun _ h => absurd h hreturn
  · exact fun _ _ _ _ _ h => absurd h hbackslash
  · exact fun _ _ _ _ _ _ _ _ _ h => absurd h hbackslash
  · exact hbackslash

theorem basicLines_plain {c : Char} {rest : List Char} (hline : c ≠ '\n') (hbackslash : c ≠ '\x5c')
    (h : closing? '\x22' (c :: rest) = none) (hplain : isPlain c = true) :
    basicLines false (c :: rest) = andThen (some c) (basicLines false rest) := by
  rw [basicLines, h]
  · simp [hplain]
  · exact hline
  · rintro _ rfl
    cases hplain
  · exact fun _ _ _ _ _ h => absurd h hbackslash
  · exact fun _ _ _ _ _ _ _ _ _ h => absurd h hbackslash
  · exact hbackslash

/-- Only a quote that is allowed is written as a quote; all else begins with something else. -/
theorem Spells.eq_quote_or {severalLines : Bool} {allowed n m : Nat} {c : Char} {text : List Char}
    (h : Spells severalLines allowed n c text m) :
    (n < allowed ∧ c = '\x22' ∧ text = ['\x22'] ∧ m = n + 1) ∨ ∃ d tail, d ≠ '\x22' ∧ text = d :: tail := by
  cases h with
  | quote h => exact .inl ⟨h, rfl, rfl, rfl⟩
  | lineFeed => exact .inr ⟨_, _, by decide, rfl⟩
  | escape h =>
    rcases escape_eq h with ⟨_, heq, -⟩ | ⟨_, _, _, _, heq, -⟩ <;>
      exact .inr ⟨'\x5c', _, by decide, heq⟩
  | plain hquote => exact .inr ⟨_, _, hquote, rfl⟩

theorem basicLines_escapeAll {rest : List Char} (hrest : rest.head? ≠ some '\x22') (cs : List Char) (n : Nat) :
    basicLines false (escapeAll true 2 n cs ++ '\x22' :: '\x22' :: '\x22' :: rest) = some (cs, rest) := by
  induction cs generalizing n with
  | nil => exact basicLines_of_closing (by decide) (by decide) (by decide) (closing?_three hrest)
  | cons c cs ih =>
    obtain ⟨text, m, hspells, heq⟩ := exists_spells true 2 n c cs
    rw [heq, List.append_assoc]
    cases hspells with
    | quote h =>
      have hplainly (hnone : closing? '\x22' ('\x22' :: (escapeAll true 2 (n + 1) cs ++
            '\x22' :: '\x22' :: '\x22' :: rest)) = none) :
          basicLines false ('\x22' :: (escapeAll true 2 (n + 1) cs ++
            '\x22' :: '\x22' :: '\x22' :: rest)) = some ('\x22' :: cs, rest) := by
        rw [basicLines_plain (by decide) (by decide) hnone (by decide), ih]
        rfl
      -- The quotes at the end of the text are read with the delimiter; three in a row there are not.
      match cs with
      | [] => exact basicLines_of_closing (by decide) (by decide) (by decide) (closing?_four hrest)
      | d :: ds =>
        obtain ⟨text, m, hspells, heq⟩ := exists_spells true 2 (n + 1) d ds
        rcases hspells.eq_quote_or with ⟨hless, rfl, rfl, rfl⟩ | ⟨x, tail, hx, rfl⟩
        · match ds with
          | [] =>
            rw [heq]
            exact basicLines_of_closing (by decide) (by decide) (by decide) (closing?_five _ rest)
          | e :: es =>
            apply hplainly
            obtain ⟨text, m, hspells, heq'⟩ := exists_spells true 2 (n + 1 + 1) e es
            rcases hspells.eq_quote_or with ⟨hless', -⟩ | ⟨x, tail, hx, rfl⟩
            · omega
            · rw [heq, heq']
              exact closing?_two_other hx _
        · apply hplainly
          rw [heq]
          exact closing?_one_other hx _
    | lineFeed =>
      rw [List.singleton_append, basicLines, ih]
      rfl
    | escape h =>
      rw [basicLines_escape h, ih]
      rfl
    | plain hquote hbackslash hline hplain =>
      rw [List.singleton_append, basicLines_plain hline hbackslash (closing?_other hquote _) hplain, ih]
      rfl

/-! ## The form that is chosen -/

theorem longestRun_pos {c : Char} {cs : List Char} (hc : c ∈ cs) (n : Nat) : 0 < longestRun c n cs := by
  induction cs generalizing n with
  | nil => cases hc
  | cons d cs ih =>
    rw [longestRun]
    split
    next => exact Nat.lt_of_lt_of_le n.succ_pos (Nat.le_max_left _ _)
    next hne =>
      rcases List.mem_cons.mp hc with rfl | hc
      · exact absurd rfl hne
      · exact ih hc 0

theorem formOf_eq_literal {t : Traits} (h : formOf t = .literal) :
    t.hasControl = false ∧ t.apostrophes = 0 ∧ t.hasNewline = false := by
  grind [formOf]

theorem formOf_eq_literalLines {t : Traits} (h : formOf t = .literalLines) :
    t.hasControl = false ∧ t.apostrophes ≤ 2 := by
  grind [formOf]

theorem isPlain_of_traits {cs : List Char} (h : (traits cs).hasControl = false) {c : Char} (hc : c ∈ cs)
    (hline : c ≠ '\n') : isPlain c = true :=
  isPlain_of_isControl (Bool.eq_false_iff.mpr (List.any_eq_false.mp h c hc)) hline

/-! ## Delimiters -/

/-- Nothing is dropped from a text that begins with neither a line feed nor a carriage return. -/
theorem dropLineEnd_cons {c : Char} (hline : c ≠ '\n') (hreturn : c ≠ '\r') (cs : List Char) :
    dropLineEnd (c :: cs) = c :: cs := by
  unfold dropLineEnd
  split
  next heq => exact absurd (List.cons.inj heq).1 hline
  next heq => exact absurd (List.cons.inj heq).1 hreturn
  next => rfl

/-- The line end that is written in front of a text of several lines is dropped, and nothing else. -/
theorem dropLineEnd_start {cs body : List Char}
    (hbody : '\n' ∉ cs → ∃ c tail, body = c :: tail ∧ c ≠ '\n' ∧ c ≠ '\r') :
    dropLineEnd ((if cs.contains '\n' then ['\n'] else []) ++ body) = body := by
  split
  next => rfl
  next hline =>
    obtain ⟨c, tail, rfl, hc⟩ := hbody (by simpa using hline)
    exact dropLineEnd_cons hc.1 hc.2 tail

theorem quoted_basic {c : Char} {cs : List Char} (h : c = '\x22' → cs.head? ≠ some '\x22') :
    quoted ('\x22' :: c :: cs) = basic (c :: cs) := by
  unfold quoted
  split
  next heq => cases heq; exact absurd rfl (h rfl)
  next heq => cases heq
  next heq => cases heq; rfl
  next heq => cases heq
  next hother _ => exact absurd rfl (hother _)

theorem quoted_literal {c : Char} {cs : List Char} (h : c = '\x27' → cs.head? ≠ some '\x27') :
    quoted ('\x27' :: c :: cs) = literal (c :: cs) := by
  unfold quoted
  split
  next heq => cases heq
  next heq => cases heq; exact absurd rfl (h rfl)
  next heq => cases heq
  next heq => cases heq; rfl
  next hother => exact absurd rfl (hother _)

/-- What is written for a text without line feeds begins with no line end, in front of the delimiter. -/
theorem exists_cons_escapeAll {cs : List Char} (hcs : '\n' ∉ cs) (n : Nat) (rest : List Char) :
    ∃ c tail, escapeAll true 2 n cs ++ '\x22' :: rest = c :: tail ∧ c ≠ '\n' ∧ c ≠ '\r' := by
  cases cs with
  | nil => exact ⟨_, _, rfl, by decide⟩
  | cons c cs =>
    obtain ⟨text, m, hspells, heq⟩ := exists_spells true 2 n c cs
    rw [heq, List.append_assoc]
    cases hspells with
    | quote => exact ⟨_, _, rfl, by decide⟩
    | lineFeed => exact absurd List.mem_cons_self hcs
    | escape h =>
      rcases escape_eq h with ⟨_, heq, -⟩ | ⟨_, _, _, _, heq, -⟩ <;>
        exact ⟨'\x5c', _, by rw [heq]; rfl, by decide⟩
    | plain _ _ hline hplain =>
      refine ⟨c, _, rfl, hline, ?_⟩
      rintro rfl
      cases hplain

section Write

variable {cs rest : List Char}

theorem quoted_write_basic (hrest : rest.head? ≠ some '\x22') :
    quoted (write .basic cs ++ rest) = some (cs, rest) := by
  have hwritten : write .basic cs ++ rest = '\x22' :: (escapeAll false 0 0 cs ++ '\x22' :: rest) := by
    simp [write]
  have hread := basic_escapeAll cs rest
  rw [hwritten]
  cases cs with
  | nil => rw [← hread]; exact quoted_basic fun _ => hrest
  | cons c cs =>
    obtain ⟨text, m, hspells, heq⟩ := exists_spells false 0 0 c cs
    rcases hspells.eq_quote_or with ⟨hless, -⟩ | ⟨d, tail, hd, rfl⟩
    · cases hless
    · rw [heq] at hread ⊢
      rw [← hread]
      exact quoted_basic fun h => absurd h hd

theorem quoted_write_literal (hplain : ∀ c ∈ cs, isPlain c = true ∧ c ≠ '\x27')
    (hrest : rest.head? ≠ some '\x27') : quoted (write .literal cs ++ rest) = some (cs, rest) := by
  have hwritten : write .literal cs ++ rest = '\x27' :: (cs ++ '\x27' :: rest) := by
    simp [write]
  rw [hwritten, ← literal_append hplain rest]
  cases cs with
  | nil => exact quoted_literal fun _ => hrest
  | cons c cs => exact quoted_literal fun h => absurd h (hplain c List.mem_cons_self).2

theorem quoted_write_basicLines (hrest : rest.head? ≠ some '\x22') :
    quoted (write .basicLines cs ++ rest) = some (cs, rest) := by
  have hwritten : write .basicLines cs ++ rest = '\x22' :: '\x22' :: '\x22' ::
      ((if cs.contains '\n' then ['\n'] else []) ++
        (escapeAll true 2 0 cs ++ '\x22' :: '\x22' :: '\x22' :: rest)) := by
    simp [write]
  rw [hwritten, quoted, dropLineEnd_start fun hcs => exists_cons_escapeAll hcs 0 _]
  exact basicLines_escapeAll hrest cs 0

theorem quoted_write_literalLines (hplain : ∀ c ∈ cs, c ≠ '\n' → isPlain c = true)
    (hrun : longestRun '\x27' 0 cs ≤ 2) (hrest : rest.head? ≠ some '\x27') :
    quoted (write .literalLines cs ++ rest) = some (cs, rest) := by
  have hwritten : write .literalLines cs ++ rest = '\x27' :: '\x27' :: '\x27' ::
      ((if cs.contains '\n' then ['\n'] else []) ++ (cs ++ '\x27' :: '\x27' :: '\x27' :: rest)) := by
    simp [write]
  rw [hwritten, quoted, dropLineEnd_start]
  · exact literalLines_append hrest hrun hplain
  · intro hline
    cases cs with
    | nil => exact ⟨_, _, rfl, by decide⟩
    | cons c cs =>
      have hc : c ≠ '\n' := fun h => hline (h ▸ List.mem_cons_self)
      refine ⟨c, _, rfl, hc, ?_⟩
      rintro rfl
      cases hplain _ List.mem_cons_self hc

end Write

/-- A text is read back from the string that is written for it, if no quote follows. -/
theorem quoted_stringChars (cs : List Char) {rest : List Char} (hquote : rest.head? ≠ some '\x22')
    (hapostrophe : rest.head? ≠ some '\x27') : quoted (stringChars cs ++ rest) = some (cs, rest) := by
  rw [stringChars]
  match hform : formOf (traits cs) with
  | .basic => exact quoted_write_basic hquote
  | .basicLines => exact quoted_write_basicLines hquote
  | .literal =>
    obtain ⟨hcontrol, hrun, hline⟩ := formOf_eq_literal hform
    refine quoted_write_literal (fun c hc => ⟨isPlain_of_traits hcontrol hc ?_, ?_⟩) hapostrophe
    · rintro rfl
      rw [traits, List.contains_iff_mem.mpr hc] at hline
      cases hline
    · rintro rfl
      exact Nat.ne_of_gt (longestRun_pos hc 0) hrun
  | .literalLines =>
    obtain ⟨hcontrol, hrun⟩ := formOf_eq_literalLines hform
    exact quoted_write_literalLines (fun c => isPlain_of_traits hcontrol) hrun hapostrophe

end AudioStream.Toml
