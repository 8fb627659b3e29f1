import AudioStream.Proofs.Toml.Number
import AudioStream.Proofs.Toml.Quoted
import AudioStream.Toml.Parser
import AudioStream.Toml.Printer

/-!
# Lines of TOML are read back

The header of a section and the line of a member are read back as what they were written for, whatever comes in
the lines below, if the keys are bare and the value is a text, a truth value or an integer of sixty-four bits.

The main statements are `Toml.line_headerLine` and `Toml.line_member`.
-/

namespace AudioStream.Toml

/-! ## Keys -/

/-- A key that is written without quotes. -/
def IsBareKey (name : String) : Prop := name.toList ≠ [] ∧ name.toList.all isBare = true

instance (name : String) : Decidable (IsBareKey name) := inferInstanceAs (Decidable (_ ∧ _))

variable {name : String} {c : Char} {rest : List Char}

theorem IsBareKey.exists_cons (h : IsBareKey name) : ∃ c cs, name.toList = c :: cs ∧ isBare c = true := by
  obtain ⟨c, cs, heq⟩ := List.exists_cons_of_ne_nil h.1
  exact ⟨c, cs, heq, List.all_eq_true.mp h.2 c (heq ▸ List.mem_cons_self)⟩

theorem ne_of_isBare {d : Char} (hc : isBare c = true) (hd : isBare d = false) : c ≠ d := by
  rintro rfl
  rw [hc] at hd
  cases hd

theorem isBlank_of_isBare (hc : isBare c = true) : isBlank c = false := by
  rw [isBlank, beq_false_of_ne (ne_of_isBare hc (by decide)), beq_false_of_ne (ne_of_isBare hc (by decide))]
  rfl

theorem skipBlanks_cons (hc : isBlank c = false) (cs : List Char) : skipBlanks (c :: cs) = c :: cs := by
  simp [skipBlanks, hc]

theorem simpleKey_append (h : IsBareKey name) (hc : isBare c = false) :
    simpleKey (name.toList ++ c :: rest) = some (name, c :: rest) := by
  have hkey : ∀ d ∈ name.toList, isBare d = true := List.all_eq_true.mp h.2
  have htaken : (name.toList ++ c :: rest).takeWhile isBare = name.toList := by
    rw [List.takeWhile_append_of_pos hkey]
    simp [hc]
  have hdropped : (name.toList ++ c :: rest).dropWhile isBare = c :: rest := by
    rw [List.dropWhile_append_of_pos hkey]
    simp [hc]
  obtain ⟨d, ds, heq, hd⟩ := h.exists_cons
  unfold simpleKey
  split
  iterate 2 next hquote =>
    rw [heq] at hquote
    exact absurd (List.cons.inj hquote).1 (ne_of_isBare hd (by decide))
  next =>
    rw [htaken, hdropped, heq]
    simp only
    rw [← heq, String.ofList_toList]

/-- The parts of a key with points between them. -/
def dotted (path : List String) : List Char := ['.'].intercalate (path.map String.toList)

@[simp] theorem dotted_singleton (name : String) : dotted [name] = name.toList := by
  simp [dotted]

@[simp] theorem dotted_cons_cons (name next : String) (path : List String) :
    dotted (name :: next :: path) = name.toList ++ '.' :: dotted (next :: path) := by
  simp [dotted, List.intercalate]

theorem exists_cons_dotted {path : List String} (hne : path ≠ []) (hpath : ∀ name ∈ path, IsBareKey name) :
    ∃ c cs, dotted path = c :: cs ∧ isBare c = true := by
  match path, hne with
  | [name], _ =>
    rw [dotted_singleton]
    exact (hpath name List.mem_cons_self).exists_cons
  | name :: next :: path, _ =>
    obtain ⟨c, cs, heq, hc⟩ := (hpath name List.mem_cons_self).exists_cons
    exact ⟨c, _, by rw [dotted_cons_cons, heq]; rfl, hc⟩

/-- A key ends where neither a further character of its last part nor a point comes. -/
theorem keyParts_dotted {path : List String} (hne : path ≠ []) (hpath : ∀ name ∈ path, IsBareKey name)
    (hc : isBare c = false) (hpoint : (skipBlanks (c :: rest)).head? ≠ some '.') {fuel : Nat}
    (hfuel : path.length ≤ fuel) :
    keyParts fuel (dotted path ++ c :: rest) = some (path, skipBlanks (c :: rest)) := by
  induction path generalizing fuel with
  | nil => exact absurd rfl hne
  | cons name path ih =>
    obtain ⟨fuel, rfl⟩ : ∃ k, fuel = k + 1 := ⟨fuel - 1, by rw [List.length_cons] at hfuel; omega⟩
    obtain ⟨hkey, hpath⟩ := List.forall_mem_cons.mp hpath
    have hskip (tail : List Char) : skipBlanks (name.toList ++ tail) = name.toList ++ tail := by
      obtain ⟨d, ds, heq, hd⟩ := hkey.exists_cons
      rw [heq]
      exact skipBlanks_cons (isBlank_of_isBare hd) _
    cases path with
    | nil =>
      rw [dotted_singleton, keyParts, hskip, simpleKey_append hkey hc]
      simp only [Option.bind_eq_bind, Option.bind_some]
      split
      next heq => exact absurd (congrArg List.head? heq) hpoint
      next => rfl
    | cons next path =>
      have hnext := ih (List.cons_ne_nil _ _) hpath (Nat.le_of_succ_le_succ hfuel)
      rw [dotted_cons_cons, List.append_assoc, List.cons_append, keyParts, hskip,
        simpleKey_append hkey (by decide)]
      simp only [Option.bind_eq_bind, Option.bind_some, skipBlanks_cons (c := '.') (by decide), hnext]

/-! ## Values -/

/-- A text, a truth value, or an integer of sixty-four bits. -/
inductive Scalar : Datum → Prop where
  | bool (b : Bool) : Scalar (.bool b)
  | int {n : Int} (h : IsWord n) : Scalar (.int n)
  | text (s : String) : Scalar (.text s)

theorem exists_cons_stringChars (cs : List Char) :
    ∃ c tail, stringChars cs = c :: tail ∧ (c = '\x22' ∨ c = '\x27') := by
  rw [stringChars]
  cases formOf (traits cs) with
  | basic | basicLines => exact ⟨_, _, rfl, .inl rfl⟩
  | literal | literalLines => exact ⟨_, _, rfl, .inr rfl⟩

theorem Scalar.exists_cons {d : Datum} (h : Scalar d) :
    ∃ c cs, inlineChars d = c :: cs ∧ isBlank c = false := by
  cases h with
  | bool b => cases b <;> exact ⟨_, _, rfl, by decide⟩
  | int h =>
    obtain ⟨c, cs, heq, hc⟩ := Decimal.exists_cons_chars ‹Int›
    refine ⟨c, cs, heq, ?_⟩
    rw [isBlank, beq_false_of_ne (Decimal.ne_of_begins hc (by decide) (by decide)),
      beq_false_of_ne (Decimal.ne_of_begins hc (by decide) (by decide))]
    rfl
  | text s =>
    obtain ⟨c, tail, heq, hc⟩ := exists_cons_stringChars s.toList
    refine ⟨c, tail, heq, ?_⟩
    rcases hc with rfl | rfl <;> rfl

theorem value_inlineChars {d : Datum} (h : Scalar d) {fuel : Nat} (hfuel : 0 < fuel) (depth : Nat) :
    value fuel depth (inlineChars d ++ '\n' :: rest) = some (d, '\n' :: rest) := by
  obtain ⟨fuel, rfl⟩ : ∃ k, fuel = k + 1 := ⟨fuel - 1, by omega⟩
  cases h with
  | bool b => cases b <;> rfl
  | @int n h =>
    have hnumber : number (Decimal.chars n ++ '\n' :: rest) = some (.int n, '\n' :: rest) := number_chars h
    obtain ⟨c, cs, heq, hc⟩ := Decimal.exists_cons_chars n
    rw [inlineChars]
    rw [heq, List.cons_append] at hnumber ⊢
    rw [value, hnumber]
    all_goals exact fun _ h => Decimal.ne_of_begins hc (by decide) (by decide) (List.cons.inj h).1
  | text s =>
    have hread : quoted (stringChars s.toList ++ '\n' :: rest) = some (s.toList, '\n' :: rest) :=
      quoted_stringChars s.toList (by simp) (by simp)
    obtain ⟨c, cs, heq, hc⟩ := exists_cons_stringChars s.toList
    rw [inlineChars]
    rw [heq, List.cons_append] at hread ⊢
    rcases hc with rfl | rfl
    · simp [value, hread]
    · simp [value, hread]

/-! ## Headers -/

variable (doc : Document)

theorem finishLine_lineFeed (rest : List Char) : finishLine ('\n' :: rest) = some rest := rfl

theorem line_blank (rest : List Char) : line doc ('\n' :: rest) = some (doc, rest) := rfl

/-- A single bracket opens the header of a table. -/
theorem line_bracket (hc : c ≠ '[') (rest : List Char) :
    line doc ('[' :: c :: rest) = header false doc (c :: rest) := by
  rw [line, skipBlanks_cons (by decide)]
  split
  next h => exact absurd (List.cons.inj (List.cons.inj h).2).1 hc
  next h => cases h; rfl
  iterate 4 next h => cases h
  next hother _ _ _ _ => exact absurd rfl (hother _)

theorem header_dotted {path : List String} (hne : path ≠ []) (hpath : ∀ name ∈ path, IsBareKey name)
    (hlength : path.length < nestingLimit) (rest : List Char) :
    header false doc (dotted path ++ ']' :: '\n' :: rest) =
      (doc.enter false path).map fun doc => (doc, rest) := by
  have hread : key (dotted path ++ ']' :: '\n' :: rest) = some (path, ']' :: '\n' :: rest) :=
    keyParts_dotted hne hpath (by decide) (by simp [skipBlanks, isBlank]) (Nat.le_pred_of_lt hlength)
  rw [header, hread]
  simp only [Option.bind_eq_bind, Option.bind_some, finishLine_lineFeed]
  cases doc.enter false path <;> rfl

theorem line_headerLine {path : List String} (hne : path ≠ []) (hpath : ∀ name ∈ path, IsBareKey name)
    (hlength : path.length < nestingLimit) (rest : List Char) :
    line doc (headerLine path ++ rest) = (doc.enter false path).map fun doc => (doc, rest) := by
  have hwritten : headerLine path ++ rest = '[' :: (dotted path ++ ']' :: '\n' :: rest) := by
    simp [headerLine, hne, dotted]
  have hheader := header_dotted doc hne hpath hlength rest
  obtain ⟨c, cs, heq, hc⟩ := exists_cons_dotted hne hpath
  rw [heq, List.cons_append] at hwritten hheader
  rw [hwritten, line_bracket doc (ne_of_isBare hc (by decide)), hheader]

/-! ## Members -/

/-- A line that begins with a bare key is an assignment. -/
theorem line_bare (hc : isBare c = true) (rest : List Char) :
    line doc (c :: rest) = assignment doc (c :: rest) := by
  rw [line, skipBlanks_cons (isBlank_of_isBare hc)]
  split
  iterate 5 next h => exact absurd (List.cons.inj h).1 (ne_of_isBare hc (by decide))
  next h => cases h
  next => rfl

theorem key_append (h : IsBareKey name) (rest : List Char) :
    key (name.toList ++ ' ' :: '=' :: rest) = some ([name], '=' :: rest) := by
  have hskip : skipBlanks (' ' :: '=' :: rest) = '=' :: rest := by simp [skipBlanks, isBlank]
  have hparts : keyParts (nestingLimit - 1) (dotted [name] ++ ' ' :: '=' :: rest) =
      some ([name], skipBlanks (' ' :: '=' :: rest)) :=
    keyParts_dotted (List.cons_ne_nil name []) (List.forall_mem_singleton.mpr h) (by decide)
      (by simp [hskip]) (by simp [nestingLimit])
  rwa [dotted_singleton, hskip] at hparts

theorem assignment_append (hkey : IsBareKey name) {d : Datum} (hd : Scalar d) (rest : List Char) :
    assignment doc (name.toList ++ ' ' :: '=' :: ' ' :: (inlineChars d ++ '\n' :: rest)) =
      (doc.assign [name] d).map fun doc => (doc, rest) := by
  have hskip : skipBlanks (' ' :: (inlineChars d ++ '\n' :: rest)) = inlineChars d ++ '\n' :: rest := by
    obtain ⟨c, cs, heq, hc⟩ := hd.exists_cons
    rw [heq]
    exact skipBlanks_cons hc _
  rw [assignment, key_append hkey]
  simp only [Option.bind_eq_bind, Option.bind_some, hskip]
  rw [value_inlineChars hd (by rw [List.length_append, List.length_cons]; omega)]
  simp only [Option.bind_some, finishLine_lineFeed]
  cases doc.assign [name] d <;> rfl

theorem line_member (hkey : IsBareKey name) {d : Datum} (hd : Scalar d) (rest : List Char) :
    line doc (name.toList ++ [' ', '=', ' '] ++ inlineChars d ++ ['\n'] ++ rest) =
      (doc.assign [name] d).map fun doc => (doc, rest) := by
  have hwritten : name.toList ++ [' ', '=', ' '] ++ inlineChars d ++ ['\n'] ++ rest =
      name.toList ++ ' ' :: '=' :: ' ' :: (inlineChars d ++ '\n' :: rest) := by
    simp
  have hassignment := assignment_append doc hkey hd rest
  obtain ⟨c, cs, heq, hc⟩ := hkey.exists_cons
  rw [heq, List.cons_append] at hassignment
  rw [hwritten, heq, List.cons_append, line_bare doc hc, hassignment]

end AudioStream.Toml
