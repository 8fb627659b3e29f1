import AudioStream.Json.Parser
import AudioStream.Json.Printer
import AudioStream.Proofs.Text.Decimal

/-!
# JSON texts are read back

What is written for a datum is read back as that datum, unless it holds a number that is no integer, or was
unreadable in the first place. In front of a comma or a closing bracket nothing that follows changes what is
read.

The main statement is `Json.parse_render`.
-/

namespace AudioStream

namespace Json

/-! ## Strings -/

/-- A piece stands for a character if it is read as that character, whatever comes after it. -/
def Piece.StandsFor (p : Piece) (c : Char) : Prop :=
  ∀ ps, assemble (p :: ps) = (assemble ps).map (c :: ·)

theorem standsFor_unit {n : Nat} (h : n < 0xd800) : (Piece.unit n).StandsFor (Char.ofNat n) := by
  have hhigh : isHighHalf n = false := by simp [isHighHalf]; omega
  have hlow : isLowHalf n = false := by simp [isLowHalf]; omega
  rintro (_ | ⟨p | m, ps⟩) <;> simp [assemble, hhigh, hlow]

section Pieces

variable {c d : Char} (tail : List Char)

theorem pieces_short (h : escaped? c = some d) :
    pieces ('\x5c' :: c :: tail) = (pieces tail).map fun (ps, rest) => (.char d :: ps, rest) := by
  rw [pieces]
  · rw [h]
    cases pieces tail <;> rfl
  · rintro a b c' d' rest ⟨⟩
    cases h

theorem pieces_plain (hquote : c ≠ '\x22') (hbackslash : c ≠ '\x5c') (hcontrol : ¬ c < ' ') :
    pieces (c :: tail) = (pieces tail).map fun (ps, rest) => (.char c :: ps, rest) := by
  rw [pieces]
  · rw [if_neg hcontrol]
    cases pieces tail <;> rfl
  · exact hquote
  · exact fun _ _ _ _ _ h => absurd h hbackslash
  · exact fun _ _ h => absurd h hbackslash

theorem pieces_hexLower {n : Nat} (h : n < 16 ^ 4) :
    pieces ('\x5c' :: 'u' :: Decimal.hexLower 4 n ++ tail) =
      (pieces tail).map fun (ps, rest) => (.unit n :: ps, rest) := by
  have hlength : (Decimal.hexLower 4 n).length = 4 := Decimal.length_padded (by decide) (by decide) h
  have hunit : unit? (Decimal.hexLower 4 n) = some n := by
    have hdigits : (Decimal.hexLower 4 n).all (Decimal.isDigit 16) = true :=
      List.all_eq_true.mpr fun c hc => Decimal.isDigit_of_mem_hexLower hc
    rw [unit?, if_pos hdigits, Decimal.hexLower, Decimal.ofDigits_padded (by decide) (by decide)]
  obtain ⟨a, b, c, d, heq⟩ := List.length_eq_four.mp hlength
  rw [heq] at hunit ⊢
  simp only [List.cons_append, List.nil_append]
  rw [pieces, hunit]
  cases pieces tail <;> rfl

end Pieces

/-- The escape of a character is read as a piece that stands for it. -/
theorem exists_pieces_escape (c : Char) (tail : List Char) : ∃ p : Piece, p.StandsFor c ∧
    pieces (escape c ++ tail) = (pieces tail).map fun (ps, rest) => (p :: ps, rest) := by
  unfold escape
  split
  iterate 7 next => exact ⟨.char _, fun _ => rfl, pieces_short tail rfl⟩
  next _ hquote hbackslash _ _ _ _ _ =>
    split
    next hcontrol =>
      have hsmall : c.toNat < 32 := UInt32.lt_iff_toNat_lt.mp hcontrol
      refine ⟨.unit c.toNat, ?_, pieces_hexLower tail (by omega)⟩
      have hstands := standsFor_unit (n := c.toNat) (by omega)
      rwa [Char.ofNat_toNat] at hstands
    next hcontrol => exact ⟨.char c, fun _ => rfl, pieces_plain tail hquote hbackslash hcontrol⟩

/-- What is written for a string is read back up to its closing quote. -/
theorem string_escape (s : String) (rest : List Char) :
    string (s.toList.flatMap escape ++ '\x22' :: rest) = some (some s, rest) := by
  have hpieces : ∀ cs : List Char, ∃ ps, assemble ps = some cs ∧
      pieces (cs.flatMap escape ++ '\x22' :: rest) = some (ps, rest) := by
    intro cs
    induction cs with
    | nil => exact ⟨[], rfl, rfl⟩
    | cons c cs ih =>
      obtain ⟨ps, hps, hread⟩ := ih
      obtain ⟨p, hp, hescape⟩ := exists_pieces_escape c (cs.flatMap escape ++ '\x22' :: rest)
      refine ⟨p :: ps, by rw [hp, hps]; rfl, ?_⟩
      rw [List.flatMap_cons, List.append_assoc, hescape, hread]
      rfl
  obtain ⟨ps, hps, hread⟩ := hpieces s.toList
  simp [string, hps, hread]

/-! ## Numbers -/

/-- Nothing comes after a value but a comma or a closing bracket. -/
def Closes : List Char → Prop
  | [] | ',' :: _ | ']' :: _ | '\x7d' :: _ => True
  | _ => False

/-- What closes a value goes on with no digit, fraction or exponent. -/
theorem Closes.head {rest : List Char} (h : Closes rest) :
    rest = [] ∨ ∃ c tail, rest = c :: tail ∧ Decimal.isDigit 10 c = false ∧ c ≠ '.' ∧ c ≠ 'e' ∧ c ≠ 'E' := by
  unfold Closes at h
  split at h
  next => exact .inl rfl
  next tail => exact .inr ⟨_, tail, rfl, by decide⟩
  next tail => exact .inr ⟨_, tail, rfl, by decide⟩
  next tail => exact .inr ⟨_, tail, rfl, by decide⟩
  next => exact h.elim

theorem digits_append {ds rest : List Char} (hds : ∀ c ∈ ds, Decimal.isDigit 10 c = true) (h : Closes rest) :
    digits (ds ++ rest) = (ds, rest) := by
  rw [digits, List.takeWhile_append_of_pos hds, List.dropWhile_append_of_pos hds]
  rcases h.head with rfl | ⟨c, tail, rfl, hc, -⟩
  · simp
  · simp [hc]

theorem fraction_of_closes {rest : List Char} (h : Closes rest) : fraction rest = some ([], rest) := by
  rcases h.head with rfl | ⟨c, tail, rfl, -, hc, -⟩
  · rfl
  · unfold fraction
    split
    next heq => exact absurd (List.cons.inj heq).1 hc
    next => rfl

theorem exponent_of_closes {rest : List Char} (h : Closes rest) : exponent rest = some ([], rest) := by
  rcases h.head with rfl | ⟨c, tail, rfl, -, -, he, hE⟩
  · rfl
  · simp [exponent, he, hE]

theorem whole_toDigits (n : Nat) {rest : List Char} (h : Closes rest) :
    whole (Nat.toDigits 10 n ++ rest) = some (Nat.toDigits 10 n, rest) := by
  rw [whole, digits_append (fun c => Decimal.isDigit_of_mem_toDigits (by decide) (by decide)) h]
  split
  next heq => exact absurd (congrArg Prod.fst heq) Nat.toDigits_ne_nil
  next c tail _ heq =>
    -- A zero in front is written for the number zero only, and stands alone then.
    have hdigits : Nat.toDigits 10 n = '0' :: c :: tail := congrArg Prod.fst heq
    obtain rfl : n = 0 :=
      Decimal.eq_zero_of_head?_toDigits (b := 10) (by decide) (by decide) (by rw [hdigits]; rfl)
    cases hdigits
  next heq =>
    cases heq
    rfl

theorem number_chars (n : Int) {rest : List Char} (h : Closes rest) :
    number (Decimal.chars n ++ rest) = some (.int n, rest) := by
  have habs : Decimal.ofDigits 10 (Nat.toDigits 10 n.natAbs) = n.natAbs :=
    Decimal.ofDigits_toDigits (by decide) (by decide) _
  by_cases hneg : n < 0
  · have hvalue : -(Decimal.ofDigits 10 (Nat.toDigits 10 n.natAbs) : Int) = n := by omega
    have hsome : Decimal.ofDigits 10 (Nat.toDigits 10 n.natAbs) ≠ 0 := by omega
    rw [Decimal.chars_of_neg hneg, List.cons_append]
    simp [number, whole_toDigits _ h, fraction_of_closes h, exponent_of_closes h, hvalue, hsome]
  · have hvalue : (Decimal.ofDigits 10 (Nat.toDigits 10 n.natAbs) : Int) = n := by omega
    rw [Decimal.chars_of_nonneg (Int.not_lt.mp hneg)]
    unfold number
    split
    next negative tail heq =>
      split at heq
      next hminus =>
        obtain ⟨c, ds, hds, hc⟩ := Decimal.exists_cons_toDigits (b := 10) (by decide) (by decide) n.natAbs
        rw [hds, List.cons_append] at hminus
        rw [(List.cons.inj hminus).1] at hc
        cases hc
      next =>
        cases heq
        simp [whole_toDigits _ h, fraction_of_closes h, exponent_of_closes h, hvalue]

end Json

/-! ## Values -/

namespace Datum

mutual

/-- All numbers are integers, and nothing is unreadable. -/
def isPlain : Datum → Bool
  | real _ | unreadable => false
  | list items => plainItems items
  | record members => plainMembers members
  | null | bool _ | int _ | text _ => true

def plainItems : List Datum → Bool
  | [] => true
  | d :: ds => d.isPlain && plainItems ds

def plainMembers : List (String × Datum) → Bool
  | [] => true
  | (_, d) :: ms => d.isPlain && plainMembers ms

end

end Datum

namespace Json

theorem skip_cons {c : Char} (h : isBlank c = false) (cs : List Char) : skip (c :: cs) = c :: cs := by
  simp [skip, h]

@[simp] theorem commas_singleton (text : List Char) : commas [text] = text := by
  simp [commas]

@[simp] theorem commas_cons_cons (text next : List Char) (texts : List (List Char)) :
    commas (text :: next :: texts) = text ++ ',' :: commas (next :: texts) := by
  simp [commas, List.intercalate]

theorem quote_append (s : String) (rest : List Char) :
    quote s ++ rest = '\x22' :: (s.toList.flatMap escape ++ '\x22' :: rest) := by
  simp [quote]

theorem isBlank_of_begins {c : Char} (hc : c = '-' ∨ Decimal.isDigit 10 c = true) : isBlank c = false := by
  rw [Bool.eq_false_iff]
  intro hblank
  simp only [isBlank, Bool.or_eq_true, beq_iff_eq] at hblank
  rcases hblank with ((heq | heq) | heq) | heq <;>
    exact Decimal.ne_of_begins hc (by decide) (by decide) heq

/-- A value begins neither with a blank nor with a closing bracket. -/
theorem exists_cons_chars {d : Datum} (h : d.isPlain = true) :
    ∃ c cs, chars d = c :: cs ∧ isBlank c = false ∧ c ≠ ']' := by
  cases d with
  | null => exact ⟨_, _, rfl, by decide⟩
  | bool b => cases b <;> exact ⟨_, _, rfl, by decide⟩
  | int n =>
    obtain ⟨c, cs, heq, hc⟩ := Decimal.exists_cons_chars n
    exact ⟨c, cs, heq, isBlank_of_begins hc, Decimal.ne_of_begins hc (by decide) (by decide)⟩
  | text s => exact ⟨_, _, rfl, by decide⟩
  | list items => exact ⟨_, _, rfl, by decide⟩
  | record members => exact ⟨_, _, rfl, by decide⟩
  | real | unreadable => cases h

section Value

variable (fuel : Nat) {rest : List Char}

theorem value_int (n : Int) (hrest : Closes rest) :
    value (fuel + 1) (Decimal.chars n ++ rest) = some (.int n, rest) := by
  have hnumber := number_chars n hrest
  obtain ⟨c, cs, heq, hc⟩ := Decimal.exists_cons_chars n
  rw [heq] at hnumber ⊢
  rw [List.cons_append, value, skip_cons (isBlank_of_begins hc)]
  split
  iterate 6 next hother =>
    exact absurd (List.cons.inj hother).1 (Decimal.ne_of_begins hc (by decide) (by decide))
  next => exact hnumber

theorem value_quote (s : String) (rest : List Char) :
    value (fuel + 1) (quote s ++ rest) = some (.text s, rest) := by
  rw [quote_append, value, skip_cons (by decide)]
  simp [string_escape]

theorem value_bracket {c : Char} (hblank : isBlank c = false) (hc : c ≠ ']') (cs : List Char) :
    value (fuel + 1) ('[' :: c :: cs) = (items fuel (c :: cs)).map fun (ds, rest) => (.list ds, rest) := by
  rw [value, skip_cons (by decide)]
  simp only [skip_cons hblank]
  split
  next heq => exact absurd (List.cons.inj heq).1 hc
  next => cases items fuel (c :: cs) <;> rfl

theorem value_brace (key : String) (cs : List Char) :
    value (fuel + 1) ('\x7b' :: (quote key ++ cs)) =
      (members fuel (quote key ++ cs)).map fun (ms, rest) => (recordOf ms, rest) := by
  rw [quote_append, value, skip_cons (by decide)]
  simp only [skip_cons (c := '\x22') (by decide)]
  split
  next heq => cases heq
  next => cases members fuel _ <;> rfl

theorem members_comma (key : String) {d : Datum} {cs rest : List Char}
    (hvalue : value fuel cs = some (d, ',' :: rest)) :
    members (fuel + 1) (quote key ++ ':' :: cs) =
      (members fuel rest).map fun (ms, rest) => ((some key, d) :: ms, rest) := by
  rw [quote_append, members, skip_cons (by decide)]
  simp only [string_escape, Option.bind_eq_bind, Option.bind_some, skip_cons (c := ':') (by decide), hvalue,
    skip_cons (c := ',') (by decide)]
  cases members fuel rest <;> rfl

theorem members_brace (key : String) {d : Datum} {cs rest : List Char}
    (hvalue : value fuel cs = some (d, '\x7d' :: rest)) :
    members (fuel + 1) (quote key ++ ':' :: cs) = some ([(some key, d)], rest) := by
  rw [quote_append, members, skip_cons (by decide)]
  simp [string_escape, skip_cons (c := ':') (by decide), hvalue, skip_cons (c := '\x7d') (by decide)]

end Value

/-- The members of a record whose keys could all be read. -/
def readable (ms : List (String × Datum)) : List (Option String × Datum) :=
  ms.map fun m => (some m.1, m.2)

theorem recordOf_readable (ms : List (String × Datum)) : recordOf (readable ms) = .record ms := by
  have hkeys : (readable ms).mapM (fun m => m.1.map fun key => (key, m.2)) = some ms := by
    induction ms with
    | nil => rfl
    | cons m ms ih =>
      rw [readable] at ih ⊢
      simp [ih]
  simp [recordOf, hkeys]

/-- A list begins with the beginning of its first text. -/
theorem exists_append_commas (front back : List Char) (texts : List (List Char)) :
    ∃ tail, commas ((front ++ back) :: texts) = front ++ tail := by
  cases texts with
  | nil => exact ⟨back, commas_singleton _⟩
  | cons next texts => exact ⟨_, by rw [commas_cons_cons, List.append_assoc]⟩

mutual

theorem value_chars {d : Datum} (hplain : d.isPlain = true) {fuel : Nat} {rest : List Char}
    (hrest : Closes rest) (hfuel : 2 * (chars d).length ≤ fuel) :
    value fuel (chars d ++ rest) = some (d, rest) := by
  obtain ⟨c, cs, heq, -⟩ := exists_cons_chars hplain
  obtain ⟨fuel, rfl⟩ : ∃ k, fuel = k + 1 :=
    ⟨fuel - 1, by rw [heq, List.length_cons] at hfuel; omega⟩
  cases d with
  | null => rfl
  | bool b => cases b <;> rfl
  | int n => exact value_int fuel n hrest
  | text s => exact value_quote fuel s rest
  | list ds =>
    have hwritten : chars (.list ds) ++ rest = '[' :: (commas (itemChars ds) ++ ']' :: rest) := by
      simp [chars]
    have hless : 2 * (commas (itemChars ds)).length < fuel := by
      simp only [chars, List.length_cons, List.length_append] at hfuel
      omega
    cases ds with
    | nil => rfl
    | cons d ds =>
      have hitems : items fuel (commas (itemChars (d :: ds)) ++ ']' :: rest) = some (d :: ds, rest) :=
        items_chars d ds hplain hless
      obtain ⟨c, cs, hc, hblank, hbracket⟩ := exists_cons_chars (Bool.and_eq_true_iff.mp hplain).1
      obtain ⟨tail, htail⟩ := exists_append_commas [c] cs (itemChars ds)
      have hfirst : commas (itemChars (d :: ds)) = c :: tail := by rw [itemChars, hc]; exact htail
      rw [hfirst, List.cons_append] at hitems hwritten
      rw [hwritten, value_bracket fuel hblank hbracket, hitems]
      rfl
  | record ms =>
    have hwritten : chars (.record ms) ++ rest = '\x7b' :: (commas (memberChars ms) ++ '\x7d' :: rest) := by
      simp [chars]
    have hless : 2 * (commas (memberChars ms)).length < fuel := by
      simp only [chars, List.length_cons, List.length_append] at hfuel
      omega
    cases ms with
    | nil => rfl
    | cons m ms =>
      obtain ⟨key, d⟩ := m
      have hmembers : members fuel (commas (memberChars ((key, d) :: ms)) ++ '\x7d' :: rest) =
          some (readable ((key, d) :: ms), rest) := members_chars key d ms hplain hless
      obtain ⟨tail, htail⟩ := exists_append_commas (quote key) (':' :: chars d) (memberChars ms)
      rw [memberChars, htail, List.append_assoc] at hmembers hwritten
      rw [hwritten, value_brace, hmembers]
      exact congrArg (fun d => some (d, rest)) (recordOf_readable _)
  | real | unreadable => cases hplain
termination_by fuel

theorem items_chars (d : Datum) (ds : List Datum) (hplain : Datum.plainItems (d :: ds) = true) {fuel : Nat}
    {rest : List Char} (hfuel : 2 * (commas (itemChars (d :: ds))).length < fuel) :
    items fuel (commas (itemChars (d :: ds)) ++ ']' :: rest) = some (d :: ds, rest) := by
  obtain ⟨fuel, rfl⟩ : ∃ k, fuel = k + 1 := ⟨fuel - 1, by omega⟩
  obtain ⟨hd, hds⟩ := Bool.and_eq_true_iff.mp hplain
  cases ds with
  | nil =>
    rw [itemChars, itemChars, commas_singleton] at hfuel ⊢
    have hvalue : value fuel (chars d ++ ']' :: rest) = some (d, ']' :: rest) :=
      value_chars hd trivial (by omega)
    rw [items, hvalue]
    simp [skip_cons (c := ']') (by decide)]
  | cons e es =>
    rw [itemChars, itemChars, commas_cons_cons, ← itemChars] at hfuel ⊢
    rw [List.length_append, List.length_cons] at hfuel
    have hvalue : value fuel (chars d ++ ',' :: (commas (itemChars (e :: es)) ++ ']' :: rest)) =
        some (d, ',' :: (commas (itemChars (e :: es)) ++ ']' :: rest)) := value_chars hd trivial (by omega)
    have hitems : items fuel (commas (itemChars (e :: es)) ++ ']' :: rest) = some (e :: es, rest) :=
      items_chars e es hds (by omega)
    rw [List.append_assoc, List.cons_append, items, hvalue]
    simp [skip_cons (c := ',') (by decide), hitems]
termination_by fuel

theorem members_chars (key : String) (d : Datum) (ms : List (String × Datum))
    (hplain : Datum.plainMembers ((key, d) :: ms) = true) {fuel : Nat} {rest : List Char}
    (hfuel : 2 * (commas (memberChars ((key, d) :: ms))).length < fuel) :
    members fuel (commas (memberChars ((key, d) :: ms)) ++ '\x7d' :: rest) =
      some (readable ((key, d) :: ms), rest) := by
  obtain ⟨fuel, rfl⟩ : ∃ k, fuel = k + 1 := ⟨fuel - 1, by omega⟩
  obtain ⟨hd, hds⟩ := Bool.and_eq_true_iff.mp hplain
  cases ms with
  | nil =>
    simp only [memberChars, commas_singleton, List.length_append, List.length_cons] at hfuel
    have hvalue : value fuel (chars d ++ '\x7d' :: rest) = some (d, '\x7d' :: rest) :=
      value_chars hd trivial (by omega)
    rw [memberChars, memberChars, commas_singleton, List.append_assoc, List.cons_append]
    exact members_brace fuel key hvalue
  | cons m ms =>
    obtain ⟨next, e⟩ := m
    rw [memberChars, memberChars, commas_cons_cons, ← memberChars] at hfuel ⊢
    simp only [List.length_append, List.length_cons] at hfuel
    have hvalue : value fuel (chars d ++ ',' :: (commas (memberChars ((next, e) :: ms)) ++ '\x7d' :: rest)) =
        some (d, ',' :: (commas (memberChars ((next, e) :: ms)) ++ '\x7d' :: rest)) :=
      value_chars hd trivial (by omega)
    have hmembers : members fuel (commas (memberChars ((next, e) :: ms)) ++ '\x7d' :: rest) =
        some (readable ((next, e) :: ms), rest) := members_chars next e ms hds (by omega)
    rw [List.append_assoc, List.append_assoc, List.cons_append, List.cons_append,
      members_comma fuel key hvalue, hmembers]
    rfl
termination_by fuel

end

/-- What is written for a datum is read back. -/
theorem parse_render {d : Datum} (hplain : d.isPlain = true) : parse (render d) = some d := by
  have hvalue : value (2 * (chars d).length + 2) (chars d ++ []) = some (d, []) :=
    value_chars hplain trivial (Nat.le_add_right _ 2)
  rw [List.append_nil] at hvalue
  simp [parse, render, parseChars, hvalue, skip]

end Json

end AudioStream
