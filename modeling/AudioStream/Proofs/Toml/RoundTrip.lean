import AudioStream.Proofs.Toml.Line
import AudioStream.Proofs.Toml.Table

/-!
# TOML documents are read back

A record of scalars and of further such records is written section by section, and read back with the records
in it behind its other members. A section adds one member to the table around it and leaves all else alone, so
the sections can be read one after another.

The main statement is `Toml.parse_render`.
-/

namespace AudioStream.Toml

/-! ## Reading one text after another -/

/-- Reading a text changes a document into another one, whatever is read afterwards. -/
def Reads (a : Document) (cs : List Char) (b : Document) : Prop :=
  ∀ fuel rest, (cs ++ rest).length ≤ fuel →
    ∃ fuel', rest.length ≤ fuel' ∧ lines fuel a (cs ++ rest) = lines fuel' b rest

section Reads

variable {a b c : Document} {cs ds : List Char}

theorem Reads.nil (a : Document) : Reads a [] a := fun fuel _ hfuel => ⟨fuel, hfuel, rfl⟩

theorem Reads.append (h : Reads a cs b) (h' : Reads b ds c) : Reads a (cs ++ ds) c := by
  intro fuel rest hfuel
  rw [List.append_assoc] at hfuel ⊢
  obtain ⟨fuel', hfuel', heq⟩ := h fuel (ds ++ rest) hfuel
  obtain ⟨fuel'', hfuel'', heq'⟩ := h' fuel' rest hfuel'
  exact ⟨fuel'', hfuel'', heq.trans heq'⟩

theorem reads_of_line (hne : cs ≠ []) (h : ∀ rest, line a (cs ++ rest) = some (b, rest)) : Reads a cs b := by
  intro fuel rest hfuel
  obtain ⟨d, cs, rfl⟩ := List.exists_cons_of_ne_nil hne
  have hline := h rest
  rw [List.cons_append] at hfuel hline ⊢
  rw [List.length_cons, List.length_append] at hfuel
  obtain ⟨fuel, rfl⟩ : ∃ k, fuel = k + 1 := ⟨fuel - 1, by omega⟩
  refine ⟨fuel, by omega, ?_⟩
  rw [lines, hline]
  · rfl
  · exact List.cons_ne_nil _ _

/-- Reading texts one after another. -/
inductive ReadsEach : Document → List (List Char) → Document → Prop where
  | nil (a : Document) : ReadsEach a [] a
  | cons {a b c : Document} {text : List Char} {texts : List (List Char)} (h : Reads a text b)
      (hs : ReadsEach b texts c) : ReadsEach a (text :: texts) c

theorem ReadsEach.append {texts texts' : List (List Char)} (h : ReadsEach a texts b)
    (h' : ReadsEach b texts' c) : ReadsEach a (texts ++ texts') c := by
  induction h with
  | nil => exact h'
  | cons h _ ih => exact .cons h (ih h')

/-- Empty lines between the texts make no difference. -/
theorem ReadsEach.joined {texts : List (List Char)} (h : ReadsEach a texts b) :
    Reads a (['\n'].intercalate texts) b := by
  induction h with
  | nil => exact Reads.nil _
  | @cons a b c text texts h hs ih =>
    cases texts with
    | nil =>
      cases hs
      simpa using h
    | cons next texts =>
      have hblank : Reads b ['\n'] b := reads_of_line (List.cons_ne_nil _ _) (line_blank b)
      have hjoined : ['\n'].intercalate (text :: next :: texts) =
          text ++ (['\n'] ++ ['\n'].intercalate (next :: texts)) := by simp [List.intercalate]
      rw [hjoined]
      exact h.append (hblank.append ih)

end Reads

/-! ## Tables -/

/-- A scalar, or a record of such data with bare keys that differ. Records stand in records at most `n` deep. -/
inductive Tabular : Nat → Datum → Prop where
  | scalar {n : Nat} {d : Datum} (h : Scalar d) : Tabular n d
  | record {n : Nat} {ms : List (String × Datum)} (hnodup : (ms.map Prod.fst).Nodup)
      (hkeys : ∀ m ∈ ms, IsBareKey m.1) (hms : ∀ m ∈ ms, Tabular n m.2) : Tabular (n + 1) (.record ms)

/-- The members of a record that stand below its header. -/
def plains (ms : List (String × Datum)) : List (String × Datum) := ms.filter fun m => !isSection m.2

/-- The members of a record that have headers of their own. -/
def tables (ms : List (String × Datum)) : List (String × Datum) := ms.filter fun m => isSection m.2

theorem plains_eq_nil {ms : List (String × Datum)} (h : ms.all (fun m => isSection m.2) = true) :
    plains ms = [] := by
  rw [plains, List.filter_eq_nil_iff]
  exact fun m hm => by simp [List.all_eq_true.mp h m hm]

mutual

/-- The same datum with the records in each record behind its other members. -/
def arranged : Datum → Datum
  | .record ms => .record (plains ms ++ arrangedSections ms)
  | d => d

def arrangedSections : List (String × Datum) → List (String × Datum)
  | [] => []
  | (key, d) :: ms => if isSection d then (key, arranged d) :: arrangedSections ms else arrangedSections ms

end

theorem Scalar.isSection {d : Datum} (h : Scalar d) : isSection d = false := by
  cases h <;> rfl

theorem membersOf_append (entries entries' : Entries) :
    membersOf (entries ++ entries') = membersOf entries ++ membersOf entries' := by
  induction entries with
  | nil => rfl
  | cons m entries ih => rw [List.cons_append, membersOf, membersOf, ih, List.cons_append]

/-- The entries that the members below a header make. -/
def plainEntries (ms : List (String × Datum)) : Entries := (plains ms).map fun m => (m.1, .value m.2)

theorem membersOf_plainEntries (ms : List (String × Datum)) : membersOf (plainEntries ms) = plains ms := by
  rw [plainEntries]
  induction plains ms with
  | nil => rfl
  | cons m ms ih => rw [List.map_cons, membersOf, ih, Node.toDatum]

theorem keys_plainEntries (ms : List (String × Datum)) :
    (plainEntries ms).map Prod.fst = (plains ms).map Prod.fst := by
  simp [plainEntries]

theorem Tabular.scalar_of {n : Nat} {d : Datum} (h : Tabular n d) (hd : isSection d = false) : Scalar d := by
  cases h with
  | scalar h => exact h
  | record => cases hd

/-- A key that is still to come is new. -/
theorem not_mem_of_nodup {key : String} {keys keys' : List String} (h : (keys ++ key :: keys').Nodup) :
    key ∉ keys :=
  fun hmem => (List.nodup_append.mp h).2.2 key hmem key List.mem_cons_self rfl

theorem nodup_concat {entries : Entries} {key : String} {keys : List String}
    (h : (entries.map Prod.fst ++ key :: keys).Nodup) (node : Node) :
    ((entries ++ [(key, node)]).map Prod.fst ++ keys).Nodup := by
  simpa using h

theorem nodup_keys {ms : List (String × Datum)} (h : (ms.map Prod.fst).Nodup) :
    ((plainEntries ms).map Prod.fst ++ (tables ms).map Prod.fst).Nodup := by
  have hperm : (plains ms ++ tables ms).Perm ms :=
    List.perm_append_comm.trans (List.filter_append_perm (fun m : String × Datum => isSection m.2) ms)
  rw [keys_plainEntries, ← List.map_append]
  exact (hperm.map Prod.fst).nodup_iff.mpr h

/-! ## Sections -/

variable {g : Gap} {root entries : Entries} {ms : List (String × Datum)} {n : Nat}

/-- The lines below a header are added to the table that is open. -/
theorem reads_plainLines (entries : Entries) (horigin : g.origin ≠ .dotted)
    (hkeys : ∀ m ∈ ms, IsBareKey m.1) (hms : ∀ m ∈ ms, Tabular n m.2)
    (hnodup : (entries.map Prod.fst ++ (plains ms).map Prod.fst).Nodup) :
    Reads ⟨g.fill entries, g.path⟩ (plainLines ms) ⟨g.fill (entries ++ plainEntries ms), g.path⟩ := by
  induction ms generalizing entries with
  | nil =>
    rw [plainEntries, plains, List.filter_nil, List.map_nil, List.append_nil]
    exact Reads.nil _
  | cons m ms ih =>
    obtain ⟨key, d⟩ := m
    obtain ⟨hkey, hkeys⟩ := List.forall_mem_cons.mp hkeys
    obtain ⟨hd, hms⟩ := List.forall_mem_cons.mp hms
    by_cases hsection : isSection d = true
    · have hplains : plains ((key, d) :: ms) = plains ms := by simp [plains, hsection]
      have hlines : plainLines ((key, d) :: ms) = plainLines ms := by simp [plainLines, hsection]
      rw [plainEntries, hplains, hlines]
      rw [hplains] at hnodup
      exact ih _ hkeys hms hnodup
    · have hplain : isSection d = false := Bool.eq_false_iff.mpr hsection
      have hplains : plains ((key, d) :: ms) = (key, d) :: plains ms := by simp [plains, hplain]
      have hlines : plainLines ((key, d) :: ms) =
          (key.toList ++ [' ', '=', ' '] ++ inlineChars d ++ ['\n']) ++ plainLines ms := by
        simp [plainLines, hplain]
      rw [hplains, List.map_cons] at hnodup
      have hnew := Entries.find?_eq_none_of_not_mem (not_mem_of_nodup hnodup)
      have hmember : Reads ⟨g.fill entries, g.path⟩ (key.toList ++ [' ', '=', ' '] ++ inlineChars d ++ ['\n'])
          ⟨g.fill (entries ++ [(key, .value d)]), g.path⟩ := by
        refine reads_of_line (by simp) fun rest => ?_
        rw [line_member _ hkey (hd.scalar_of hplain), (g.shows_fill entries).assign horigin hnew]
        rfl
      have hrest := ih _ hkeys hms (nodup_concat hnodup (.value d))
      rw [hlines, plainEntries, hplains, List.map_cons]
      rw [List.append_assoc, List.singleton_append] at hrest
      exact hmember.append hrest

/-- The sections of a record are read as a new table, at the end of the table that a gap is filled with. -/
def ReadsTable (n : Nat) (d : Datum) : Prop :=
  ∀ (g : Gap) (root entries : Entries) (key : String) (header : List String), g.Shows root entries →
    key ∉ entries.map Prod.fst → (∀ part ∈ g.path ++ [key], IsBareKey part) →
    g.path.length + n < nestingLimit → isSection d = true →
    ∃ node header', node.toDatum = arranged d ∧
      ReadsEach ⟨root, header⟩ (sections (g.path ++ [key]) d) ⟨g.fill (entries ++ [(key, node)]), header'⟩

theorem sections_of_plain {d : Datum} (h : isSection d = false) (path : List String) : sections path d = [] := by
  cases d with
  | record => cases h
  | _ => rfl

/-- The sections of the members are read one after another. The first of them makes the table around all of
them if there is none yet; where there are no sections, nothing is made. -/
theorem exists_reads_innerSections (hms : ∀ m ∈ ms, ReadsTable n m.2) (hkeys : ∀ m ∈ ms, IsBareKey m.1)
    (hpath : ∀ part ∈ g.path, IsBareKey part) (hdepth : g.path.length + n < nestingLimit)
    (hroot : g.Shows root entries)
    (hnodup : (entries.map Prod.fst ++ (tables ms).map Prod.fst).Nodup)
    (header : List String) :
    ∃ nodes doc, membersOf nodes = arrangedSections ms ∧
      ReadsEach ⟨root, header⟩ (innerSections g.path ms) doc ∧
      (doc.root = g.fill (entries ++ nodes) ∨ nodes = [] ∧ doc.root = root) := by
  induction ms generalizing root entries header with
  | nil => exact ⟨[], _, rfl, .nil _, .inr ⟨rfl, rfl⟩⟩
  | cons m ms ih =>
    obtain ⟨key, d⟩ := m
    obtain ⟨hkey, hkeys⟩ := List.forall_mem_cons.mp hkeys
    obtain ⟨hd, hms⟩ := List.forall_mem_cons.mp hms
    rw [innerSections, arrangedSections]
    by_cases hsection : isSection d = true
    · have htables : tables ((key, d) :: ms) = (key, d) :: tables ms := by simp [tables, hsection]
      rw [htables, List.map_cons] at hnodup
      have hpath' : ∀ part ∈ g.path ++ [key], IsBareKey part :=
        List.forall_mem_append.mpr ⟨hpath, List.forall_mem_singleton.mpr hkey⟩
      obtain ⟨node, header', hnode, hreads⟩ :=
        hd _ _ _ _ header hroot (not_mem_of_nodup hnodup) hpath' hdepth hsection
      obtain ⟨nodes, doc, hnodes, hreads', hdoc⟩ :=
        ih hms hkeys (g.shows_fill _) (nodup_concat hnodup node) header'
      refine ⟨(key, node) :: nodes, doc, ?_, hreads.append hreads', .inl ?_⟩
      · rw [membersOf, hnode, hnodes, if_pos hsection]
      · rw [List.append_assoc, List.singleton_append] at hdoc
        rcases hdoc with hdoc | ⟨rfl, hdoc⟩ <;> exact hdoc
    · have htables : tables ((key, d) :: ms) = tables ms := by simp [tables, hsection]
      rw [htables] at hnodup
      rw [sections_of_plain (Bool.eq_false_iff.mpr hsection), List.nil_append, if_neg hsection]
      exact ih hms hkeys hroot hnodup header

/-- Where the gap is filled, the sections of the members are added to what fills it. -/
theorem exists_reads_fill (hms : ∀ m ∈ ms, ReadsTable n m.2) (hkeys : ∀ m ∈ ms, IsBareKey m.1)
    (hpath : ∀ part ∈ g.path, IsBareKey part) (hdepth : g.path.length + n < nestingLimit)
    (hnodup : (entries.map Prod.fst ++ (tables ms).map Prod.fst).Nodup)
    (header : List String) :
    ∃ nodes header', membersOf nodes = arrangedSections ms ∧
      ReadsEach ⟨g.fill entries, header⟩ (innerSections g.path ms) ⟨g.fill (entries ++ nodes), header'⟩ := by
  obtain ⟨nodes, ⟨root, header'⟩, hnodes, hreads, hroot⟩ :=
    exists_reads_innerSections hms hkeys hpath hdepth (g.shows_fill entries) hnodup header
  obtain rfl : root = g.fill (entries ++ nodes) := by
    rcases hroot with hroot | ⟨rfl, hroot⟩
    · exact hroot
    · rw [List.append_nil]
      exact hroot
  exact ⟨nodes, header', hnodes, hreads⟩

theorem length_concat_add_lt {key : String} (h : g.path.length + (n + 1) < nestingLimit) :
    (g.path ++ [key]).length + n < nestingLimit := by
  rw [List.length_append, List.length_singleton]
  omega

/-- A record that holds nothing but records has no header. -/
theorem readsTable_of_all (hnodup : (ms.map Prod.fst).Nodup) (hkeys : ∀ m ∈ ms, IsBareKey m.1)
    (hms : ∀ m ∈ ms, ReadsTable n m.2) (hall : ms.all (fun m => isSection m.2) = true) (hne : ms ≠ []) :
    ReadsTable (n + 1) (.record ms) := by
  intro g root entries key header hroot hfresh hpath hdepth _
  have hnew := Entries.find?_eq_none_of_not_mem hfresh
  have hchars : sectionChars (g.path ++ [key]) ms = [] := if_pos (by simp [hall, hne])
  have hplains := plains_eq_nil hall
  obtain ⟨nodes, ⟨root', header'⟩, hnodes, hreads, hdoc⟩ :=
    exists_reads_innerSections hms hkeys hpath (length_concat_add_lt hdepth) (hroot.missing hnew)
      ((List.filter_sublist.map Prod.fst).nodup hnodup) header
  -- There is a first section, so the table has been made.
  obtain rfl : root' = g.fill (entries ++ [(key, .table .parent nodes)]) := by
    refine hdoc.resolve_right ?_
    rintro ⟨rfl, -⟩
    obtain ⟨m, ms, rfl⟩ := List.exists_cons_of_ne_nil hne
    rw [arrangedSections, if_pos (List.all_eq_true.mp hall m List.mem_cons_self)] at hnodes
    cases hnodes
  refine ⟨.table .parent nodes, header', ?_, ?_⟩
  · rw [arranged, Node.toDatum, hnodes, hplains, List.nil_append]
  · rw [sections, hchars]
    exact hreads

/-- The header makes the table, which the lines below it and then the sections are added to. -/
theorem readsTable_of_header (hnodup : (ms.map Prod.fst).Nodup) (hkeys : ∀ m ∈ ms, IsBareKey m.1)
    (htabular : ∀ m ∈ ms, Tabular n m.2) (hms : ∀ m ∈ ms, ReadsTable n m.2)
    (hsome : ¬(ms.all (fun m => isSection m.2) = true ∧ ms ≠ [])) : ReadsTable (n + 1) (.record ms) := by
  intro g root entries key header hroot hfresh hpath hdepth _
  have hnew := Entries.find?_eq_none_of_not_mem hfresh
  let inner := g.inner hnew .explicit
  have hheader : Reads ⟨root, header⟩ (headerLine inner.path) ⟨inner.fill [], inner.path⟩ := by
    have hlength : (g.path ++ [key]).length < nestingLimit :=
      Nat.lt_of_le_of_lt (Nat.le_add_right _ n) (length_concat_add_lt hdepth)
    refine reads_of_line (by simp [headerLine, inner, Gap.inner]) fun rest => ?_
    refine (line_headerLine _ (List.concat_ne_nil key g.path) hpath hlength rest).trans ?_
    rw [hroot.enter hnew]
    rfl
  have hlines : Reads ⟨inner.fill [], inner.path⟩ (plainLines ms) ⟨inner.fill (plainEntries ms), inner.path⟩ :=
    reads_plainLines [] Origin.noConfusion hkeys htabular ((List.filter_sublist.map Prod.fst).nodup hnodup)
  have hchars : sectionChars inner.path ms = [headerLine inner.path ++ plainLines ms] :=
    if_neg (by simpa [inner, Gap.inner] using hsome)
  obtain ⟨nodes, header', hnodes, hreads⟩ :=
    exists_reads_fill (g := inner) hms hkeys hpath (length_concat_add_lt hdepth) (nodup_keys hnodup) inner.path
  refine ⟨.table .explicit (plainEntries ms ++ nodes), header', ?_, ?_⟩
  · rw [arranged, Node.toDatum, membersOf_append, membersOf_plainEntries, hnodes]
  · rw [sections]
    exact .append (hchars ▸ .cons (hheader.append hlines) (.nil _)) hreads

theorem Tabular.readsTable {d : Datum} (h : Tabular n d) : ReadsTable n d := by
  induction h with
  | scalar h =>
    intro _ _ _ _ _ _ _ _ _ hsection
    rw [h.isSection] at hsection
    cases hsection
  | @record n ms hnodup hkeys hms ih =>
    by_cases hall : ms.all (fun m => isSection m.2) = true ∧ ms ≠ []
    · exact readsTable_of_all hnodup hkeys ih hall.1 hall.2
    · exact readsTable_of_header hnodup hkeys hms ih hall

/-! ## Documents -/

/-- The members of the outermost record stand below no header. -/
theorem reads_topLines (hkeys : ∀ m ∈ ms, IsBareKey m.1) (hms : ∀ m ∈ ms, Tabular n m.2)
    (hnodup : (ms.map Prod.fst).Nodup) : ReadsEach {} (sectionChars [] ms) ⟨plainEntries ms, []⟩ := by
  have hlines : Reads {} (plainLines ms) ⟨plainEntries ms, []⟩ :=
    reads_plainLines (g := .top) [] Origin.noConfusion hkeys hms ((List.filter_sublist.map Prod.fst).nodup hnodup)
  rw [sectionChars]
  split
  next hall =>
    rw [plainEntries, plains_eq_nil (Bool.and_eq_true_iff.mp hall).1]
    exact .nil _
  next => exact .cons hlines (.nil _)

theorem exists_reads_chars (h : Tabular nestingLimit (.record ms)) :
    ∃ doc : Document, doc.toDatum = arranged (.record ms) ∧ Reads {} (chars (.record ms)) doc := by
  cases h with
  | scalar h => cases h
  | record hnodup hkeys hms =>
    obtain ⟨nodes, header, hnodes, hreads⟩ :=
      exists_reads_fill (g := .top) (fun m hm => (hms m hm).readsTable) hkeys nofun (by decide)
        (nodup_keys hnodup) []
    refine ⟨⟨plainEntries ms ++ nodes, header⟩, ?_, ?_⟩
    · rw [Document.toDatum, membersOf_append, membersOf_plainEntries, hnodes, arranged]
    · rw [chars, sections]
      exact ((reads_topLines hkeys hms hnodup).append hreads).joined

/-- No line begins with a byte order mark. -/
theorem line_byteOrderMark (doc : Document) (rest : List Char) : line doc ('\ufeff' :: rest) = none := rfl

/-- What is written for a record of scalars and of such records is read back, arranged. -/
theorem parse_render (h : Tabular nestingLimit (.record ms)) :
    parse (render (.record ms)) = some (arranged (.record ms)) := by
  obtain ⟨doc, hdoc, hreads⟩ := exists_reads_chars h
  have hlines : lines (chars (.record ms)).length {} (chars (.record ms)) = some doc := by
    obtain ⟨fuel, -, heq⟩ := hreads (chars (.record ms)).length [] (by simp)
    rw [List.append_nil] at heq
    rw [heq, lines]
  rw [parse, render, String.toList_ofList, parseChars, hlines, Option.map_some, hdoc]
  intro rest heq
  rw [heq, List.length_cons, lines, line_byteOrderMark] at hlines
  · cases hlines
  · exact List.cons_ne_nil _ _

end AudioStream.Toml
