import AudioStream.Toml.Table
import Mathlib.Data.List.Basic

/-!
# Where a line of a TOML document takes effect

A header names a table by the path to it, and the lines below it add to this table and leave all others alone.
A tree of tables is taken apart into the entries of one table and the `Gap` around them, which stays as it is
while the entries grow.

The main statements are `Toml.Gap.Shows.assign` and `Toml.Gap.Shows.enter`.
-/

namespace AudioStream.Toml

namespace Entries

variable {entries : Entries} {key : String}

theorem find?_append_self (h : entries.find? key = none) (node : Node) :
    find? (entries ++ [(key, node)]) key = some node := by
  rw [find?] at h ⊢
  rw [List.lookup_append, h, Option.none_or, List.lookup_cons_self]

theorem set_append_self (h : entries.find? key = none) (old new : Node) :
    Entries.set key new (entries ++ [(key, old)]) = entries ++ [(key, new)] := by
  induction entries with
  | nil => simp [Entries.set]
  | cons m entries ih =>
    rw [find?, List.lookup_eq_none_iff, List.forall_mem_cons] at h
    have hne : m.1 ≠ key := fun heq => by simp [heq] at h
    rw [List.cons_append, Entries.set, if_neg hne, ih (List.lookup_eq_none_iff.mpr h.2), List.cons_append]

/-- An entry is new if its key is none of those that are there. -/
theorem find?_eq_none_of_not_mem (h : key ∉ entries.map Prod.fst) : entries.find? key = none := by
  rw [find?, List.lookup_eq_none_iff]
  exact fun m hm => bne_iff_ne.mpr fun heq => h (heq ▸ List.mem_map_of_mem hm)

theorem alter_append_self (f : Origin → Entries → Option Entries) (h : entries.find? key = none)
    (outer origin : Origin) (inner : Entries) :
    alter f [key] outer (entries ++ [(key, .table origin inner)]) =
      (f origin inner).map fun c => entries ++ [(key, .table origin c)] := by
  simp only [alter, find?_append_self h, set_append_self h]

/-- A path is followed to its end part by part. -/
theorem alter_append (f : Origin → Entries → Option Entries) (path path' : List String) (origin : Origin)
    (entries : Entries) : alter f (path ++ path') origin entries = alter (alter f path') path origin entries := by
  induction path generalizing origin entries with
  | nil => rfl
  | cons key path ih =>
    simp only [List.cons_append, alter, ih]

end Entries

/-- A tree of tables with a gap in the place of the entries of one table: the path that leads there, the origin
of the table, and what fills the gap. -/
structure Gap where
  path : List String
  origin : Origin
  fill : Entries → Entries
  alter_fill : ∀ f entries, Entries.alter f path .explicit (fill entries) = (f origin entries).map fill

namespace Gap

/-- The gap in the place of all entries. -/
def top : Gap where
  path := []
  origin := .explicit
  fill := id
  alter_fill _ _ := Option.map_id'.symm

variable {entries : Entries} {key : String}

/-- The gap in the place of the entries of a new table, behind the entries that fill a gap. -/
def inner (g : Gap) (h : entries.find? key = none) (origin : Origin) : Gap where
  path := g.path ++ [key]
  origin := origin
  fill c := g.fill (entries ++ [(key, .table origin c)])
  alter_fill f c := by
    rw [Entries.alter_append, g.alter_fill, Entries.alter_append_self f h, Option.map_map]
    rfl

/-- To whoever follows its path, a tree looks like the gap filled with the given entries. It may lack the table
there if that would be empty. -/
def Shows (g : Gap) (root entries : Entries) : Prop :=
  ∀ f, Entries.alter f g.path .explicit root = (f g.origin entries).map g.fill

variable {g : Gap} {root : Entries}

theorem shows_fill (g : Gap) (entries : Entries) : g.Shows (g.fill entries) entries :=
  fun f => g.alter_fill f entries

/-- A parent that is missing looks like one that is empty. -/
theorem Shows.missing (hroot : g.Shows root entries) (h : entries.find? key = none) :
    (g.inner h .parent).Shows root [] := by
  intro f
  have halter : Entries.alter f [key] g.origin entries =
      (f .parent []).map fun c => entries ++ [(key, .table .parent c)] := by
    simp only [Entries.alter, h]
  rw [inner, Entries.alter_append, hroot, halter, Option.map_map]
  rfl

/-- An assignment to a new key adds an entry to the table that is open. -/
theorem Shows.assign (hroot : g.Shows root entries) (horigin : g.origin ≠ .dotted)
    (h : entries.find? key = none) (d : Datum) :
    (Document.mk root g.path).assign [key] d = some ⟨g.fill (entries ++ [(key, .value d)]), g.path⟩ := by
  have hnotDotted : (g.origin == .dotted) = false := beq_false_of_ne horigin
  have hassign : Entries.assign d [key] false g.origin entries = some (entries ++ [(key, .value d)]) := by
    simp [Entries.assign, hnotDotted, h]
  rw [Document.assign, hroot, hassign]
  rfl

/-- A header with a new key opens an empty table. -/
theorem Shows.enter (hroot : g.Shows root entries) (h : entries.find? key = none) (header : List String) :
    (Document.mk root header).enter false (g.path ++ [key]) =
      some ⟨(g.inner h .explicit).fill [], g.path ++ [key]⟩ := by
  have hopen : Entries.openTable key entries = some (entries ++ [(key, .table .explicit [])]) := by
    simp only [Entries.openTable, h]
  rw [Document.enter, List.getLast?_concat, List.dropLast_concat]
  simp only [Option.bind_eq_bind, Option.bind_some, Bool.false_eq_true, if_false]
  rw [hroot, hopen]
  rfl

end Gap

end AudioStream.Toml
