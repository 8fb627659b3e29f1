/-!
# Values named by a key

An enumeration is written in data by the key of its value.  A `Keyed` type lists its values and gives
each one a key of its own, so that a key determines its value (`ofKey?_key`).
-/

namespace AudioStream

/-- A finite type whose values are told apart by their keys. -/
class Keyed (α : Type) where
  values : List α
  key : α → String
  mem_values : ∀ a, a ∈ values
  key_inj : ∀ a b, key a = key b → a = b

namespace Keyed

variable {α : Type} [Keyed α]

def ofKey? (k : String) : Option α := (values (α := α)).find? fun a => key a == k

theorem ofKey?_key (a : α) : ofKey? (key a) = some a := by
  have h : (ofKey? (key a) : Option α).isSome := by
    rw [ofKey?, List.find?_isSome]
    exact ⟨a, mem_values a, by simp⟩
  obtain ⟨b, hb⟩ := Option.isSome_iff_exists.1 h
  have hk : key b = key a := by simpa using List.find?_some hb
  rw [hb, key_inj b a hk]

theorem key_of_ofKey? {k : String} {a : α} (h : ofKey? k = some a) : key a = k := by
  simpa using List.find?_some h

theorem ofKey?_eq_some_iff {k : String} {a : α} : ofKey? k = some a ↔ key a = k :=
  ⟨key_of_ofKey?, fun h => h ▸ ofKey?_key a⟩

end Keyed

end AudioStream
