import AudioStream.Device
import Mathlib.Data.List.TakeWhile
import Mathlib.Logic.Function.Defs

/-!
# Devices are told apart by their identifiers

No label of a kind has a colon in it. So the label ends where the first colon of an identifier stands, and all
that comes behind this colon is the address, with whatever colons the address has. An identifier without a
colon is a label alone, and the address is empty.

The main statement is `Device.id_injective`.
-/

namespace AudioStream

namespace DeviceKind

theorem label_injective : Function.Injective label := by
  intro a b
  cases a <;> cases b <;> simp [label]

/-- A label stops before the first colon of whatever it is written in front of. -/
theorem ne_colon_of_mem_label (k : DeviceKind) : ∀ c ∈ k.label.toList, (c != ':') = true := by
  cases k <;> simp [label]

end DeviceKind

namespace Device

/-- What stands behind the label in an identifier. -/
def suffix (d : Device) : List Char :=
  if d.address = "" then [] else ':' :: d.address.toList

theorem toList_id (d : Device) : d.id.toList = d.kind.label.toList ++ d.suffix := by
  unfold id suffix
  split <;> simp

/-- The label is what comes before the first colon. -/
theorem takeWhile_id (d : Device) : d.id.toList.takeWhile (· != ':') = d.kind.label.toList := by
  have hsuffix : d.suffix.takeWhile (· != ':') = [] := by
    unfold suffix
    split <;> simp
  rw [toList_id, List.takeWhile_append_of_pos d.kind.ne_colon_of_mem_label, hsuffix, List.append_nil]

/-- The address is what comes behind the first colon. -/
theorem tail_dropWhile_id (d : Device) :
    (d.id.toList.dropWhile (· != ':')).tail = d.address.toList := by
  rw [toList_id, List.dropWhile_append_of_pos d.kind.ne_colon_of_mem_label]
  unfold suffix
  split
  next hempty => simp [hempty]
  next => simp

theorem id_injective : Function.Injective Device.id := by
  intro a b h
  have hkind : a.kind = b.kind := by
    apply DeviceKind.label_injective
    apply String.toList_inj.mp
    rw [← takeWhile_id, ← takeWhile_id, h]
  have haddress : a.address = b.address := by
    apply String.toList_inj.mp
    rw [← tail_dropWhile_id, ← tail_dropWhile_id, h]
  cases a
  cases b
  exact congr (congrArg mk hkind) haddress

end Device

end AudioStream
