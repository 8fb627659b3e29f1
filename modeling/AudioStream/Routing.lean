/-!
# Connection flags

A connection flag tells a worker whether its stream is connected to a device.  Several handles may
share one flag: what is set through one of them is seen through all.
-/

namespace AudioStream

/-- Flags and the handles on them.  Handles are numbered in the order in which they were made. -/
structure FlagBoard where
  flags : List Bool
  /-- The number of the flag of each handle. -/
  handles : List Nat

namespace FlagBoard

def initial : FlagBoard := ⟨[false], [0]⟩

/-- A new flag that is not set, with a handle of its own. -/
def create (b : FlagBoard) : FlagBoard := ⟨b.flags ++ [false], b.handles ++ [b.flags.length]⟩

/-- A new handle on the flag of another handle. -/
def share (b : FlagBoard) (handle : Nat) : FlagBoard :=
  match b.handles[handle]? with
  | some flag => ⟨b.flags, b.handles ++ [flag]⟩
  | none => b

def set (b : FlagBoard) (handle : Nat) (value : Bool) : FlagBoard :=
  match b.handles[handle]? with
  | some flag => ⟨b.flags.set flag value, b.handles⟩
  | none => b

def view (b : FlagBoard) : List Bool := b.handles.map fun flag => b.flags[flag]?.getD false

end FlagBoard

end AudioStream
