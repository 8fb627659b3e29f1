import AudioStream.Driver.Basic
import AudioStream.Driver.Stub

/-!
# Scripted drivers

A scripted driver does what a list of steps says: the calls of each kind go through their steps in
order, and succeed when there are none left.  A capture transfer that does not fail fills its whole
buffer with a pattern that goes on from one transfer to the next.
-/

namespace AudioStream

/-- Bytes that count up from `start` and begin again at zero after 250. -/
def pattern (start len : Nat) : List UInt8 :=
  (List.range len).map fun i => UInt8.ofNat ((start + i) % 251)

inductive ScriptedFailure where
  | status (status : Int32)
  | buffer

/-- A step of a script for transfers. -/
structure TransferStep where
  /-- The frames that are told, or else as many as were asked for. -/
  frames : Option Nat := none
  latency : Int32 := nominalLatency
  failure : Option ScriptedFailure := none
  inject : Option Nat := none
  disconnects : Bool := false
  duration : Nat := 0

/-- A scripted driver: the steps that are left for each kind of call.  A control call fails with the
status of its step, if that has one. -/
structure Script where
  isInput : Bool
  prepare : List (Option Int32) := []
  drain : List (Option Int32) := []
  flush : List (Option Int32) := []
  pause : List (Option Int32) := []
  standby : List (Option Int32) := []
  transfer : List TransferStep := []
  /-- The bytes of the pattern that have been captured. -/
  captured : Nat := 0

namespace Script

/-- The result of a control call, by the steps left for it. -/
def resultOf (name : String) (steps : List (Option Int32)) : Except DriverError Unit :=
  match steps with
  | some status :: _ => .error (.callFailed name status)
  | _ => .ok ()

def transferResult (step : TransferStep) (size frames : Nat) : Except DriverError TransferResult :=
  match step.failure with
  | some (.status status) => .error (.callFailed "transfer" status)
  | some .buffer => .error (.bufferTooSmall (UInt64.ofNat frames) (UInt64.ofNat size))
  | none => .ok ⟨step.frames.getD frames, step.latency⟩

def uses (step : TransferStep) : List DriverUse :=
  (step.inject.map fun n => .inject (pattern 100 n)).toList
    ++ if step.disconnects then [.connect []] else []

/-- What a transfer leaves behind, and the driver after it. -/
def transferred (d : Script) (step : TransferStep) (buffer : List UInt8) (frames : Nat) :
    TransferAnswer × Script :=
  let result := transferResult step buffer.length frames
  let rest := { d with transfer := d.transfer.tail }
  match d.isInput, result with
  | true, .ok _ =>
    (⟨pattern (d.captured % 251) buffer.length, result⟩,
      { rest with captured := d.captured + buffer.length })
  | _, _ => (⟨buffer, result⟩, rest)

instance : Driver Script where
  prepare d := (resultOf "init" d.prepare, { d with prepare := d.prepare.tail })
  control call d :=
    match call with
    | .drain _ => (⟨resultOf call.name d.drain, 0⟩, { d with drain := d.drain.tail })
    | .flush => (⟨resultOf call.name d.flush, 0⟩, { d with flush := d.flush.tail })
    | .pause => (⟨resultOf call.name d.pause, 0⟩, { d with pause := d.pause.tail })
    | .standby => (⟨resultOf call.name d.standby, 0⟩, { d with standby := d.standby.tail })
  transfer buffer frames d :=
    let step := d.transfer.head?.getD {}
    let (answer, after) := d.transferred step buffer frames
    (⟨(answer, uses step), step.duration⟩, after)

end Script

inductive Hardware where
  | stub (d : Stub)
  | script (d : Script)

instance : Driver Hardware where
  prepare
    | .stub d => let (result, d) := Driver.prepare d; (result, .stub d)
    | .script d => let (result, d) := Driver.prepare d; (result, .script d)
  control call
    | .stub d => let (result, d) := Driver.control call d; (result, .stub d)
    | .script d => let (result, d) := Driver.control call d; (result, .script d)
  transfer buffer frames
    | .stub d => let (result, d) := Driver.transfer buffer frames d; (result, .stub d)
    | .script d => let (result, d) := Driver.transfer buffer frames d; (result, .script d)

end AudioStream
