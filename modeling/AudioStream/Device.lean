import AudioStream.Datum.Keyed

/-!
# Audio devices

A device is an endpoint of some kind at an address.  Its identifier is the label of its kind, followed
by a colon and the address unless the address is empty.
-/

namespace AudioStream

inductive DeviceKind where
  | builtinMic
  | builtinSpeaker
  | wiredHeadset
  | usb
  | bluetooth
  | telephony
  | stub
  deriving DecidableEq, Inhabited

namespace DeviceKind

def label : DeviceKind → String
  | builtinMic => "builtin-mic"
  | builtinSpeaker => "builtin-speaker"
  | wiredHeadset => "wired-headset"
  | usb => "usb"
  | bluetooth => "bluetooth"
  | telephony => "telephony"
  | stub => "stub"

instance : Keyed DeviceKind where
  values := [builtinMic, builtinSpeaker, wiredHeadset, usb, bluetooth, telephony, stub]
  key
    | builtinMic => "builtin_mic"
    | builtinSpeaker => "builtin_speaker"
    | wiredHeadset => "wired_headset"
    | usb => "usb"
    | bluetooth => "bluetooth"
    | telephony => "telephony"
    | stub => "stub"
  mem_values a := by cases a <;> simp
  key_inj a b := by cases a <;> cases b <;> simp

end DeviceKind

structure Device where
  kind : DeviceKind
  /-- A bus address, a pair of card and device, or a hardware address, as the kind has it. -/
  address : String
  deriving DecidableEq, Inhabited

namespace Device

/-- The identifier of a device, for instance `usb:card=1;device=0`. -/
def id (d : Device) : String :=
  if d.address = "" then d.kind.label else d.kind.label ++ ":" ++ d.address

end Device

structure ActiveMicrophone where
  id : String
  channelCount : UInt64
  deriving DecidableEq

end AudioStream
