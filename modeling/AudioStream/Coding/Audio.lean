import AudioStream.Coding.Basic
import AudioStream.Geometry
import AudioStream.Device

/-!
# Geometry and devices as data

A channel layout is written by its name, except for the two masks: these are records of one member,
the kind of the mask with its bits.
-/

namespace AudioStream

namespace ChannelLayout

def ofName? : String → Option ChannelLayout
  | "none" => some none
  | "mono" => some mono
  | "stereo" => some stereo
  | "quad" => some quad
  | "5.1" => some surround5_1
  | "7.1" => some surround7_1
  | _ => Option.none

instance : Coded ChannelLayout where
  encode
    | none => .text "none"
    | mono => .text "mono"
    | stereo => .text "stereo"
    | quad => .text "quad"
    | surround5_1 => .text "5.1"
    | surround7_1 => .text "7.1"
    | mask bits => .record [("mask", encode bits)]
    | indexMask bits => .record [("index_mask", encode bits)]
  decode f d := do
    match ← d.variant? with
    | ("mask", payload) => (Datum.required f payload).map mask
    | ("index_mask", payload) => (Datum.required f payload).map indexMask
    | (name, payload) => if Datum.isAbsent f payload then ofName? name else Option.none

end ChannelLayout

instance : Coded Geometry where
  encode g := .record [("format", encode g.format), ("channel_layout", encode g.layout),
    ("sample_rate", encode g.sampleRate)]
  decode f d := do
    let [format, layout, rate] ← d.fields? f ["format", "channel_layout", "sample_rate"] | none
    some ⟨← Datum.required f format, ← Datum.required f layout, ← Datum.required f rate⟩

instance : Coded Device where
  encode d := .record [("kind", encode d.kind), ("address", encode d.address)]
  decode f d := do
    let [kind, address] ← d.fields? f ["kind", "address"] | none
    some ⟨← Datum.required f kind, ← Datum.required f address⟩

instance : Coded ActiveMicrophone where
  encode m := .record [("id", encode m.id), ("channel_count", encode m.channelCount)]
  decode f d := do
    let [id, count] ← d.fields? f ["id", "channel_count"] | none
    some ⟨← Datum.required f id, ← Datum.required f count⟩

end AudioStream
