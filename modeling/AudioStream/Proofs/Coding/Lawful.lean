import AudioStream.Coding.Config
import AudioStream.Coding.Protocol
import AudioStream.Proofs.Json.RoundTrip

/-!
# Values are read back

Every value is read back from the datum that it is written as, in the conventions of either text format. The
datum holds integers and texts only, so it survives being written as JSON as well. Nothing can then be read
from a text but the value that was written, and no two values share a text.

The main statement is `Json.roundTrips`.
-/

namespace AudioStream

/-- Values are written as data that can be written as text, and are read back from them. -/
class LawfulCoded (α : Type) [Coded α] : Prop where
  decode_encode (f : Dialect) (a : α) : decode f (encode a) = some a
  isPlain_encode (a : α) : (encode a).isPlain = true

export LawfulCoded (decode_encode isPlain_encode)

namespace Datum

variable {α : Type} [Coded α] [LawfulCoded α] (f : Dialect)

@[simp] theorem required_encode (a : α) : required f (some (encode a)) = some a := decode_encode f a

@[simp] theorem optional_encode (a default : α) : optional f (some (encode a)) default = some a :=
  decode_encode f a

theorem isPlain_record (ms : List (String × Datum)) :
    (record ms).isPlain = ms.all fun m => m.2.isPlain := by
  rw [isPlain]
  induction ms with
  | nil => rfl
  | cons m ms ih => rw [plainMembers, ih, List.all_cons]

end Datum

instance {α : Type} [Keyed α] : LawfulCoded α where
  decode_encode _ a := Keyed.ofKey?_key a
  isPlain_encode _ := rfl

instance : LawfulCoded Bool where
  decode_encode _ _ := rfl
  isPlain_encode _ := rfl

instance : LawfulCoded String where
  decode_encode _ _ := rfl
  isPlain_encode _ := rfl

/-! ## Words -/

instance : LawfulCoded Int32 where
  decode_encode _ n := (if_pos ⟨n.minValue_le_toInt, n.toInt_le⟩).trans (congrArg some n.ofInt_toInt)
  isPlain_encode _ := rfl

instance : LawfulCoded Int64 where
  decode_encode _ n := (if_pos ⟨n.minValue_le_toInt, n.toInt_le⟩).trans (congrArg some n.ofInt_toInt)
  isPlain_encode _ := rfl

instance : LawfulCoded UInt32 where
  decode_encode _ n :=
    (if_pos ⟨Int.natCast_nonneg _, Int.ofNat_lt.mpr n.toNat_lt⟩).trans (congrArg some n.ofNat_toNat)
  isPlain_encode _ := rfl

instance : LawfulCoded UInt64 where
  decode_encode _ n :=
    (if_pos ⟨Int.natCast_nonneg _, Int.ofNat_lt.mpr n.toNat_lt⟩).trans (congrArg some n.ofNat_toNat)
  isPlain_encode _ := rfl

/-! ## Geometry and devices -/

theorem ChannelLayout.decode_mask (f : Dialect) (d : Datum) :
    decode f (.record [("mask", d)]) = (Datum.required f (some d)).map mask := rfl

theorem ChannelLayout.decode_indexMask (f : Dialect) (d : Datum) :
    decode f (.record [("index_mask", d)]) = (Datum.required f (some d)).map indexMask := rfl

instance : LawfulCoded ChannelLayout where
  decode_encode f layout := by
    cases layout with
    | mask bits => exact (ChannelLayout.decode_mask f (encode bits)).trans (by simp)
    | indexMask bits => exact (ChannelLayout.decode_indexMask f (encode bits)).trans (by simp)
    | _ => rfl
  isPlain_encode layout := by cases layout <;> rfl

theorem Geometry.decode_record (f : Dialect) (format layout rate : Datum) :
    decode f (.record [("format", format), ("channel_layout", layout), ("sample_rate", rate)]) = (do
      some ⟨← Datum.required f format, ← Datum.required f layout, ← Datum.required f rate⟩ :
        Option Geometry) := rfl

instance : LawfulCoded Geometry where
  decode_encode f g :=
    (Geometry.decode_record f (encode g.format) (encode g.layout) (encode g.sampleRate)).trans (by simp)
  isPlain_encode g :=
    (Datum.isPlain_record [(_, encode g.format), (_, encode g.layout), (_, encode g.sampleRate)]).trans
      (by simp [isPlain_encode])

theorem Device.decode_record (f : Dialect) (kind address : Datum) :
    decode f (.record [("kind", kind), ("address", address)]) = (do
      some ⟨← Datum.required f kind, ← Datum.required f address⟩ : Option Device) := rfl

instance : LawfulCoded Device where
  decode_encode f d := (Device.decode_record f (encode d.kind) (encode d.address)).trans (by simp)
  isPlain_encode _ := rfl

theorem ActiveMicrophone.decode_record (f : Dialect) (id count : Datum) :
    decode f (.record [("id", id), ("channel_count", count)]) = (do
      some ⟨← Datum.required f id, ← Datum.required f count⟩ : Option ActiveMicrophone) := rfl

instance : LawfulCoded ActiveMicrophone where
  decode_encode f m :=
    (ActiveMicrophone.decode_record f (encode m.id) (encode m.channelCount)).trans (by simp)
  isPlain_encode _ := rfl

/-! ## Commands and replies -/

theorem Command.decode_value (f : Dialect) (key : String) (value : Datum) :
    decode f (.record [("command", .text key), ("value", value)]) =
      Command.ofParts? f key (some value) false := rfl

instance : LawfulCoded Command where
  decode_encode f c := by
    cases c with
    | exit cookie =>
      exact (Command.decode_value f "exit" (encode cookie)).trans (by simp [Command.ofParts?])
    | burst bytes =>
      exact (Command.decode_value f "burst" (encode bytes)).trans (by simp [Command.ofParts?])
    | drain mode =>
      exact (Command.decode_value f "drain" (encode mode)).trans (by simp [Command.ofParts?])
    | _ => rfl
  isPlain_encode c := by cases c <;> rfl

theorem Position.decode_record (f : Dialect) (frames time : Datum) :
    decode f (.record [("frames", frames), ("time_ns", time)]) = (do
      some ⟨← Datum.required f frames, ← Datum.required f time⟩ : Option Position) := rfl

instance : LawfulCoded Position where
  decode_encode f p := (Position.decode_record f (encode p.frames) (encode p.time)).trans (by simp)
  isPlain_encode _ := rfl

theorem Reply.decode_record (f : Dialect) (status state observable bytes latency : Datum) :
    decode f (.record [("status", status), ("state", state), ("observable", observable),
      ("fmq_byte_count", bytes), ("latency_ms", latency)]) = (do
      some ⟨← Datum.required f status, ← Datum.required f state, ← Datum.required f observable,
        ← Datum.required f bytes, ← Datum.required f latency⟩ : Option Reply) := rfl

instance : LawfulCoded Reply where
  decode_encode f r :=
    (Reply.decode_record f (encode r.status) (encode r.state) (encode r.observable)
      (encode r.byteCount) (encode r.latency)).trans (by simp)
  isPlain_encode _ := rfl

/-! ## Configurations -/

/-- The fields of a stream configuration that are all there. -/
def StreamConfig.ofFields? (f : Dialect) (format layout rate frames : Datum) : Option StreamConfig := do
  let base : StreamConfig := {}
  some ⟨← Datum.optional f format base.format, ← Datum.optional f layout base.layout,
    ← Datum.optional f rate base.sampleRate, ← Datum.optional f frames base.bufferFrames⟩

theorem StreamConfig.ofFields?_encode (f : Dialect) (c : StreamConfig) :
    StreamConfig.ofFields? f (encode c.format) (encode c.layout) (encode c.sampleRate)
      (encode c.bufferFrames) = some c := by
  simp [StreamConfig.ofFields?]

theorem StreamConfig.decode_record (f : Dialect) (format layout rate frames : Datum) :
    decode f (.record [("format", format), ("channel_layout", layout), ("sample_rate", rate),
      ("buffer_size_frames", frames)]) = StreamConfig.ofFields? f format layout rate frames := rfl

/-- The channel layout may stand behind the other fields. -/
theorem StreamConfig.decode_record_layout (f : Dialect) (format layout rate frames : Datum) :
    decode f (.record [("format", format), ("sample_rate", rate), ("buffer_size_frames", frames),
      ("channel_layout", layout)]) = StreamConfig.ofFields? f format layout rate frames := rfl

instance : LawfulCoded StreamConfig where
  decode_encode f c :=
    (StreamConfig.decode_record f (encode c.format) (encode c.layout) (encode c.sampleRate)
      (encode c.bufferFrames)).trans (c.ofFields?_encode f)
  isPlain_encode c :=
    (Datum.isPlain_record [(_, encode c.format), (_, encode c.layout), (_, encode c.sampleRate),
      (_, encode c.bufferFrames)]).trans (by simp [isPlain_encode])

theorem DebugParameters.decode_record (f : Dialect) (delay short synchronous : Datum) :
    decode f (.record [("transient_state_delay_ms", delay), ("force_transient_burst", short),
      ("force_synchronous_drain", synchronous)]) = (do
      let base : DebugParameters := {}
      some ⟨← Datum.optional f delay base.transientDelay, ← Datum.optional f short base.shortBursts,
        ← Datum.optional f synchronous base.synchronousDrain⟩ : Option DebugParameters) := rfl

instance : LawfulCoded DebugParameters where
  decode_encode f p :=
    (DebugParameters.decode_record f (encode p.transientDelay) (encode p.shortBursts)
      (encode p.synchronousDrain)).trans (by simp)
  isPlain_encode _ := rfl

theorem LoggingConfig.decode_record (f : Dialect) (filter : Datum) :
    decode f (.record [("filter", filter)]) = (do
      some ⟨← Datum.optional f filter ({} : LoggingConfig).filter⟩ : Option LoggingConfig) := rfl

instance : LawfulCoded LoggingConfig where
  decode_encode f c := (LoggingConfig.decode_record f (encode c.filter)).trans (by simp)
  isPlain_encode _ := rfl

theorem Config.decode_record (f : Dialect) (stream debug logging : Datum) :
    decode f (.record [("stream", stream), ("debug", debug), ("logging", logging)]) = (do
      some ⟨← Datum.optional f stream {}, ← Datum.optional f debug {}, ← Datum.optional f logging {}⟩ :
        Option Config) := rfl

instance : LawfulCoded Config where
  decode_encode f c :=
    (Config.decode_record f (encode c.stream) (encode c.debug) (encode c.logging)).trans (by simp)
  isPlain_encode c :=
    (Datum.isPlain_record [(_, encode c.stream), (_, encode c.debug), (_, encode c.logging)]).trans
      (by simp [isPlain_encode])

/-! ## JSON -/

namespace Json

/-- Every value is read back from its JSON text. -/
def RoundTrips (α : Type) [Coded α] : Prop :=
  ∀ a : α, (parse (render (encode a))).bind (decode .json) = some a

theorem roundTrips_of_lawful (α : Type) [Coded α] [LawfulCoded α] : RoundTrips α := by
  intro a
  rw [parse_render (isPlain_encode a), Option.bind_some, decode_encode]

/-- Values that are read back do not share a text. -/
theorem RoundTrips.injective {α : Type} [Coded α] (h : RoundTrips α) {a b : α}
    (htext : render (encode a) = render (encode b)) : a = b := by
  have hb := h b
  rw [← htext, h a] at hb
  exact Option.some.inj hb

/-- Everything that goes over the wire or into a configuration is read back from its JSON text, and no two
commands or replies share a text. -/
theorem roundTrips :
    (RoundTrips Command ∧ RoundTrips Reply ∧ RoundTrips Position ∧ RoundTrips State ∧ RoundTrips Status ∧
      RoundTrips DrainMode) ∧
    (RoundTrips SampleFormat ∧ RoundTrips ChannelLayout ∧ RoundTrips Geometry ∧ RoundTrips DeviceKind ∧
      RoundTrips Device ∧ RoundTrips ActiveMicrophone) ∧
    (RoundTrips StreamConfig ∧ RoundTrips DebugParameters ∧ RoundTrips LoggingConfig ∧ RoundTrips Config) ∧
    (∀ c d : Command, render (encode c) = render (encode d) → c = d) ∧
    (∀ r s : Reply, render (encode r) = render (encode s) → r = s) := by
  refine ⟨?_, ?_, ?_, fun _ _ => ?_, fun _ _ => ?_⟩
  · exact ⟨roundTrips_of_lawful _, roundTrips_of_lawful _, roundTrips_of_lawful _, roundTrips_of_lawful _,
      roundTrips_of_lawful _, roundTrips_of_lawful _⟩
  · exact ⟨roundTrips_of_lawful _, roundTrips_of_lawful _, roundTrips_of_lawful _, roundTrips_of_lawful _,
      roundTrips_of_lawful _, roundTrips_of_lawful _⟩
  · exact ⟨roundTrips_of_lawful _, roundTrips_of_lawful _, roundTrips_of_lawful _, roundTrips_of_lawful _⟩
  · exact (roundTrips_of_lawful Command).injective
  · exact (roundTrips_of_lawful Reply).injective

end Json

end AudioStream
