import AudioStream.Config.Toml
import AudioStream.Proofs.Coding.Lawful
import AudioStream.Proofs.Toml.RoundTrip

/-!
# Configuration files are read back

A configuration is read back from the text that is kept of it. A channel layout that is a mask is a record; it
comes as a section behind the other fields of the stream, where it is found as well.

The main statement is `Config.ofToml_toToml`.
-/

namespace AudioStream

open Toml (Scalar Tabular IsWord arranged)

/-! ## What is written -/

namespace Toml

/-- The number of a word without a sign is one of a word of sixty-four bits with a sign. -/
theorem isWord_toNat (n : UInt32) : IsWord n.toNat := by
  have hless : n.toNat < 4294967296 := n.toNat_lt
  have hmin : Int64.minValue.toInt ≤ 0 := by decide
  have hmax : 4294967296 ≤ Int64.maxValue.toInt := by decide
  exact ⟨by omega, by omega⟩

theorem isWord_toInt (n : Int64) : IsWord n.toInt := ⟨n.minValue_le_toInt, n.toInt_le⟩

/-- A record with the given keys. -/
theorem Tabular.of_keys {n : Nat} {ms : List (String × Datum)} (keys : List String)
    (h : keys.Nodup ∧ ∀ key ∈ keys, IsBareKey key) (hkeys : ms.map Prod.fst = keys)
    (hms : ms.Forall fun m => Tabular n m.2) : Tabular (n + 1) (.record ms) :=
  .record (hkeys ▸ h.1) (fun m hm => h.2 m.1 (hkeys ▸ List.mem_map_of_mem hm))
    (List.forall_iff_forall_mem.mp hms)

end Toml

theorem scalar_encode_keyed {α : Type} [Keyed α] (a : α) : Scalar (encode a) := .text _

theorem scalar_encode_bool (b : Bool) : Scalar (encode b) := .bool b

theorem scalar_encode_string (s : String) : Scalar (encode s) := .text s

theorem scalar_encode_uint32 (n : UInt32) : Scalar (encode n) := .int (Toml.isWord_toNat n)

theorem scalar_encode_int64 (n : Int64) : Scalar (encode n) := .int (Toml.isWord_toInt n)

theorem ChannelLayout.tabular_encode (layout : ChannelLayout) (n : Nat) : Tabular (n + 1) (encode layout) := by
  cases layout with
  | mask bits => exact .of_keys ["mask"] (by decide) rfl (.scalar (scalar_encode_uint32 bits))
  | indexMask bits => exact .of_keys ["index_mask"] (by decide) rfl (.scalar (scalar_encode_uint32 bits))
  | _ => exact .scalar (.text _)

theorem StreamConfig.tabular_encode (c : StreamConfig) (n : Nat) : Tabular (n + 2) (encode c) := by
  refine .of_keys ["format", "channel_layout", "sample_rate", "buffer_size_frames"] (by decide) rfl ?_
  exact ⟨.scalar (scalar_encode_keyed c.format), c.layout.tabular_encode n,
    .scalar (scalar_encode_uint32 c.sampleRate), .scalar (scalar_encode_int64 c.bufferFrames)⟩

theorem DebugParameters.tabular_encode (p : DebugParameters) (n : Nat) : Tabular (n + 1) (encode p) := by
  refine .of_keys ["transient_state_delay_ms", "force_transient_burst", "force_synchronous_drain"]
    (by decide) rfl ?_
  exact ⟨.scalar (scalar_encode_uint32 p.transientDelay), .scalar (scalar_encode_bool p.shortBursts),
    .scalar (scalar_encode_bool p.synchronousDrain)⟩

theorem LoggingConfig.tabular_encode (c : LoggingConfig) (n : Nat) : Tabular (n + 1) (encode c) :=
  .of_keys ["filter"] (by decide) rfl (.scalar (scalar_encode_string c.filter))

theorem Config.tabular_encode (c : Config) (n : Nat) : Tabular (n + 3) (encode c) := by
  refine .of_keys ["stream", "debug", "logging"] (by decide) rfl ?_
  exact ⟨c.stream.tabular_encode n, c.debug.tabular_encode (n + 1), c.logging.tabular_encode (n + 1)⟩

/-! ## What is read -/

/-- The fields of a stream are found, in whatever order the layout stands among them. -/
theorem StreamConfig.decode_arranged_of (f : Dialect) {format layout rate frames : Datum}
    (hformat : Scalar format) (hrate : Scalar rate) (hframes : Scalar frames)
    (hlayout : arranged layout = layout) :
    decode f (arranged (.record [("format", format), ("channel_layout", layout), ("sample_rate", rate),
      ("buffer_size_frames", frames)])) = StreamConfig.ofFields? f format layout rate frames := by
  cases hsection : Toml.isSection layout with
  | true =>
    rw [← StreamConfig.decode_record_layout]
    simp [arranged, Toml.plains, Toml.arrangedSections, hformat.isSection, hrate.isSection, hframes.isSection,
      hsection, hlayout]
  | false =>
    rw [← StreamConfig.decode_record]
    simp [arranged, Toml.plains, Toml.arrangedSections, hformat.isSection, hrate.isSection, hframes.isSection,
      hsection]

theorem ChannelLayout.arranged_encode (layout : ChannelLayout) : arranged (encode layout) = encode layout := by
  cases layout <;> rfl

theorem StreamConfig.decode_arranged (f : Dialect) (c : StreamConfig) :
    decode f (arranged (encode c)) = some c :=
  (decode_arranged_of f (scalar_encode_keyed c.format) (scalar_encode_uint32 c.sampleRate)
    (scalar_encode_int64 c.bufferFrames) c.layout.arranged_encode).trans (c.ofFields?_encode f)

/-- A mask stands behind the other fields of its stream. -/
example : Toml.render (encode ({ layout := .mask 3 } : StreamConfig)) =
    "format = \"pcm16_bit\"\nsample_rate = 48000\nbuffer_size_frames = 1024\n\n[channel_layout]\nmask = 3\n" := by
  cbv

theorem DebugParameters.arranged_encode (p : DebugParameters) : arranged (encode p) = encode p := rfl

theorem LoggingConfig.arranged_encode (c : LoggingConfig) : arranged (encode c) = encode c := rfl

theorem Config.arranged_record {stream debug logging : Datum} (hstream : Toml.isSection stream = true)
    (hdebug : Toml.isSection debug = true) (hlogging : Toml.isSection logging = true) :
    arranged (.record [("stream", stream), ("debug", debug), ("logging", logging)]) =
      .record [("stream", arranged stream), ("debug", arranged debug), ("logging", arranged logging)] := by
  simp [arranged, Toml.plains, Toml.arrangedSections, hstream, hdebug, hlogging]

theorem Config.decode_arranged (f : Dialect) (c : Config) : decode f (arranged (encode c)) = some c := by
  have harranged : arranged (encode c) = .record [("stream", arranged (encode c.stream)),
      ("debug", arranged (encode c.debug)), ("logging", arranged (encode c.logging))] :=
    Config.arranged_record rfl rfl rfl
  have hstream (default : StreamConfig) :
      Datum.optional f (some (arranged (encode c.stream))) default = some c.stream :=
    c.stream.decode_arranged f
  rw [harranged, c.debug.arranged_encode, c.logging.arranged_encode, Config.decode_record]
  simp [hstream]

/-- A configuration is read back from its text. -/
theorem Config.ofToml_toToml (c : Config) : ofToml c.toToml = .ok c := by
  have hparse : Toml.parse (Toml.render (encode c)) = some (arranged (encode c)) :=
    Toml.parse_render (c.tabular_encode 77)
  rw [ofToml, toToml, hparse, Option.bind_some, c.decode_arranged]

end AudioStream
