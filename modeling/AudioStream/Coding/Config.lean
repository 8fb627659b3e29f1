import AudioStream.Coding.Audio
import AudioStream.Config.Basic

/-!
# Configurations as data

The parts of a configuration are records in which every member may be left out.
-/

namespace AudioStream

instance : Coded StreamConfig where
  encode c := .record [("format", encode c.format), ("channel_layout", encode c.layout),
    ("sample_rate", encode c.sampleRate), ("buffer_size_frames", encode c.bufferFrames)]
  decode f d := do
    let [format, layout, rate, frames] ←
      d.fields? f ["format", "channel_layout", "sample_rate", "buffer_size_frames"] | none
    let base : StreamConfig := {}
    some ⟨← Datum.optional f format base.format, ← Datum.optional f layout base.layout,
      ← Datum.optional f rate base.sampleRate, ← Datum.optional f frames base.bufferFrames⟩

instance : Coded DebugParameters where
  encode p := .record [("transient_state_delay_ms", encode p.transientDelay),
    ("force_transient_burst", encode p.shortBursts),
    ("force_synchronous_drain", encode p.synchronousDrain)]
  decode f d := do
    let [delay, short, synchronous] ← d.fields? f
      ["transient_state_delay_ms", "force_transient_burst", "force_synchronous_drain"] | none
    let base : DebugParameters := {}
    some ⟨← Datum.optional f delay base.transientDelay, ← Datum.optional f short base.shortBursts,
      ← Datum.optional f synchronous base.synchronousDrain⟩

instance : Coded LoggingConfig where
  encode c := .record [("filter", encode c.filter)]
  decode f d := do
    let [filter] ← d.fields? f ["filter"] | none
    some ⟨← Datum.optional f filter ({} : LoggingConfig).filter⟩

instance : Coded Config where
  encode c := .record [("stream", encode c.stream), ("debug", encode c.debug),
    ("logging", encode c.logging)]
  decode f d := do
    let [stream, debug, logging] ← d.fields? f ["stream", "debug", "logging"] | none
    some ⟨← Datum.optional f stream {}, ← Datum.optional f debug {}, ← Datum.optional f logging {}⟩

end AudioStream
