import AudioStream.Main
import AudioStream.Json.Parser
import AudioStream.Queue.Session
import AudioStream.Routing
import AudioStream.Proofs.Capture.Intact
import AudioStream.Proofs.Capture.Run
import AudioStream.Proofs.Playback.Intact
import AudioStream.Proofs.Playback.Notices
import AudioStream.Proofs.Playback.Short
import AudioStream.Proofs.Worker.Failed
import AudioStream.Proofs.Worker.FrameCount
import AudioStream.Proofs.Worker.Insertion
import AudioStream.Proofs.Worker.Reported
import AudioStream.Proofs.Stream.Traffic
import AudioStream.Proofs.Stream.Closing
import AudioStream.Proofs.Stream.Fatal
import AudioStream.Proofs.Stream.Sending
import AudioStream.Proofs.Stream.Vigil
import AudioStream.Proofs.Queue.Waking
import AudioStream.Proofs.Queue.Order
import AudioStream.Proofs.Configure
import AudioStream.Proofs.Stream.States
import AudioStream.Proofs.Stream.Connection
import AudioStream.Proofs.Stream.Bounds
import AudioStream.Proofs.Stream.Roles
import AudioStream.Proofs.Stream.Falling
import AudioStream.Proofs.Stream.Overlap
import AudioStream.Proofs.Stream.Rehearsal
import AudioStream.Proofs.Session
import AudioStream.Proofs.Coding.Lawful
import AudioStream.Proofs.Config.Toml
import AudioStream.Proofs.Device
import AudioStream.Proofs.Driver.Stub
import AudioStream.Proofs.Queue.AllOrNothing
import AudioStream.Proofs.Demo.Clean
