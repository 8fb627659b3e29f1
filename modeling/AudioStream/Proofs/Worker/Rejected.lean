import AudioStream.Proofs.Capture.Table
import AudioStream.Proofs.Playback.Table

/-!
# Commands that change nothing

A worker goes on as it was when a client asks for the state, gives a value that cannot be, or gives a
command that does not go with the state.
-/

namespace AudioStream

namespace Setup

variable {s : Setup} {command : Command}

/-- The commands with a value that they cannot have in a stream of this direction. -/
def Malformed (s : Setup) : Command → Prop :=
  match s.direction with
  | .input => Capture.Malformed s
  | .output => Playback.Malformed s

theorem decide_of_malformed (h : s.Malformed command) (state : State) :
    s.decide state command = .reject := by
  unfold Malformed at h
  unfold decide
  cases hd : s.direction with
  | input =>
    rw [hd] at h
    cases h with
    | exit hc => simp [Decision.capture, hc]
    | burst hn => simp [Decision.capture, hn]
    | @drain mode hm => cases mode <;> simp_all [Decision.capture]
  | output =>
    rw [hd] at h
    cases h with
    | exit hc => simp [Decision.playback, hc]
    | burst hn => simp [Decision.playback, hn]
    | drain => rfl

theorem decide_getStatus (s : Setup) (state : State) : s.decide state .getStatus = .tell := by
  cases hd : s.direction <;> simp [decide, hd, Decision.capture, Decision.playback]

end Setup

/-- A command that is answered without a change. -/
theorem Worker.react_of_spared {s : Setup} {w : Worker} {now : Nat} {connected : Bool} {command : Command}
    (h : command = .getStatus ∨ s.Malformed command ∨ s.decide w.state command = .refuse) :
    ∃ done, w.react s now connected command = .reply done ∧ done.worker = w := by
  rcases h with rfl | hmalformed | hrefuse
  · exact ⟨_, by rw [react, s.decide_getStatus], rfl⟩
  · exact ⟨_, by rw [react, Setup.decide_of_malformed hmalformed], rfl⟩
  · exact ⟨_, by rw [react, hrefuse], rfl⟩

end AudioStream
