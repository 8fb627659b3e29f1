import AudioStream.Proofs.Stream.Acts
import AudioStream.Proofs.Stream.Reports

/-!
# Replies and the commands that they answer

A worker makes a reply out of a command in one of three ways: by itself, after a control call of the
driver, or at the end of a burst. Between taking a command and writing a reply it goes through several
steps, and others do as they like meanwhile; the reply it ends up with is one to the command that it took.
-/

namespace AudioStream

/-- A reply that a worker comes to by carrying out a command. -/
inductive Setup.Answers (s : Setup) (command : Command) : Reply → Prop where
  | told {w : Worker} {now : Nat} {connected : Bool} {h : Handled}
      (react : w.react s now connected command = .reply h) : Answers s command h.answer
  | controlled {w after : Worker} {now later : Nat} {connected : Bool} {call : Control} {next : State}
      (react : w.react s now connected command = .control call next)
      (result : Except DriverError Unit) :
      Answers s command (after.afterControl later connected call next result).answer
  | moved {w after : Worker} {now later : Nat} {b : Burst}
      (react : w.react s now b.connected command = .burst b.bytes) (m : Moved) (queued : Bool) :
      Answers s command (after.finishBurst s later b m queued).answer

/-- A worker has decided to do this for the command. -/
def Task.Serves (s : Setup) (command : Command) : Task → Prop
  | .controlling connected call next =>
    ∃ (w : Worker) (now : Nat), w.react s now connected command = .control call next
  | .looking b | .taking b _ | .moving b _ | .appending b _ =>
    ∃ (w : Worker) (now : Nat), w.react s now b.connected command = .burst b.bytes

/-- What the worker is at serves the command that it has taken. -/
def Stage.Serves (s : Setup) : Stage → Prop
  | .handling command task => task.Serves s command
  | .replying command reply => s.Answers command reply
  | _ => True

namespace Stream

variable {a b s : Stream} {m : Moment} {command : Command}

/-- The worker keeps its setup and is at a stage that serves the command. -/
structure Attends (a b : Stream) : Prop where
  setup : b.setup = a.setup
  serves : b.stage.Serves a.setup

theorem attends_handled {h : Handled} (hsetup : s.setup = a.setup)
    (hanswers : a.setup.Answers command h.answer) : a.Attends (s.handled command h) := by
  obtain ⟨reports, heq⟩ := s.handled_eq command h
  rw [heq]
  exact ⟨hsetup, hanswers⟩

theorem attends_beginCycle (m : Moment) (s : Stream) : s.Attends (s.beginCycle m) := by
  obtain ⟨reports, heq⟩ := s.beginCycle_eq m
  rw [heq]
  exact ⟨rfl, trivial⟩

/-- Whatever the worker does serves the command that it has taken. -/
theorem attends_of_works (hserves : a.stage.Serves a.setup) (h : a.Works b) : a.Attends b := by
  cases acts_of_works h with
  | resolve m => exact attends_beginCycle m a
  | tell now hs hreact => exact attends_handled rfl (.told hreact)
  | call now hs hreact => exact ⟨rfl, a.worker, now, hreact⟩
  | begin now hs hreact => exact ⟨rfl, a.worker, now, hreact⟩
  | size _ hs | look _ hs | fill hs | capture _ hs =>
    rw [hs] at hserves
    exact ⟨rfl, hserves⟩
  | starve now hs | play now _ hs | append now hs | overflow now hs =>
    rw [hs] at hserves
    obtain ⟨w, now, hreact⟩ := hserves
    exact attends_handled rfl (.moved hreact _ _)
  | control now hs result =>
    rw [hs] at hserves
    obtain ⟨w, now, hreact⟩ := hserves
    exact attends_handled rfl (.controlled hreact result)
  | giveUp hs =>
    obtain ⟨reports, heq⟩ := report_eq { a with stage := .closingCommands } _
    rw [heq]
    exact ⟨rfl, trivial⟩
  | _ => exact ⟨rfl, trivial⟩

end Stream

end AudioStream
