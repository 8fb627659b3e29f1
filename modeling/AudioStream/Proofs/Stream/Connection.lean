import AudioStream.Proofs.Stream.Rerouting
import AudioStream.Proofs.Stream.Reports
import AudioStream.Proofs.Transport
import AudioStream.Proofs.Worker.Honest
import Mathlib.Logic.Relation

/-!
# Changes of the connection

A call that connects a stream to devices sets the flag first and the list second, and no two such calls
overlap. An observer notes the call under way, what the worker found the flag to be when it last looked, and
the replies, each with the flag that was found for its command. A command that the worker looks at after one
call and before the next is carried out as that call has it, wherever the worker was in its cycle when the
call was made. Later changes make no difference to the command.

The main statement is `Routed.connected_in_order`.
-/

open Relation

namespace AudioStream

/-- Whether a device was connected when the worker looked. -/
def Task.connected : Task → Bool
  | looking b | taking b _ | moving b _ | appending b _ => b.connected
  | controlling connected _ _ => connected

/-- The reply that is about to be written. -/
def Stage.reply? : Stage → Option Reply
  | replying _ reply => some reply
  | _ => none

namespace Stream

/-- A step of the worker goes by a flag, and leaves the connection alone. -/
structure Heeds (found : Bool) (a b : Stream) : Prop where
  connected : b.connected = a.connected
  devices : b.devices = a.devices
  task : ∀ command task, b.stage = .handling command task → task.connected = found
  honest : ∀ reply, b.stage.reply? = some reply → reply.Honest found
  /-- The reply of the worker is the only one that is written. -/
  replies : ∀ reply ∈ b.transport.replies.items,
    reply ∈ a.transport.replies.items ∨ a.stage.reply? = some reply

variable {found : Bool} {a b s : Stream} {command : Command}

/-- The worker neither carries out a command after the step nor has a reply to one. -/
theorem heeds_of_idle (connected : b.connected = a.connected) (devices : b.devices = a.devices)
    (idle : ∀ command task, b.stage ≠ .handling command task) (unanswered : b.stage.reply? = none)
    (replies : b.transport.replies.items = a.transport.replies.items) : Heeds found a b where
  connected := connected
  devices := devices
  task command task hs := absurd hs (idle command task)
  honest reply hr := by rw [unanswered] at hr; cases hr
  replies reply hr := .inl (replies ▸ hr)

/-- The worker goes on with a command for which it has found the flag. -/
theorem heeds_of_task {task : Task} (connected : b.connected = a.connected) (devices : b.devices = a.devices)
    (stage : b.stage = .handling command task) (sampled : task.connected = found)
    (replies : b.transport.replies.items = a.transport.replies.items) : Heeds found a b where
  connected := connected
  devices := devices
  task command' task' hs := by
    rw [stage] at hs
    cases hs
    exact sampled
  honest reply hr := by rw [stage] at hr; cases hr
  replies reply hr := .inl (replies ▸ hr)

theorem heeds_handled {h : Handled} (connected : s.connected = a.connected) (devices : s.devices = a.devices)
    (replies : s.transport.replies.items = a.transport.replies.items) (honest : h.answer.Honest found) :
    Heeds found a (s.handled command h) := by
  obtain ⟨reports, heq⟩ := s.handled_eq command h
  rw [heq]
  exact {
    connected := connected
    devices := devices
    task := by rintro _ _ ⟨⟩
    honest := by
      rintro _ ⟨⟩
      exact honest
    replies := fun reply hr => .inl (replies ▸ hr) }

theorem heeds_acts (sampling : a.stage.isSampling = true → found = a.connected)
    (carrying : ∀ command task, a.stage = .handling command task → task.connected = found)
    (hacts : a.Acts b) : Heeds found a b := by
  cases hacts with
  | resolve m hs =>
    obtain ⟨reports, heq⟩ := a.beginCycle_eq m
    rw [heq]
    exact heeds_of_idle rfl rfl (by rintro _ _ ⟨⟩) rfl rfl
  | arm deadline hs => exact heeds_of_idle rfl rfl (by rintro _ _ ⟨⟩) rfl rfl
  | take hs hread => exact heeds_of_idle rfl rfl (by rintro _ _ ⟨⟩) rfl rfl
  | timeOut hs hread => exact heeds_of_idle rfl rfl (by rintro _ _ ⟨⟩) rfl rfl
  | failToRead reason hs hread => exact heeds_of_idle rfl rfl (by rintro _ _ ⟨⟩) rfl rfl
  | leave now hs hreact => exact heeds_of_idle rfl rfl (by rintro _ _ ⟨⟩) rfl rfl
  | tell now hs hreact =>
    have hfound := sampling (by rw [hs]; rfl)
    exact heeds_handled rfl rfl rfl (hfound ▸ Worker.honest_react hreact)
  | call now hs hreact => exact heeds_of_task rfl rfl rfl (sampling (by rw [hs]; rfl)).symm rfl
  | begin now hs hreact => exact heeds_of_task rfl rfl rfl (sampling (by rw [hs]; rfl)).symm rfl
  | size capture hs => exact heeds_of_task rfl rfl rfl (carrying _ _ hs :) rfl
  | look playback hs => exact heeds_of_task rfl rfl rfl (carrying _ _ hs :) rfl
  | fill hs hread => exact heeds_of_task rfl rfl rfl (carrying _ _ hs :) rfl
  | capture capture hs moves => exact heeds_of_task rfl rfl rfl (carrying _ _ hs :) rfl
  | starve now hs hread =>
    exact heeds_handled rfl rfl rfl ((carrying _ _ hs :) ▸ Worker.honest_finishBurst ..)
  | play now playback hs moves =>
    exact heeds_handled rfl rfl rfl ((carrying _ _ hs :) ▸ Worker.honest_finishBurst ..)
  | append now hs write =>
    exact heeds_handled rfl rfl rfl ((carrying _ _ hs :) ▸ Worker.honest_finishBurst ..)
  | overflow now hs write =>
    exact heeds_handled rfl rfl rfl ((carrying _ _ hs :) ▸ Worker.honest_finishBurst ..)
  | control now hs result =>
    exact heeds_handled rfl rfl rfl ((carrying _ _ hs :) ▸ Worker.honest_afterControl ..)
  | @reply command reply replies hs write =>
    obtain ⟨-, hitems, -⟩ := MessageQueue.of_write_eq_done write
    refine ⟨rfl, rfl, by rintro _ _ ⟨⟩, by rintro _ ⟨⟩, fun r hr => ?_⟩
    rcases List.mem_append.mp (hitems ▸ hr) with hold | hnew
    · exact .inl hold
    · rw [List.mem_singleton.mp hnew, hs]
      exact .inr rfl
  | failToWrite reason hs write => exact heeds_of_idle rfl rfl (by rintro _ _ ⟨⟩) rfl rfl
  | giveUp hs =>
    obtain ⟨reports, heq⟩ := report_eq { a with stage := .closingCommands } (.queueFailure _)
    rw [heq]
    exact heeds_of_idle rfl rfl (by rintro _ _ ⟨⟩) rfl rfl
  | shutCommands hs => exact heeds_of_idle rfl rfl (by rintro _ _ ⟨⟩) rfl rfl
  | shutReplies hs => exact heeds_of_idle rfl rfl (by rintro _ _ ⟨⟩) rfl rfl
  | stop hs => exact heeds_of_idle rfl rfl (by rintro _ _ ⟨⟩) rfl rfl

end Stream

/-- A stream, with what is seen of its connection. -/
structure Routed where
  stream : Stream
  /-- The devices of a call that has set the flag and not the list. -/
  pending : Option (List Device) := none
  /-- What the worker found the flag to be when it last looked. -/
  sample : Bool := false
  /-- The replies to the commands so far, each with the flag that was found for its command. -/
  answers : List (Bool × Reply) := []

namespace Routed

/-- The flag that the worker goes by in its next step. -/
def found (σ : Routed) : Bool := if σ.stream.stage.isSampling then σ.stream.connected else σ.sample

/-- The worker goes on. -/
def work (σ : Routed) (b : Stream) : Routed :=
  { σ with
    stream := b
    sample := σ.found
    answers := σ.answers ++ (b.stage.reply?.map fun reply => (σ.found, reply)).toList }

/-- A call sets the flag. -/
def begin (σ : Routed) (devices : List Device) : Routed :=
  { σ with stream := σ.stream.setConnected !devices.isEmpty, pending := some devices }

/-- A call sets the list and is over. -/
def finish (σ : Routed) (devices : List Device) : Routed :=
  { σ with stream := σ.stream.setDevices devices, pending := none }

/-- Something happens, but no call begins. -/
inductive Quiet (σ : Routed) : Routed → Prop where
  | work {b : Stream} (h : σ.stream.Works b) : Quiet σ (σ.work b)
  | outside {b : Stream} (h : σ.stream.Outside b) (connected : b.connected = σ.stream.connected)
      (devices : b.devices = σ.stream.devices) : Quiet σ { σ with stream := b }
  | finish {devices : List Device} (h : σ.pending = some devices) : Quiet σ (σ.finish devices)

/-- Calls are made by the layer that connects devices, and by a driver in the midst of a transfer. -/
inductive Step (σ : Routed) : Routed → Prop where
  | quiet {τ : Routed} (h : σ.Quiet τ) : Step σ τ
  | begin (devices : List Device) (free : σ.pending = none) : Step σ (σ.begin devices)

/-- The devices of the call that began last. -/
def latest (σ : Routed) : List Device := σ.pending.getD σ.stream.devices

/-- What holds of a stream and what is seen of it. -/
structure Inv (σ : Routed) : Prop where
  flag : σ.stream.connected = !σ.latest.isEmpty
  /-- A command is carried out with the flag that was found for it. -/
  task : ∀ command task, σ.stream.stage = .handling command task → task.connected = σ.sample
  /-- So is it answered. -/
  answered : ∀ reply, σ.stream.stage.reply? = some reply → (σ.sample, reply) ∈ σ.answers
  sent : ∀ reply ∈ σ.stream.transport.replies.items, ∃ found, (found, reply) ∈ σ.answers
  honest : ∀ answer ∈ σ.answers, answer.2.Honest answer.1

variable {σ τ : Routed} {b : Stream}

theorem Inv.heeds (inv : Inv σ) (h : σ.stream.Works b) : σ.stream.Heeds σ.found b := by
  refine Stream.heeds_acts (fun hs => if_pos hs) (fun command task hs => ?_) (Stream.acts_of_works h)
  rw [found, hs]
  exact inv.task command task hs

theorem Inv.work (inv : Inv σ) (h : σ.stream.Works b) : Inv (σ.work b) := by
  have heeds := inv.heeds h
  have hold {answer : Bool × Reply} (ha : answer ∈ σ.answers) : answer ∈ (σ.work b).answers :=
    List.mem_append_left _ ha
  refine ⟨?flag, heeds.task, ?answered, ?sent, ?honest⟩
  case flag => simpa [latest, Routed.work, heeds.connected, heeds.devices] using inv.flag
  case answered =>
    intro reply hr
    refine List.mem_append_right _ ?_
    simp [show b.stage.reply? = some reply from hr, Routed.work]
  case sent =>
    intro reply hr
    rcases heeds.replies reply hr with hsent | hwritten
    · obtain ⟨found, hfound⟩ := inv.sent reply hsent
      exact ⟨found, hold hfound⟩
    · exact ⟨σ.sample, hold (inv.answered reply hwritten)⟩
  case honest =>
    intro answer ha
    rcases List.mem_append.mp ha with hpast | hnew
    · exact inv.honest answer hpast
    · obtain ⟨reply, hreply, rfl⟩ : ∃ reply, b.stage.reply? = some reply ∧ (σ.found, reply) = answer := by
        simpa using hnew
      exact heeds.honest reply hreply

theorem Inv.outside (inv : Inv σ) (h : σ.stream.Outside b) (connected : b.connected = σ.stream.connected)
    (devices : b.devices = σ.stream.devices) : Inv { σ with stream := b } where
  flag := by simpa [latest, connected, devices] using inv.flag
  task command task hs := inv.task command task (h.leaves.stage ▸ hs)
  answered reply hr := inv.answered reply (h.leaves.stage ▸ hr)
  sent reply hr := inv.sent reply (h.mem_replies hr)
  honest := inv.honest

theorem latest_finish {devices : List Device} (h : σ.pending = some devices) :
    (σ.finish devices).latest = σ.latest := by
  simp [latest, finish, Stream.setDevices, h]

theorem Inv.finish {devices : List Device} (inv : Inv σ) (h : σ.pending = some devices) :
    Inv (σ.finish devices) where
  flag := by rw [latest_finish h]; exact inv.flag
  task := inv.task
  answered := inv.answered
  sent := inv.sent
  honest := inv.honest

theorem Inv.begin (inv : Inv σ) (devices : List Device) : Inv (σ.begin devices) where
  flag := rfl
  task := inv.task
  answered := inv.answered
  sent := inv.sent
  honest := inv.honest

theorem Inv.quiet (inv : Inv σ) (h : σ.Quiet τ) : Inv τ := by
  cases h with
  | work h => exact inv.work h
  | outside h connected devices => exact inv.outside h connected devices
  | finish h => exact inv.finish h

theorem inv_step (inv : Inv σ) (h : σ.Step τ) : Inv τ := by
  cases h with
  | quiet h => exact inv.quiet h
  | begin devices free => exact inv.begin devices

theorem inv_of_reaches (inv : Inv σ) (h : ReflTransGen Step σ τ) : Inv τ := by
  induction h with
  | refl => exact inv
  | tail _ hstep ih => exact inv_step ih hstep

theorem Inv.latest_quiet (inv : Inv σ) (h : σ.Quiet τ) : τ.latest = σ.latest := by
  cases h with
  | work h => simp [latest, Routed.work, (inv.heeds h).devices]
  | outside h connected devices => simp [latest, devices]
  | finish h => exact latest_finish h

/-- As long as no call begins, the last one counts. -/
theorem Inv.latest_of_quiet (inv : Inv σ) (h : ReflTransGen Quiet σ τ) : Inv τ ∧ τ.latest = σ.latest := by
  induction h with
  | refl => exact ⟨inv, rfl⟩
  | tail _ hstep ih => exact ⟨ih.1.quiet hstep, (ih.1.latest_quiet hstep).trans ih.2⟩

theorem Inv.sample_of_quiet (inv : Inv σ) (h : ReflTransGen Quiet σ τ)
    (hs : τ.stream.stage.isSampling = true) : (τ.work b).sample = !σ.latest.isEmpty := by
  obtain ⟨hinv, hlatest⟩ := inv.latest_of_quiet h
  rw [← hlatest, ← hinv.flag]
  exact if_pos hs

theorem inv_opened {config : StreamConfig} {debug : DebugParameters} {notifies : Bool} {t : Transport}
    (h : Transport.configure config debug notifies = .ok t) (direction : Direction) (cookie : Int32)
    (microphones : List (Device × String)) :
    Inv { stream := Stream.opened direction t cookie microphones } where
  flag := rfl
  task := by rintro _ _ ⟨⟩
  answered := by rintro _ ⟨⟩
  sent := by
    have hreplies : (Stream.opened direction t cookie microphones).transport.replies = .single :=
      (Transport.isFresh_of_configure h).replies_eq
    intro reply hr
    rw [hreplies] at hr
    cases hr
  honest := by rintro _ ⟨⟩

/-- Commands are carried out and answered by the flag that was found for them. -/
structure Attested (σ : Routed) : Prop where
  task : ∀ command task, σ.stream.stage = .handling command task → task.connected = σ.sample
  /-- Bytes are left to the driver if and only if a device was found. -/
  call : ∀ command burst size, σ.stream.stage = .handling command (.moving burst size) →
    σ.stream.call?.isSome = σ.sample
  /-- A reply is noted with the flag that was found for its command. -/
  answered : ∀ command reply, σ.stream.stage = .replying command reply → (σ.sample, reply) ∈ σ.answers
  sent : ∀ reply ∈ σ.stream.transport.replies.items, ∃ found, (found, reply) ∈ σ.answers
  honest : ∀ answer ∈ σ.answers, answer.2.Honest answer.1

theorem Inv.attested (inv : Inv σ) : Attested σ where
  task := inv.task
  call command burst size hs := by
    have hburst : burst.connected = σ.sample := inv.task command _ hs
    rw [← hburst, Stream.call?, hs]
    cases hc : burst.connected <;> simp [hc]
  answered command reply hs := inv.answered reply (by rw [hs]; rfl)
  sent := inv.sent
  honest := inv.honest

/-- If a call is over and the worker then looks at the flag before another call begins, it finds what the call
has set, wherever it was when the call was made. Commands are carried out and answered by what was found. Once
the worker has looked, changes of the connection can be left out up to its next look: it makes the same calls
of the driver and gives the same reply. -/
theorem connected_in_order {config : StreamConfig} {debug : DebugParameters} {notifies : Bool} {t : Transport}
    (h : Transport.configure config debug notifies = .ok t) (direction : Direction) (cookie : Int32)
    (microphones : List (Device × String)) :
    let opened : Routed := { stream := Stream.opened direction t cookie microphones }
    (∀ σ devices τ b, ReflTransGen Step opened σ → σ.pending = some devices →
      ReflTransGen Quiet (σ.finish devices) τ → τ.stream.stage.isSampling = true → τ.stream.Works b →
        (τ.work b).sample = !devices.isEmpty) ∧
    (∀ σ, ReflTransGen Step opened σ → Attested σ) ∧
    ∀ (a b : Stream) (deeds : List Deed), a.Carries deeds b →
      ∃ c, a.Carries (deeds.filter fun d => !d.isRouting) c ∧ c.call? = b.call? ∧ c.stage = b.stage ∧
        c.worker = b.worker ∧ c.transport = b.transport := by
  intro opened
  have inv {σ : Routed} (hσ : ReflTransGen Step opened σ) : Inv σ :=
    inv_of_reaches (inv_opened h direction cookie microphones) hσ
  refine ⟨?found, fun σ hσ => (inv hσ).attested, ?carries⟩
  case found =>
    intro σ devices τ b hσ hpending hquiet hsampling _
    have hsample := ((inv hσ).finish hpending).sample_of_quiet (b := b) hquiet hsampling
    have hlatest : (σ.finish devices).latest = devices := rfl
    rwa [hlatest] at hsample
  case carries =>
    intro a b deeds hcarries
    exact ⟨_, hcarries.reroute a.connected a.devices, rfl, rfl, rfl, rfl⟩

/-! A stream is connected while its worker waits, and is connected to nothing in the midst of a transfer. -/

def speaker : Device := ⟨.builtinSpeaker, ""⟩

/-- The worker waits for its first command. -/
def waiting : Routed := { stream := { Stream.opened .output .small 7 [] with stage := .waiting none } }

/-- After a call the worker has taken a command, and is about to look at the flag. -/
def asked : Routed :=
  { stream :=
      { Stream.opened .output .small 7 [] with
        stage := .sampling (.burst 0), connected := true, devices := [speaker] } }

theorem reaches_waiting : ReflTransGen Step { stream := Stream.opened .output .small 7 [] } waiting :=
  (ReflTransGen.single (.quiet (.work (.step { now := 0 } rfl)))).tail
    (.quiet (.work (.step { now := 0 } rfl)))

theorem quiet_asked : ReflTransGen Quiet ((waiting.begin [speaker]).finish [speaker]) asked :=
  (ReflTransGen.single (.outside (.writeCommand (.burst 0) rfl) rfl rfl)).tail
    (.work (.step { now := 0 } rfl))

/-- The driver disconnects the stream and then ends the transfer. -/
def disconnects : List Deed :=
  [.work { now := 0 }, .work { now := 0 }, .setConnected false, .setDevices [],
    .endTransfer { now := 0 } ⟨[], .ok ⟨0, 5⟩⟩]

/-- The worker has found a device. What the driver does to the connection makes no difference to the reply. -/
theorem connected_in_order_disconnects :
    ∃ b reply, asked.stream.Works b ∧ (asked.work b).sample = true ∧
      (∃ c, b.Carries disconnects c ∧ c.connected = false ∧ c.stage = .replying (.burst 0) reply) ∧
      (∃ c, b.Carries (disconnects.filter fun d => !d.isRouting) c ∧ c.stage = .replying (.burst 0) reply) ∧
      reply.observable = ⟨0, 0⟩ := by
  obtain ⟨hfound, -, hcarries⟩ := connected_in_order Transport.configure_small .output 7 []
  obtain ⟨b, hworks, hstage⟩ : ∃ b, asked.stream.Works b ∧
      b = { asked.stream with stage := .handling (.burst 0) (.looking ⟨0, true⟩) } :=
    ⟨_, .step { now := 0 } rfl, rfl⟩
  have hsample := hfound _ [speaker] asked b (reaches_waiting.tail (.begin [speaker] rfl)) rfl quiet_asked rfl
    hworks
  obtain ⟨c, reply, hc, hconnected, hreply, hposition⟩ : ∃ c reply, b.Carries disconnects c ∧
      c.connected = false ∧ c.stage = .replying (.burst 0) reply ∧ reply.observable = ⟨0, 0⟩ := by
    subst hstage
    exact ⟨_, _, .cons rfl rfl (.cons rfl rfl (.cons rfl rfl (.cons rfl rfl (.cons rfl rfl .nil)))), rfl, rfl,
      rfl⟩
  obtain ⟨d, hd, -, hsame, -⟩ := hcarries b c disconnects hc
  exact ⟨b, reply, hworks, hsample, ⟨c, hc, hconnected, hreply⟩, ⟨d, hd, hsame.trans hreply⟩, hposition⟩

end Routed

end AudioStream
