import AudioStream.Proofs.Stream.Answers
import AudioStream.Proofs.Stream.Owed
import AudioStream.Proofs.Transport
import Mathlib.Data.List.Forall2
import Mathlib.Logic.Relation

/-!
# One reply per command, in order

A client writes commands and takes replies in any order, waiting for replies or not, while the worker goes
through its cycles and others close the stream or shut its queues down. The worker answers the commands in
the order in which it takes them from their queue, each of them once. Only the last one that it has taken
may be without a reply: it may still be at work on it, and it gives none to the exit command and none that
it cannot write.

The main statement is `Traffic.replies_in_order`.
-/

open Relation

namespace AudioStream

/-- A stream, and what has passed through its queues for messages. -/
structure Traffic where
  stream : Stream
  log : Log := {}
  /-- The replies that the client has taken, in their order. -/
  received : List Reply := []
  /-- The commands whose replies could not be written. -/
  lost : List Command := []

namespace Traffic

/-- Sees what someone does to the stream. -/
def see (σ : Traffic) (s : Stream) : Traffic where
  stream := s
  log := σ.log.observe σ.stream.skeleton s.skeleton none
  received := σ.received ++ σ.stream.skeleton.received s.skeleton
  lost := σ.lost ++ σ.stream.skeleton.unwritten s.skeleton

/-- One step of anyone. -/
inductive Step (σ : Traffic) : Traffic → Prop where
  | work {s : Stream} (h : σ.stream.Works s) : Step σ (σ.see s)
  | outside {s : Stream} (h : σ.stream.Outside s) : Step σ (σ.see s)

variable {σ τ : Traffic} {s : Stream}

/-! ## The invariant -/

structure Inv (σ : Traffic) : Prop where
  fits : σ.log.Fits σ.stream.skeleton
  owing : σ.log.Owing σ.stream.skeleton σ.lost
  serves : σ.stream.stage.Serves σ.stream.setup
  answers : ∀ a ∈ σ.log.answered, σ.stream.setup.Answers a.command a.reply
  replies : σ.received ++ σ.stream.skeleton.replies.items = σ.log.replied

theorem stage_of_duty {command : Command} {reply : Reply}
    (h : s.skeleton.duty = .answering command reply) : s.stage = .replying command reply := by
  simp only [Stream.skeleton] at h
  cases hs : s.stage <;> rw [hs] at h <;> cases h
  rfl

theorem Inv.work (inv : Inv σ) (h : σ.stream.Works s) : Inv (σ.see s) := by
  obtain ⟨hsetup, hserves⟩ := Stream.attends_of_works inv.serves h
  have hsame := inv.replies
  refine ⟨Log.fits_of_works h.skeleton inv.fits, Log.owing_of_works h.skeleton inv.fits inv.owing,
    by simpa only [see, hsetup] using hserves, ?_, ?_⟩
  · obtain ⟨-, ⟨-, hanswered⟩ | ⟨command, reply, hduty, -, hanswered⟩⟩ :=
      σ.log.observe_of_works h.skeleton
    · simp only [see, hanswered, hsetup]
      exact inv.answers
    · have hstage := inv.serves
      rw [stage_of_duty hduty] at hstage
      simp only [see, hanswered, hsetup]
      intro a ha
      rcases List.mem_append.mp ha with ha | ha
      · exact inv.answers a ha
      · rw [List.mem_singleton.mp ha]
        exact hstage
  · obtain ⟨-, ⟨hreplies, hanswered⟩ | ⟨command, reply, -, hreplies, hanswered⟩⟩ :=
      σ.log.observe_of_works h.skeleton
    · have hnone : σ.stream.skeleton.received s.skeleton = [] :=
        Skeleton.received_of_le (Nat.le_of_eq (congrArg List.length hreplies.symm))
      simp only [see, Log.replied, hanswered, hnone, hreplies, List.append_nil]
      exact inv.replies
    · have hnone : σ.stream.skeleton.received s.skeleton = [] :=
        Skeleton.received_of_le (by simp [hreplies])
      simp only [see, Log.replied, hanswered, hnone, hreplies, List.append_nil, List.map_append]
      rw [← List.append_assoc, inv.replies]
      rfl

theorem Inv.outside (inv : Inv σ) (h : σ.stream.Outside s) : Inv (σ.see s) := by
  have hleaves := h.leaves
  have hduty : s.skeleton.duty = σ.stream.skeleton.duty := congrArg Stage.duty hleaves.stage
  have hcookie : s.skeleton.cookie = σ.stream.skeleton.cookie := congrArg Setup.cookie hleaves.setup
  have howing : σ.log.Owing s.skeleton (σ.see s).lost :=
    inv.owing.congr hcookie (fun _ hmem => List.mem_append_left _ hmem) (.inl hduty)
  have hserves : s.stage.Serves s.setup := by
    rw [hleaves.stage, hleaves.setup]
    exact inv.serves
  have hanswers : ∀ a ∈ σ.log.answered, s.setup.Answers a.command a.reply := by
    rw [hleaves.setup]
    exact inv.answers
  have hreplies : (σ.see s).received ++ s.skeleton.replies.items = σ.log.replied := by
    simp only [see]
    rw [List.append_assoc, h.trades.received_append]
    exact inv.replies
  rcases σ.log.observe_of_trades h.trades with ⟨hcommands, hlog⟩ | ⟨command, hcommands, hlog⟩
  · refine ⟨?_, ?_, hserves, ?_, ?_⟩ <;> simp only [see, hlog]
    · exact inv.fits.congr hcommands hduty hcookie
    · exact howing
    · exact hanswers
    · exact hreplies
  · refine ⟨?_, ?_, hserves, ?_, ?_⟩ <;> simp only [see, hlog]
    · exact Log.fits_post inv.fits hcommands hduty hcookie none
    · obtain ⟨owed, howes, hdequeued⟩ := howing
      exact ⟨owed, howes, (Log.dequeued_post inv.fits.taken_le none command).trans hdequeued⟩
    · exact hanswers
    · exact hreplies

theorem inv_opened {t : Transport} (ht : t.IsFresh) (direction : Direction) (cookie : Int32)
    (microphones : List (Device × String)) :
    Inv { stream := Stream.opened direction t cookie microphones } := by
  have hcommands : t.commands.items = [] := by
    rw [ht.commands_eq]
    rfl
  have hreplies : t.replies.items = [] := by
    rw [ht.replies_eq]
    rfl
  have hfits : Log.Fits (Stream.opened direction t cookie microphones).skeleton {} :=
    ⟨Nat.le_refl _, hcommands, rfl, by simp⟩
  exact ⟨hfits, hfits.owing_of_listening rfl, trivial, by simp, hreplies⟩

/-! ## The order of replies -/

/-- The replies answer the commands one by one, in the order in which these were written. -/
structure InOrder (s : Setup) (σ : Traffic) : Prop where
  /-- What was written and not taken by the worker waits in the queue. -/
  commands : σ.log.dequeued ++ σ.stream.transport.commands.items = σ.log.commands
  /-- Of the commands that the worker has taken, the last may be without a reply. -/
  owing : σ.log.Owing σ.stream.skeleton σ.lost
  /-- There is one reply for each command that was answered, and none for the exit command. -/
  answers : List.Forall₂ (fun command reply => command ≠ .exit s.cookie ∧ s.Answers command reply)
    σ.log.served σ.log.replied
  /-- What the worker has replied and the client not taken waits in the queue. -/
  replies : σ.received ++ σ.stream.transport.replies.items = σ.log.replied
  received : ∀ (i : Nat) (reply : Reply), σ.received[i]? = some reply →
    ∃ command, σ.log.commands[i]? = some command ∧ s.Answers command reply

theorem Inv.forall₂ (inv : Inv σ) : List.Forall₂ (fun command reply =>
    command ≠ .exit σ.stream.setup.cookie ∧ σ.stream.setup.Answers command reply)
    σ.log.served σ.log.replied := by
  rw [Log.served, Log.replied, List.forall₂_map_left_iff, List.forall₂_map_right_iff, List.forall₂_same]
  intro a ha
  obtain ⟨i, hi⟩ := List.getElem?_of_mem ha
  exact ⟨(inv.fits.answered i a hi).2.2, inv.answers a ha⟩

theorem Inv.inOrder (inv : Inv σ) : σ.InOrder σ.stream.setup := by
  have hcommands : σ.log.dequeued ++ σ.stream.skeleton.commands.items = σ.log.commands := by
    rw [inv.fits.items, Log.dequeued, List.map_drop]
    exact List.take_append_drop _ _
  refine ⟨hcommands, inv.owing, inv.forall₂, inv.replies, ?_⟩
  intro i reply hi
  have hreplied : σ.log.replied[i]? = some reply := by
    rw [← inv.replies, List.getElem?_append_left (List.getElem?_eq_some_iff.mp hi).1]
    exact hi
  rw [Log.replied, List.getElem?_map] at hreplied
  obtain ⟨a, ha, rfl⟩ := Option.map_eq_some_iff.mp hreplied
  refine ⟨a.command, ?_, inv.answers a (List.mem_of_getElem? ha)⟩
  rw [Log.commands, List.getElem?_map]
  exact (inv.fits.answered i a ha).2.1

/-- A worker that waits on for a command, or looks again how long it may wait, leaves the queues alone. -/
theorem queues_of_listening (h : σ.stream.Works s) (before : σ.stream.skeleton.duty = .listening)
    (after : s.skeleton.duty = .listening) : s.skeleton = σ.stream.skeleton := by
  have hworks := h.skeleton
  generalize s.skeleton = k' at hworks after ⊢
  cases hworks with
  | stay => rfl
  | write duty => simp [before] at duty
  | _ => cases after

theorem setup_step (inv : Inv σ) (h : Step σ τ) : τ.stream.setup = σ.stream.setup := by
  cases h with
  | work h => exact (Stream.attends_of_works inv.serves h).setup
  | outside h => exact h.leaves.setup

theorem inv_step (inv : Inv σ) (h : Step σ τ) : Inv τ := by
  cases h with
  | work h => exact inv.work h
  | outside h => exact inv.outside h

theorem inv_of_reaches (inv : Inv σ) (h : ReflTransGen Step σ τ) :
    Inv τ ∧ τ.stream.setup = σ.stream.setup := by
  induction h with
  | refl => exact ⟨inv, rfl⟩
  | tail _ hstep ih => exact ⟨inv_step ih.1 hstep, (setup_step ih.1 hstep).trans ih.2⟩

/-! ## The end of the worker -/

/-- A worker that has left its loop takes no command and writes no reply. -/
theorem ended_of_works {k k' : Skeleton} (h : k.Works k') (ended : k.Ended) (log : Log) :
    k'.Ended ∧ log.observe k k' none = log := by
  cases h with
  | stay => exact ⟨ended, Log.observe_same rfl (Nat.le_refl _)⟩
  | shutCommands => exact ⟨.inr (.inl rfl), Log.observe_same rfl (Nat.le_refl _)⟩
  | shutReplies | stop => exact ⟨.inr (.inr (.inr rfl)), Log.observe_same rfl (Nat.le_refl _)⟩
  | _ => simp_all [Skeleton.Ended]

theorem ended_step (inv : Inv σ) (ended : σ.stream.skeleton.Ended) (h : Step σ τ) :
    τ.stream.skeleton.Ended ∧ τ.log.dequeued = σ.log.dequeued ∧ τ.log.replied = σ.log.replied := by
  cases h with
  | work h =>
    obtain ⟨hended, hlog⟩ := ended_of_works h.skeleton ended σ.log
    exact ⟨hended, congrArg Log.dequeued hlog, congrArg Log.replied hlog⟩
  | @outside s h =>
    have hduty : s.skeleton.duty = σ.stream.skeleton.duty := congrArg Stage.duty h.leaves.stage
    refine ⟨by simpa only [Skeleton.Ended, see, hduty] using ended, ?_⟩
    rcases σ.log.observe_of_trades h.trades with ⟨-, hlog⟩ | ⟨command, -, hlog⟩
    · exact ⟨congrArg Log.dequeued hlog, congrArg Log.replied hlog⟩
    · have hsee : (σ.see s).log = { σ.log with posted := σ.log.posted ++ [(none, command)] } := hlog
      rw [hsee]
      exact ⟨Log.dequeued_post inv.fits.taken_le none command, rfl⟩

theorem ended_of_reaches (inv : Inv σ) (ended : σ.stream.skeleton.Ended) (h : ReflTransGen Step σ τ) :
    τ.stream.skeleton.Ended ∧ τ.log.dequeued = σ.log.dequeued ∧ τ.log.replied = σ.log.replied := by
  induction h with
  | refl => exact ⟨ended, rfl, rfl⟩
  | tail hreach hstep ih =>
    obtain ⟨hended, hdequeued, hreplied⟩ := ih
    obtain ⟨hended', hdequeued', hreplied'⟩ := ended_step (inv_of_reaches inv hreach).1 hended hstep
    exact ⟨hended', hdequeued'.trans hdequeued, hreplied'.trans hreplied⟩

/-- In every run of either direction, whatever the client writes and reads and whoever closes the stream,
there is exactly one reply for each command that the worker has taken, in the order of the commands; only
the last command may be without one, and stays so when the worker has ended. Waiting for a command leaves
the queues as they are. -/
theorem replies_in_order {config : StreamConfig} {debug : DebugParameters} {notifies : Bool}
    {t : Transport} (ht : Transport.configure config debug notifies = .ok t) (direction : Direction)
    (cookie : Int32) (microphones : List (Device × String))
    (hσ : ReflTransGen Step { stream := Stream.opened direction t cookie microphones } σ) :
    σ.InOrder (.ofTransport t direction cookie) ∧
    (∀ s, σ.stream.Works s → σ.stream.stage.duty = .listening → s.stage.duty = .listening →
      s.transport.commands = σ.stream.transport.commands ∧
      s.transport.replies = σ.stream.transport.replies) ∧
    (∀ τ, σ.stream.skeleton.Ended → ReflTransGen Step σ τ →
      τ.log.dequeued = σ.log.dequeued ∧ τ.log.replied = σ.log.replied) := by
  obtain ⟨inv, hsetup⟩ := inv_of_reaches
    (inv_opened (Transport.isFresh_of_configure ht) direction cookie microphones) hσ
  refine ⟨?_, ?_, ?_⟩
  · have horder := inv.inOrder
    rwa [hsetup] at horder
  · intro s hworks before after
    have hsame := queues_of_listening hworks before after
    exact ⟨congrArg Skeleton.commands hsame, congrArg Skeleton.replies hsame⟩
  · intro τ ended hτ
    exact (ended_of_reaches inv ended hτ).2

/-- A stream whose worker has answered the first of two commands, with both queues in use. -/
def pipelined : Traffic where
  stream := { Stream.opened .output .small 7 [] with
    transport := { Transport.small with
      commands := { capacity := 1, items := [.start], capacity_pos := Nat.one_pos }
      replies := { capacity := 1, items := [{ status := .ok }], capacity_pos := Nat.one_pos } } }
  log := {
    posted := [(none, .getStatus), (none, .start)]
    taken := 1
    answered := [⟨0, .getStatus, { status := .ok }⟩] }

theorem reaches_pipelined :
    ReflTransGen Step { stream := Stream.opened .output .small 7 [] } pipelined := by
  let m : Moment := ⟨0, fun _ => none⟩
  have start : ReflTransGen Step { stream := Stream.opened .output .small 7 [] }
      { stream := Stream.opened .output .small 7 [] } := .refl
  have posted := start.tail (.outside (.writeCommand .getStatus rfl))
  have holding := ((posted.tail (.work (.step m rfl))).tail (.work (.step m rfl))).tail
    (.work (.step m rfl))
  have posted := holding.tail (.outside (.writeCommand .start rfl))
  exact (posted.tail (.work (.step m rfl))).tail (.work (.step m rfl))

/-- A client that writes its second command before it takes the reply to the first. -/
theorem replies_in_order_pipelined :
    Transport.configure { bufferFrames := 256 } {} false = .ok .small ∧
    ∃ σ, ReflTransGen Step { stream := Stream.opened .output .small 7 [] } σ ∧
      σ.log.dequeued = [.getStatus, .start] ∧ σ.log.served = [.getStatus] ∧
      σ.received = [{ status := .ok }] ∧ σ.InOrder (.ofTransport .small .output 7) := by
  let m : Moment := ⟨0, fun _ => none⟩
  have holding := ((reaches_pipelined.tail (.work (.step m rfl))).tail (.work (.step m rfl))).tail
    (.work (.step m rfl))
  have taken := (holding.tail (.work (.step m rfl))).tail (.outside (.readReply rfl))
  obtain ⟨horder, -, -⟩ := replies_in_order Transport.configure_small .output 7 [] taken
  exact ⟨Transport.configure_small, _, taken, rfl, rfl, rfl, horder⟩

end Traffic

end AudioStream
