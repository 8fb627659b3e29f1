import AudioStream.Proofs.Stream.Calls
import AudioStream.Proofs.Stream.Client
import AudioStream.Proofs.Stream.Working
import AudioStream.Proofs.Transport
import Mathlib.Logic.Relation

/-!
# Sending commands

A client sends commands one after the other, each with its own patience, while the worker goes through
its cycles and others close the stream.

The main statement is `Talk.reply_of_send`.
-/

open Relation

namespace AudioStream

/-- A stream with its client, with those who close it, and with the log of its queues. -/
structure Talk where
  stream : Stream
  closers : List CloseStage := []
  client : Client := {}
  log : Log := {}

/-- Sees what someone does to the stream, maybe in a send. -/
def Talk.see (σ : Talk) (s : Stream) (sender : Option Nat) : Talk :=
  { σ with stream := s, log := σ.log.observe σ.stream.skeleton s.skeleton sender }

namespace Talk

/-- One step of anyone. -/
inductive Step (σ : Talk) : Talk → Prop where
  | work {s : Stream} (h : σ.stream.Works s) : Step σ (σ.see s none)
  | stir {s : Stream} (h : σ.stream.Stirs s) : Step σ (σ.see s none)
  | shutdown (channel : Channel) : Step σ (σ.see (σ.stream.shutdown channel) none)
  | arrive : Step σ { σ with closers := σ.closers ++ [.arriving] }
  | close {s : Stream} {i : Nat} {c c' : CloseStage} (place : σ.closers[i]? = some c)
      (h : σ.stream.closeStep c = some (c', s)) :
      Step σ { σ.see s none with closers := σ.closers.set i c' }
  /-- The client begins a send. -/
  | ask (command : Command) (patience : Nat) (free : σ.client.call = none) :
      Step σ { σ with client := { σ.client with
        call := some (.writing command patience), asked := σ.client.asked ++ [command] } }
  | send {s : Stream} {stage stage' : SendStage} (now : Nat) (call : σ.client.call = some stage)
      (h : σ.stream.sendStep now stage = some (stage', s)) :
      Step σ { σ.see s (some σ.client.results.length) with client := σ.client.proceed stage' }

structure Inv (σ : Talk) : Prop where
  client : σ.client.Inv σ.stream.skeleton σ.log
  fits : σ.log.Fits σ.stream.skeleton

variable {σ τ : Talk} {s : Stream}

/-- Nothing that keeps the messages of the queues, and only shuts queues down, breaks the invariant. -/
theorem Inv.see (inv : Inv σ) (grows : σ.stream.skeleton.Grows s.skeleton)
    (commands : s.skeleton.commands.items = σ.stream.skeleton.commands.items)
    (replies : s.skeleton.replies.items = σ.stream.skeleton.replies.items)
    (duty : s.skeleton.duty = σ.stream.skeleton.duty) : Inv (σ.see s none) := by
  have hlog : σ.log.observe σ.stream.skeleton s.skeleton none = σ.log :=
    Log.observe_same commands (Nat.le_of_eq (congrArg List.length replies))
  refine ⟨?_, ?_⟩ <;> simp only [Talk.see, hlog]
  · exact inv.client.congr grows rfl rfl replies
  · exact inv.fits.congr commands duty grows.cookie

theorem Inv.work (inv : Inv σ) (h : σ.stream.Works s) : Inv (σ.see s none) := by
  have hgrows := h.skeleton.grows
  obtain ⟨hposted, ⟨hreplies, hanswered⟩ | ⟨c, r, -, hreplies, hanswered⟩⟩ :=
    σ.log.observe_of_works h.skeleton
  · exact ⟨inv.client.congr hgrows hposted hanswered hreplies, Log.fits_of_works h.skeleton inv.fits⟩
  · exact ⟨inv.client.answer hgrows hposted hanswered hreplies,
      Log.fits_of_works h.skeleton inv.fits⟩

theorem Inv.close (inv : Inv σ) {c c' : CloseStage} (h : σ.stream.closeStep c = some (c', s)) :
    Inv (σ.see s none) := by
  have hcloses := Stream.skeleton_closeStep h
  have hgrows := hcloses.grows
  obtain ⟨hreplies, -, -, ⟨-, hlog⟩ | ⟨-, hlog⟩⟩ := σ.log.observe_of_closes hcloses
  · refine ⟨?_, Log.fits_of_closes hcloses inv.fits⟩
    simp only [Talk.see, hlog]
    exact inv.client.congr hgrows rfl rfl hreplies
  · refine ⟨?_, Log.fits_of_closes hcloses inv.fits⟩
    simp only [Talk.see, hlog]
    exact inv.client.exit hgrows hreplies

theorem inv_step (inv : Inv σ) (h : Step σ τ) : Inv τ := by
  cases h with
  | work h => exact inv.work h
  | stir h =>
    have hs := h.skeleton
    exact inv.see (hs ▸ .refl _) (by rw [hs]) (by rw [hs]) (by rw [hs])
  | shutdown channel =>
    cases channel with
    | command => exact inv.see (Skeleton.grows_of_shutdownCommands _) rfl rfl rfl
    | reply => exact inv.see (Skeleton.grows_of_replies fun _ => rfl) rfl rfl rfl
  | arrive => exact ⟨inv.client, inv.fits⟩
  | close place h =>
    obtain ⟨hclient, hfits⟩ := inv.close h
    exact ⟨hclient, hfits⟩
  | ask command patience free => exact ⟨inv.client.ask free command patience, inv.fits⟩
  | send now call h =>
    obtain ⟨hclient, hfits⟩ :=
      Client.inv_of_sends (Stream.skeleton_sendStep h) inv.client inv.fits call
    exact ⟨hclient, hfits⟩

theorem inv_of_reaches (inv : Inv σ) (h : ReflTransGen Step σ τ) : Inv τ := by
  induction h with
  | refl => exact inv
  | tail _ hstep ih => exact inv_step ih hstep

theorem inv_opened {t : Transport} (ht : t.IsFresh) (direction : Direction) (cookie : Int32)
    (microphones : List (Device × String)) :
    Inv { stream := Stream.opened direction t cookie microphones } := by
  have hcommands : t.commands.items = [] := by
    rw [ht.commands_eq]
    rfl
  have hreplies : t.replies.items = [] := by
    rw [ht.replies_eq]
    rfl
  refine ⟨⟨?_, ?_, ?_, rfl, ?_, fun _ => hreplies, ?_, ?_, ?_⟩,
    ⟨Nat.le_refl _, hcommands, rfl, ?_⟩⟩ <;> simp

/-- A send never gets the reply to another command. Whenever a send has returned a reply, its command has
been posted once, and the reply is the one and only that the worker has written for it; and once a send
has failed, no later send returns a reply. -/
theorem reply_of_send {config : StreamConfig} {debug : DebugParameters} {notifies : Bool}
    {t : Transport} (ht : Transport.configure config debug notifies = .ok t) (direction : Direction)
    (cookie : Int32) (microphones : List (Device × String))
    (hσ : ReflTransGen Step { stream := Stream.opened direction t cookie microphones } σ) :
    (∀ (n : Nat) (r : Reply), σ.client.results[n]? = some (.ok r) → ∃ (j : Nat) (c : Command),
      σ.client.asked[n]? = some c ∧ σ.log.posted[j]? = some (some n, c) ∧
      (∀ (i : Nat) (d : Command), σ.log.posted[i]? = some (some n, d) → i = j) ∧
      ⟨j, c, r⟩ ∈ σ.log.answered ∧ ∀ a ∈ σ.log.answered, a.index = j → a = ⟨j, c, r⟩) ∧
    (∀ (i j : Nat) (e : QueueError) (r : Reply), i < j → σ.client.results[i]? = some (.error e) →
      σ.client.results[j]? ≠ some (.ok r)) := by
  have inv := inv_of_reaches
    (inv_opened (Transport.isFresh_of_configure ht) direction cookie microphones) hσ
  refine ⟨?_, ?_⟩
  · intro n r hr
    obtain ⟨c, hposted, hanswered⟩ := inv.client.taken n r hr
    refine ⟨n, c, inv.client.mine n n c hposted, hposted, ?_, List.mem_of_getElem? hanswered, ?_⟩
    · exact fun i d hi => inv.client.once i n n d c hi hposted
    · intro a ha hindex
      obtain ⟨i, hi⟩ := List.getElem?_of_mem ha
      obtain ⟨hai, -, -⟩ := inv.fits.answered i a hi
      obtain rfl : i = n := hai.symm.trans hindex
      exact Option.some.inj (hi.symm.trans hanswered)
  · intro i j e r hij he hr
    exact Nat.lt_asymm hij (inv.client.order i j e r he hr)

/-- A send that is answered, and one without any patience. -/
theorem reply_of_send_impatient :
    Transport.configure { bufferFrames := 256 } {} false = .ok .small ∧
    ∃ σ, ReflTransGen Step { stream := Stream.opened .output .small 7 [] } σ ∧
      (∃ r, σ.client.results = [.ok r, .error .timeout] ∧ r.status = .ok) ∧
      ∃ (r : Reply) (j : Nat) (c : Command), σ.client.asked[0]? = some c ∧
        ⟨j, c, r⟩ ∈ σ.log.answered := by
  have start : ReflTransGen Step { stream := Stream.opened .output .small 7 [] }
      { stream := Stream.opened .output .small 7 [] } := .refl
  have posted := (start.tail (.ask .getStatus 5 rfl)).tail (.send 0 rfl rfl)
  have waiting := (posted.tail (.work (.step ⟨0, fun _ => none⟩ rfl))).tail
    (.work (.step ⟨0, fun _ => none⟩ rfl))
  have holding := waiting.tail (.work (.step ⟨0, fun _ => none⟩ rfl))
  have answered := (holding.tail (.work (.step ⟨0, fun _ => none⟩ rfl))).tail
    (.work (.step ⟨0, fun _ => none⟩ rfl))
  have taken := answered.tail (.send 0 rfl rfl)
  have expired := ((taken.tail (.ask .start 0 rfl)).tail (.send 0 rfl rfl)).tail (.send 0 rfl rfl)
  have failed := expired.tail (.send 0 rfl rfl)
  obtain ⟨j, c, hasked, -, -, hanswered, -⟩ :=
    (reply_of_send Transport.configure_small .output 7 [] failed).1 0 _ rfl
  exact ⟨Transport.configure_small, _, failed, ⟨_, rfl, rfl⟩, _, j, c, hasked, hanswered⟩

end Talk

end AudioStream
