import AudioStream.Proofs.Stream.Calls
import AudioStream.Proofs.Stream.Dismissal
import AudioStream.Proofs.Stream.Working
import AudioStream.Proofs.Transport
import Mathlib.Logic.Relation

/-!
# Closing a stream

Any number of threads may close a stream while its client writes commands, takes replies and shuts
queues down. The one who comes first leads, and all others are refused. In every state that can be
reached, a closer or the worker can go on as long as some closer has not returned.

The main statement is `Closing.progress_and_winner`.
-/

open Relation

namespace AudioStream

/-- A stream, and all those who have begun to close it, in the order in which they came. -/
structure Closing where
  stream : Stream
  closers : List CloseStage := []

namespace Closing

/-- One step of anyone. Only those who close the stream know the cookie of its exit command. -/
inductive Step : Closing → Closing → Prop where
  | work {s s' : Stream} {closers : List CloseStage} (h : s.Works s') : Step ⟨s, closers⟩ ⟨s', closers⟩
  | stir {s s' : Stream} {closers : List CloseStage} (h : s.Stirs s') : Step ⟨s, closers⟩ ⟨s', closers⟩
  | command {s s' : Stream} {closers : List CloseStage} {command : Command}
      (other : command ≠ .exit s.setup.cookie) (h : s.writeCommand command = .done s') :
      Step ⟨s, closers⟩ ⟨s', closers⟩
  | readReply {s s' : Stream} {closers : List CloseStage} {reply : Reply}
      (h : s.readReply = .done (reply, s')) : Step ⟨s, closers⟩ ⟨s', closers⟩
  | tryReadReply {s : Stream} {closers : List CloseStage} :
      Step ⟨s, closers⟩ ⟨s.tryReadReply.2, closers⟩
  | shutdown {s : Stream} {closers : List CloseStage} (channel : Channel) :
      Step ⟨s, closers⟩ ⟨s.shutdown channel, closers⟩
  | arrive {s : Stream} {closers : List CloseStage} : Step ⟨s, closers⟩ ⟨s, closers ++ [.arriving]⟩
  | close {s s' : Stream} {closers : List CloseStage} {i : Nat} {c c' : CloseStage}
      (place : closers[i]? = some c) (h : s.closeStep c = some (c', s')) :
      Step ⟨s, closers⟩ ⟨s', closers.set i c'⟩

structure Inv (k : Skeleton) (closers : List CloseStage) : Prop where
  allows : ∀ c ∈ closers, k.Allows c
  /-- At most one closer leads. -/
  unique : ∀ (i j : Nat) (c d : CloseStage), closers[i]? = some c → closers[j]? = some d →
    c.leads = true → d.leads = true → i = j
  quiet : k.Quiet ∨ ∃ c ∈ closers, c.hasDismissed = true

variable {k k' : Skeleton} {closers : List CloseStage} {σ τ : Closing}

theorem Inv.grow (inv : Inv k closers) (grows : k.Grows k') (quiet : k.Quiet → k'.Quiet) :
    Inv k' closers where
  allows c hc := (inv.allows c hc).grow grows
  unique := inv.unique
  quiet := inv.quiet.imp_left quiet

theorem Inv.arrive (inv : Inv k closers) : Inv k (closers ++ [.arriving]) where
  allows c hc := by
    rcases List.mem_append.mp hc with hc | hc
    · exact inv.allows c hc
    · rw [List.mem_singleton.mp hc]
      trivial
  unique i j c d hi hj hc hd := by
    -- Someone who arrives does not lead, so both places are those of earlier closers.
    have hold {i : Nat} {c : CloseStage} (hi : (closers ++ [.arriving])[i]? = some c)
        (hc : c.leads = true) : closers[i]? = some c := by
      rcases of_getElem?_append hi with hi | ⟨-, rfl⟩
      · exact hi
      · cases hc
    exact inv.unique i j c d (hold hi hc) (hold hj hd) hc hd
  quiet := by
    rcases inv.quiet with h | ⟨c, hc, h⟩
    · exact .inl h
    · exact .inr ⟨c, List.mem_append_left _ hc, h⟩

theorem Inv.close (inv : Inv k closers) {i : Nat} {c c' : CloseStage} (place : closers[i]? = some c)
    (h : Skeleton.Closes c k c' k') : Inv k' (closers.set i c') := by
  have hc : c ∈ closers := List.mem_of_getElem? place
  have hplace : (closers.set i c')[i]? = some c' := by
    rw [List.getElem?_set_self (List.getElem?_eq_some_iff.mp place).1]
  have hother {j : Nat} (hj : j ≠ i) : (closers.set i c')[j]? = closers[j]? :=
    List.getElem?_set_ne hj.symm
  -- The closer that moves leads only if no other closer does.
  have hlead {j : Nat} {d : CloseStage} (hj : closers[j]? = some d) (hd : d.leads = true)
      (hc' : c'.leads = true) : j = i := by
    rcases h.leads hc' with hleads | hfree
    · exact inv.unique j i d c hj place hd hleads
    · have htaken := Skeleton.taken_of_leads (inv.allows d (List.mem_of_getElem? hj)) hd
      simp [hfree] at htaken
  refine ⟨?_, ?_, ?_⟩
  · intro d hd
    rcases List.mem_or_eq_of_mem_set hd with hd | rfl
    · exact (inv.allows d hd).grow h.grows
    · exact h.allows (inv.allows c hc)
  · intro j l d e hj hl hd he
    by_cases hji : j = i
    · subst hji
      by_cases hli : l = j
      · exact hli.symm
      · rw [hplace] at hj
        cases hj
        exact (hlead (hother hli ▸ hl) he hd).symm
    · by_cases hli : l = i
      · subst hli
        rw [hplace] at hl
        cases hl
        exact hlead (hother hji ▸ hj) hd he
      · exact inv.unique j l d e (hother hji ▸ hj) (hother hli ▸ hl) hd he
  · rcases inv.quiet with hquiet | ⟨d, hd, hdismissed⟩
    · exact (h.quiet hquiet).imp_right fun hc' => ⟨c', List.mem_of_getElem? hplace, hc'⟩
    · right
      obtain ⟨j, hj⟩ := List.getElem?_of_mem hd
      by_cases hji : j = i
      · subst hji
        obtain rfl : c = d := Option.some.inj (place.symm.trans hj)
        exact ⟨c', List.mem_of_getElem? hplace, h.hasDismissed hdismissed⟩
      · exact ⟨d, List.mem_of_getElem? ((hother hji).trans hj), hdismissed⟩

theorem step_grows (h : Step σ τ) : σ.stream.skeleton.Grows τ.stream.skeleton := by
  cases h with
  | work h => exact h.skeleton.grows
  | stir h => exact Stream.Outside.grows (.stir h)
  | command other h => exact Stream.Outside.grows (.writeCommand _ h)
  | readReply h => exact Stream.Outside.grows (.readReply h)
  | tryReadReply => exact Stream.Outside.grows .tryReadReply
  | shutdown channel => exact Stream.Outside.grows (.shutdown channel)
  | arrive => exact .refl _
  | close place h => exact Stream.Outside.grows (.close h)

theorem inv_step (inv : Inv σ.stream.skeleton σ.closers) (h : Step σ τ) :
    Inv τ.stream.skeleton τ.closers := by
  have hgrows := step_grows h
  cases h with
  | work h => exact inv.grow hgrows h.skeleton.quiet
  | stir h => exact inv.grow hgrows fun quiet => by rwa [h.skeleton]
  | command other h =>
    obtain ⟨queue, hwrite, hs'⟩ := Stream.skeleton_of_writeCommand h
    refine inv.grow hgrows fun quiet => ?_
    rw [hs']
    exact Skeleton.quiet_of_writeCommand other hwrite quiet
  | readReply h =>
    obtain ⟨queue, -, hs'⟩ := Stream.skeleton_of_readReply h
    refine inv.grow hgrows fun quiet => ?_
    rw [hs']
    exact Skeleton.quiet_of_replies queue quiet
  | tryReadReply => exact inv.grow hgrows (Skeleton.quiet_of_replies _)
  | shutdown channel =>
    cases channel with
    | command => exact inv.grow hgrows Skeleton.quiet_of_shutdownCommands
    | reply => exact inv.grow hgrows (Skeleton.quiet_of_replies _)
  | arrive => exact inv.arrive
  | close place h => exact inv.close place (Stream.skeleton_closeStep h)

theorem inv_of_reaches (inv : Inv σ.stream.skeleton σ.closers) (h : ReflTransGen Step σ τ) :
    Inv τ.stream.skeleton τ.closers := by
  induction h with
  | refl => exact inv
  | tail _ hstep ih => exact inv_step ih hstep

theorem inv_opened {t : Transport} (ht : t.commands.items = []) (direction : Direction)
    (cookie : Int32) (microphones : List (Device × String)) :
    Inv (Stream.opened direction t cookie microphones).skeleton [] where
  allows c hc := by simp at hc
  unique i j c d hi := by simp at hi
  quiet := by
    refine .inl ⟨?_, ?_, ?_, ?_, ?_⟩ <;> simp [Stream.skeleton, Stream.opened, ht, Stage.duty]

/-- A closer that has not returned can go on, or the worker can. -/
theorem Inv.progress {s : Stream} (inv : Inv s.skeleton closers) {c : CloseStage} (hc : c ∈ closers)
    (waits : ∀ result, c ≠ .done result) (m : Moment) :
    s.CanGoOn m ∨ (s.closeStep c).isSome := by
  have hallows := inv.allows c hc
  rcases s.closeStep_isSome_or c with hsome | ⟨rfl, hvalid, hfull⟩ | ⟨rfl, hduty⟩ | ⟨result, hdone⟩
  · exact .inr hsome
  · -- The exit command does not fit, so there is a command that the worker can take.
    left
    rcases s.canGoOn_or m with hm | ⟨-, -, hempty⟩ | ⟨hmute, -⟩ | hstopped
    · exact hm
    · exact absurd hempty hfull
    · simp [hallows.2] at hmute
    · rcases inv.quiet with hquiet | ⟨d, hd, hdismissed⟩
      · simp [hquiet.stopped hstopped] at hvalid
      · -- Nobody else leads, so nobody can have dismissed the worker.
        obtain ⟨i, hi⟩ := List.getElem?_of_mem hc
        obtain ⟨j, hj⟩ := List.getElem?_of_mem hd
        obtain rfl := inv.unique i j _ d hi hj rfl (CloseStage.leads_of_hasDismissed hdismissed)
        obtain rfl : CloseStage.dismissing = d := Option.some.inj (hi.symm.trans hj)
        cases hdismissed
  · -- The worker has heard of the exit command, or will.
    left
    rcases s.canGoOn_or m with hm | ⟨hlisten, hvalid, hempty⟩ | ⟨hmute, -⟩ | hstopped
    · exact hm
    · rcases hallows.2.2 with h | h | h | h | h
      · simp [hvalid] at h
      · simp [hempty] at h
      all_goals simp [hlisten] at h
    · simp [hallows.2.1] at hmute
    · exact absurd hstopped hduty
  · exact absurd hdone (waits result)

/-- The places of those who come too late. -/
def IsLate (c : CloseStage) : Prop :=
  c = .arriving ∨ c = .refused ∨ c = .done (.error .alreadyClosed)

theorem isLate_of_closes {c c' : CloseStage} (h : Skeleton.Closes c k c' k')
    (taken : k.taken = true) (released : k.released = true) (hc : IsLate c) : IsLate c' := by
  cases h with
  | come free => simp [taken] at free
  | late => exact .inr (.inl rfl)
  | refuse =>
    rw [released]
    exact .inr (.inr rfl)
  | _ => simp [IsLate] at hc

theorem isLate_step {n : Nat} (h : Step σ τ) (taken : σ.stream.taken = true)
    (released : σ.stream.released = true)
    (late : ∀ (i : Nat) (c : CloseStage), n ≤ i → σ.closers[i]? = some c → IsLate c)
    (i : Nat) (c : CloseStage) (hi : n ≤ i) (hc : τ.closers[i]? = some c) : IsLate c := by
  cases h with
  | @arrive s closers =>
    rcases of_getElem?_append hc with hc | ⟨-, rfl⟩
    · exact late i c hi hc
    · exact .inl rfl
  | @close s s' closers j d d' place h =>
    by_cases hij : j = i
    · subst hij
      rw [List.getElem?_set_self (List.getElem?_eq_some_iff.mp place).1] at hc
      cases hc
      exact isLate_of_closes (Stream.skeleton_closeStep h) taken released (late j d hi place)
    · rw [List.getElem?_set_ne hij] at hc
      exact late i c hi hc
  | _ => exact late i c hi hc

/-- Those who come after a closer has returned in success are too late. -/
theorem isLate_of_reaches (h : ReflTransGen Step σ τ) (taken : σ.stream.taken = true)
    (released : σ.stream.released = true) :
    τ.stream.taken = true ∧ τ.stream.released = true ∧
      ∀ (i : Nat) (c : CloseStage), σ.closers.length ≤ i → τ.closers[i]? = some c → IsLate c := by
  induction h with
  | refl =>
    refine ⟨taken, released, fun i c hi hc => ?_⟩
    rw [List.getElem?_eq_none hi] at hc
    cases hc
  | tail _ hstep ih =>
    obtain ⟨htaken, hreleased, hlate⟩ := ih
    have hgrows := step_grows hstep
    exact ⟨hgrows.taken htaken, hgrows.released hreleased,
      isLate_step hstep htaken hreleased hlate⟩

theorem stage_eq_stopped {stage : Stage} (h : stage.duty = .stopped) : stage = .stopped := by
  cases stage with
  | stopped => rfl
  | _ => cases h

/-- Closing never comes to a standstill and has one winner. In every state that can be reached, a closer
that has not returned can go on, or the worker can; at most one closer returns in success, and all
others are told that the stream is closed or being closed; after a success the worker has stopped, the
stream is marked as closed and both queues are shut down, and everyone who comes later is told that the
stream is closed. -/
theorem progress_and_winner {config : StreamConfig} {debug : DebugParameters} {notifies : Bool}
    {t : Transport} (ht : Transport.configure config debug notifies = .ok t) (direction : Direction)
    (cookie : Int32) (microphones : List (Device × String))
    (hσ : ReflTransGen Step ⟨Stream.opened direction t cookie microphones, []⟩ σ) :
    (∀ c ∈ σ.closers, (∀ result, c ≠ .done result) →
      ∀ m : Moment, σ.stream.CanGoOn m ∨ (σ.stream.closeStep c).isSome) ∧
    (∀ i j : Nat, σ.closers[i]? = some (.done (.ok ())) → σ.closers[j]? = some (.done (.ok ())) →
      i = j) ∧
    (∀ e : StreamError, .done (.error e) ∈ σ.closers →
      (e = .alreadyClosed ∨ e = .closing) ∧ (Error.stream e).isIllegalState = true) ∧
    (.done (.ok ()) ∈ σ.closers → σ.stream.stage = .stopped ∧ σ.stream.closed = true ∧
      σ.stream.transport.commands.isShutDown = true ∧
      σ.stream.transport.replies.isShutDown = true) ∧
    (.done (.ok ()) ∈ σ.closers → ∀ τ, ReflTransGen Step σ τ →
      ∀ (i : Nat) (result : Except StreamError Unit), σ.closers.length ≤ i →
        τ.closers[i]? = some (.done result) → result = .error .alreadyClosed) := by
  have hempty : t.commands.items = [] := by
    rw [(Transport.isFresh_of_configure ht).commands_eq]
    rfl
  have inv := inv_of_reaches (inv_opened hempty direction cookie microphones) hσ
  refine ⟨?_, ?_, ?_, ?_, ?_⟩
  · exact fun c hc waits m => inv.progress hc waits m
  · exact fun i j hi hj => inv.unique i j _ _ hi hj rfl rfl
  · intro e he
    have h : e = .alreadyClosed ∨ e = .closing := inv.allows _ he
    refine ⟨h, ?_⟩
    rcases h with rfl | rfl <;> rfl
  · intro hdone
    obtain ⟨-, hreplies, hduty, hcommands, hclosed, -⟩ := inv.allows _ hdone
    exact ⟨stage_eq_stopped hduty, hclosed, hcommands, hreplies⟩
  · intro hdone τ hτ i result hi hresult
    obtain ⟨htaken, -, -, -, -, hreleased⟩ := inv.allows _ hdone
    obtain ⟨-, -, hlate⟩ := isLate_of_reaches hτ htaken hreleased
    rcases hlate i _ hi hresult with h | h | h
    · cases h
    · cases h
    · exact CloseStage.done.inj h

/-- A lone closer, and a worker that has not begun its first cycle. -/
theorem progress_and_winner_loneCloser :
    Transport.configure { bufferFrames := 256 } {} false = .ok .small ∧
    ∃ σ, ReflTransGen Step ⟨Stream.opened .output .small 7 [], []⟩ σ ∧
      .done (.ok ()) ∈ σ.closers ∧ σ.stream.stage = .stopped ∧ σ.stream.closed = true := by
  have start : ReflTransGen Step ⟨Stream.opened .output .small 7 [], []⟩
      ⟨Stream.opened .output .small 7 [], []⟩ := .refl
  have taken := (start.tail .arrive).tail (.close (i := 0) rfl rfl)
  have dismissed := (taken.tail (.close (i := 0) rfl rfl)).tail (.close (i := 0) rfl rfl)
  -- Only now does the worker begin its cycle.
  have listening := (dismissed.tail (.work (.step ⟨0, fun _ => none⟩ rfl))).tail
    (.work (.step ⟨0, fun _ => none⟩ rfl))
  have leaving := (listening.tail (.work (.step ⟨0, fun _ => none⟩ rfl))).tail
    (.work (.step ⟨0, fun _ => none⟩ rfl))
  have stopped := leaving.tail (.work (.step ⟨0, fun _ => none⟩ rfl))
  have joined := stopped.tail (.close (i := 0) rfl rfl)
  have reset := (joined.tail (.close (i := 0) rfl rfl)).tail (.close (i := 0) rfl rfl)
  have released := (reset.tail (.close (i := 0) rfl rfl)).tail (.close (i := 0) rfl rfl)
  have h := (progress_and_winner Transport.configure_small .output 7 [] released).2.2.2.1
    (List.mem_singleton.mpr rfl)
  exact ⟨Transport.configure_small, _, released, List.mem_singleton.mpr rfl, h.1, h.2.1⟩

end Closing

end AudioStream
