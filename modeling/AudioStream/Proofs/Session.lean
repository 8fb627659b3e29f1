import AudioStream.Proofs.Stream.Cycles
import AudioStream.Proofs.Stream.Taken
import AudioStream.Session.Action

/-!
# Sessions as schedules

Whatever a client does in a session, and whatever the worker does meanwhile, comes down to steps of the stream:
the worker goes on, the driver ends a call, and the client does its part, one thing after another, with the
clock never going back. So a chronicle of the stream can be kept through all of a session, and what holds of all
chronicles holds of all sessions.

The main statements are `Session.leads_perform`, `Session.exists_follow_of_start` and
`Session.cycles_of_start`.
-/

open Relation

namespace AudioStream

namespace Chronicle

variable {σ : Chronicle} {d : Deed}

theorem clock_noteAccess (σ : Chronicle) (access : Access) (bytes : List UInt8) :
    (σ.noteAccess access bytes).clock = σ.clock := by
  unfold noteAccess
  dsimp only
  split
  · rfl
  · split <;> rfl

/-- Only the worker has a clock. -/
theorem clock_note (hd : d.isWork = false) (b : Stream) : (σ.note d b).clock = σ.clock := by
  cases d with
  | work | endControl | endTransfer => cases hd
  | writeData | readData => exact σ.clock_noteAccess _ _
  | _ => rfl

theorem timely_of_not_isWork (hd : d.isWork = false) (σ : Chronicle) : σ.Timely d := by
  cases d with
  | work | endControl | endTransfer => cases hd
  | _ => trivial

end Chronicle

namespace Session

/-- A chronicle tells of the stream of a session up to the present. While the worker does without a device, it
has been at it for as long as it takes by the time that it is busy until. -/
structure ToldBy (s : Session) (σ : Chronicle) : Prop where
  stream : σ.stream = s.stream
  clock : σ.clock ≤ s.now
  silence : ∀ ends, s.busy = some (ends, .silence) → σ.clock + s.stream.setup.silenceTime ≤ ends

/-- What happens from one session to another are steps of the stream. -/
def Leads (a b : Session) : Prop :=
  ∀ σ, a.ToldBy σ → ∃ τ, ReflTransGen Chronicle.Step σ τ ∧ b.ToldBy τ

variable {a b c s : Session}

theorem Leads.refl (a : Session) : a.Leads a := fun σ h => ⟨σ, .refl, h⟩

theorem Leads.trans (h : a.Leads b) (h' : b.Leads c) : a.Leads c := by
  intro σ hσ
  obtain ⟨τ, hστ, hτ⟩ := h σ hσ
  obtain ⟨υ, hτυ, hυ⟩ := h' τ hτ
  exact ⟨υ, hστ.trans hτυ, hυ⟩

theorem Leads.snd {α : Type} {r : α × Session} {x : α} (h : a.Leads r.2) (hr : r = (x, b)) : a.Leads b := by
  rw [hr] at h
  exact h

/-! ## Single steps -/

/-- Nothing happens to the stream, and the clock does not go back. -/
theorem leads_of_stream_eq (stream : b.stream = a.stream) (now : a.now ≤ b.now)
    (busy : ∀ ends, b.busy = some (ends, .silence) → a.busy = some (ends, .silence)) : a.Leads b :=
  fun σ h => ⟨σ, .refl, h.stream.trans stream.symm, Nat.le_trans h.clock now,
    fun ends hb => stream ▸ h.silence ends (busy ends hb)⟩

/-- The worker goes on, and is busy with nothing afterwards. -/
theorem leads_of_work {d : Deed} (h : a.stream.perform d = some b.stream)
    (timely : ∀ σ, a.ToldBy σ → σ.Timely d) (hclock : ∀ σ, (Chronicle.note σ d b.stream).clock = a.now)
    (now : b.now = a.now) (busy : b.busy = none) : a.Leads b := by
  intro σ hσ
  refine ⟨σ.note d b.stream, .single (.deed d (hσ.stream ▸ h) (timely σ hσ)), σ.stream_note d b.stream, ?_,
    fun ends hb => ?_⟩
  · exact Nat.le_of_eq ((hclock σ).trans now.symm)
  · rw [busy] at hb
    cases hb

/-- Someone else does something to the stream. -/
theorem leads_of_outside {stream : Stream} (h : a.stream.Outside stream) : a.Leads (a.withStream stream) := by
  intro σ hσ
  obtain ⟨d, hd, hperform⟩ := Stream.perform_of_outside h
  have hclock := Chronicle.clock_note (σ := σ) hd stream
  refine ⟨σ.note d stream, .single (.deed d (hσ.stream ▸ hperform) (Chronicle.timely_of_not_isWork hd σ)),
    σ.stream_note d stream, ?_, fun ends hb => ?_⟩
  · rw [hclock]
    exact hσ.clock
  · have hsilence := hσ.silence ends hb
    rw [hclock, withStream, h.leaves.setup]
    exact hsilence

/-- The client gets to the oldest notices. -/
theorem leads_of_drop (a : Session) (count : Nat) :
    a.Leads (a.withStream { a.stream with notices := a.stream.notices.drop count }) := by
  intro σ hσ
  refine ⟨_, .single (.takeNotices count), ?_, hσ.clock, hσ.silence⟩
  rw [hσ.stream]
  rfl

/-! ## The worker -/

theorem leads_placeCall (s : Session) (call : DriverCall) : s.Leads (s.placeCall call) := by
  cases call <;> exact leads_of_stream_eq rfl (Nat.le_refl _) nofun

/-- What a driver does with the stream in a transfer are deeds of others. -/
theorem leads_use (s : Session) (use : DriverUse) : s.Leads (s.withStream (s.stream.use use)) := by
  cases use with
  | inject bytes =>
    rw [Stream.use]
    cases hwrite : s.stream.writeData bytes with
    | none => exact .refl s
    | some stream => exact leads_of_outside (.stir (.writeData hwrite))
  | connect devices =>
    exact (leads_of_outside (.stir (.setConnected (!devices.isEmpty)))).trans
      (leads_of_outside (a := s.withStream (s.stream.setConnected !devices.isEmpty))
        (.stir (.setDevices devices)))

theorem leads_uses (s : Session) (uses : List DriverUse) :
    s.Leads (s.withStream (uses.foldl Stream.use s.stream)) := by
  induction uses generalizing s with
  | nil => exact .refl s
  | cons use uses ih => exact (s.leads_use use).trans (ih (s.withStream (s.stream.use use)))

/-- The worker's business is over when its time has come. -/
theorem leads_conclude {ends : Nat} {pursuit : Pursuit} (busy : s.busy = some (ends, pursuit))
    (due : ends ≤ s.now) : s.Leads (s.conclude pursuit) := by
  cases pursuit with
  | control result =>
    rw [conclude]
    cases hanswer : s.stream.answerControl s.moment result with
    | none => exact leads_of_stream_eq rfl (Nat.le_refl _) nofun
    | some stream =>
      exact leads_of_work (d := .endControl s.moment result) hanswer (fun σ hσ => hσ.clock) (fun σ => rfl) rfl rfl
  | transfer answer uses =>
    rw [conclude]
    cases hanswer : (uses.foldl Stream.use s.stream).answerTransfer s.moment answer with
    | none => exact leads_of_stream_eq rfl (Nat.le_refl _) nofun
    | some stream =>
      exact (s.leads_uses uses).trans (leads_of_work (d := .endTransfer s.moment answer) hanswer
        (fun σ hσ => hσ.clock) (fun σ => rfl) rfl rfl)
  | silence =>
    rw [conclude]
    cases hstep : s.stream.step s.moment with
    | none => exact leads_of_stream_eq rfl (Nat.le_refl _) nofun
    | some stream =>
      refine leads_of_work (d := .work s.moment) hstep (fun σ hσ => ⟨hσ.clock, fun _ => ?_⟩) (fun σ => rfl) rfl rfl
      rw [hσ.stream]
      exact Nat.le_trans (hσ.silence ends busy) due

/-- What the worker does next at the present moment is at most a few steps of the stream. -/
theorem leads_work (h : a.work = some b) : a.Leads b := by
  unfold work at h
  split at h
  next ends pursuit busy =>
    split at h <;> cases h
    next hdue => exact leads_conclude busy hdue.1
  next idle =>
    split at h
    next call hcall =>
      cases h
      exact a.leads_placeCall call
    next =>
      split at h
      next =>
        cases h
        exact fun σ hσ => ⟨σ, .refl, hσ.stream, hσ.clock, by
          rintro ends ⟨⟩
          exact Nat.add_le_add_right hσ.clock _⟩
      next silent =>
        obtain ⟨stream, hstep, rfl⟩ := Option.map_eq_some_iff.mp h
        refine leads_of_work (d := .work a.moment) hstep (fun σ hσ => ⟨hσ.clock, fun hsilent => ?_⟩)
          (fun σ => rfl) rfl idle
        rw [hσ.stream] at hsilent
        exact absurd hsilent silent

theorem leads_workFor (n : Nat) (s : Session) : s.Leads (workFor n s) := by
  induction n generalizing s with
  | zero => exact .refl s
  | succ n ih =>
    rw [workFor]
    split
    next after hwork => exact (leads_work hwork).trans (ih after)
    next => exact .refl s

theorem leads_settle (s : Session) : s.Leads s.settle := leads_workFor stepLimit s

/-! ## Waiting -/

theorem leads_passTo (s : Session) (time : Nat) : s.Leads (s.passTo time) :=
  leads_of_stream_eq rfl (Nat.le_max_left _ _) fun _ h => h

/-- A wait consists of steps if its attempts do. -/
theorem leads_await {α : Type} (deadline : Option Nat) (attempt : Session → Option (α × Session))
    (hattempt : ∀ s a after, attempt s = some (a, after) → s.Leads after) (n : Nat) (s : Session) :
    s.Leads (s.await deadline attempt n).2 := by
  induction n generalizing s with
  | zero => exact .refl s
  | succ n ih =>
    rw [await]
    -- The attempt is made at once, after the worker has gone on, and once more when the wait is over.
    split
    next a after hdone => exact hattempt s a after hdone
    next =>
      dsimp only
      split
      next a after hdone => exact s.leads_settle.trans (hattempt _ a after hdone)
      next =>
        split
        next time _ => exact (s.leads_settle.trans (leads_passTo _ time)).trans (ih _)
        next limit _ =>
          have hlimit : s.Leads (s.settle.passTo limit).settle :=
            (s.leads_settle.trans (leads_passTo _ limit)).trans (leads_settle _)
          split
          next a after hdone => exact hlimit.trans (hattempt _ a after hdone)
          next => exact hlimit
        next => exact s.leads_settle

theorem leads_awaitFor {α : Type} (patience : Nat) (attempt : Session → Option (α × Session))
    (hattempt : ∀ s a after, attempt s = some (a, after) → s.Leads after) (s : Session) :
    s.Leads (s.awaitFor patience attempt).2 :=
  leads_await _ attempt hattempt eventLimit s

theorem leads_sleep (s : Session) (time : Nat) : s.Leads (s.sleep time) := by
  unfold sleep
  exact leads_awaitFor time _ (fun _ _ _ h => by cases h) s

theorem leads_quiesce (s : Session) : s.Leads s.quiesce := by
  unfold quiesce
  refine leads_await none _ (fun s a after h => ?_) eventLimit s
  split at h
  next =>
    dsimp only at h
    split at h <;> cases h
    exact s.leads_settle
  next => cases h

/-! ## Sending and closing -/

theorem leads_awaitSend (stage : SendStage) (s : Session) : s.Leads (s.awaitSend stage).2 := by
  refine leads_await (sendDeadline stage) _ (fun s stage' after h => ?_) eventLimit s
  obtain ⟨⟨_, stream⟩, hstep, heq⟩ := Option.map_eq_some_iff.mp h
  cases heq
  cases stage with
  | writing command patience =>
    simp only [Stream.sendStep] at hstep
    split at hstep <;> cases hstep
    next hwrite => exact leads_of_outside (.writeCommand command hwrite)
    next => exact .refl s
  | awaiting deadline =>
    simp only [Stream.sendStep] at hstep
    split at hstep
    next hread =>
      cases hstep
      exact leads_of_outside (.readReply hread)
    next =>
      cases hstep
      exact .refl s
    next =>
      split at hstep <;> cases hstep
      exact .refl s
  | givingUp =>
    cases hstep
    exact leads_of_outside (.shutdown .reply)
  | done result => cases hstep

theorem leads_sendFrom (n : Nat) (stage : SendStage) (s : Session) : s.Leads (sendFrom n stage s).2 := by
  fun_induction sendFrom n stage s with
  | case1 stage s => exact .refl s
  | case2 n s result => exact .refl s
  | case3 n s stage _ stage' after hdone ih => exact ((leads_awaitSend stage s).snd hdone).trans ih
  | case4 n s stage _ after hdone => exact (leads_awaitSend stage s).snd hdone

theorem leads_awaitClose (stage : CloseStage) (s : Session) : s.Leads (s.awaitClose stage).2 := by
  refine leads_await none _ (fun s stage' after h => ?_) eventLimit s
  obtain ⟨⟨_, stream⟩, hstep, heq⟩ := Option.map_eq_some_iff.mp h
  cases heq
  exact leads_of_outside (.close hstep)

theorem leads_closeFrom (n : Nat) (stage : CloseStage) (s : Session) :
    s.Leads (closeFrom n stage s).2 := by
  fun_induction closeFrom n stage s with
  | case1 stage s => exact .refl s
  | case2 n s result => exact .refl s
  | case3 n s stage _ stage' after hdone ih => exact ((leads_awaitClose stage s).snd hdone).trans ih
  | case4 n s stage _ after hdone => exact (leads_awaitClose stage s).snd hdone

theorem leads_close (s : Session) : s.Leads s.close.2 := leads_closeFrom closeLimit .arriving s

theorem leads_closeAhead (n : Nat) (stage : CloseStage) (s : Session) :
    s.Leads (closeAhead n stage s).2 := by
  induction n generalizing stage s with
  | zero => exact .refl s
  | succ n ih =>
    unfold closeAhead
    split
    next stage' stream hstep =>
      exact (leads_of_outside (.close hstep)).trans (ih stage' (s.withStream stream))
    next => exact .refl s

/-! ## Actions -/

/-- What a session has on record of the calls, and what it knows of the replies, is not part of the stream. -/
theorem leads_of_records (s : Session) (calls : List CallRecord) (unread : Nat) (dropped held : Bool) :
    s.Leads { s with calls, unread, dropped, held } :=
  leads_of_stream_eq rfl (Nat.le_refl _) fun _ hb => hb

theorem leads_showCalls (s : Session) : s.Leads s.showCalls.2 := by
  unfold showCalls
  split
  · exact s.leads_of_records _ _ _ _
  · exact .refl s

theorem leads_replied (s : Session) (reply : Reply) : s.Leads (s.replied reply).2 := s.leads_showCalls

theorem leads_performSend (s : Session) (command : Command) (patience : Nat) :
    s.Leads (s.performSend command patience).2 := by
  have hsend := leads_sendFrom 5 (.writing command (patience * millisecond)) s
  unfold performSend send
  split
  next reply after hdone => exact ((hsend.snd hdone).trans after.leads_quiesce).trans (leads_replied _ reply)
  next e after hdone => exact (hsend.snd hdone).trans after.leads_settle
  next => exact .refl s

theorem leads_performPost (s : Session) (command : Command) : s.Leads (s.performPost command).2 := by
  unfold performPost
  extract_lets attempt
  have hwait := leads_await none attempt (fun s a after h => by
    simp only [attempt] at h
    split at h <;> cases h
    next hwrite => exact leads_of_outside (.writeCommand command hwrite)
    next => exact .refl s) eventLimit s
  split
  next after hdone =>
    have hcount := after.leads_of_records after.calls (after.unread + 1) after.dropped after.held
    exact (((hwait.snd hdone).trans hcount).trans (leads_quiesce _)).trans (leads_showCalls _)
  next e after hdone => exact hwait.snd hdone
  next => exact .refl s

theorem leads_performReadReply (s : Session) (patience : Nat) :
    s.Leads (s.performReadReply patience).2 := by
  unfold performReadReply
  extract_lets attempt
  have hwait := leads_awaitFor (patience * millisecond) attempt (fun s a after h => by
    simp only [attempt] at h
    split at h <;> cases h
    next hread => exact leads_of_outside (.readReply hread)
    next => exact .refl s) s
  split
  next reply after hdone =>
    have hcount := after.leads_of_records after.calls (after.unread - 1) after.dropped after.held
    exact (((hwait.snd hdone).trans hcount).trans (leads_quiesce _)).trans (leads_replied _ reply)
  next e after hdone => exact hwait.snd hdone
  next after hdone => exact hwait.snd hdone

theorem leads_performTryReadReply (s : Session) : s.Leads s.performTryReadReply.2 := by
  unfold performTryReadReply
  split
  next reply stream hread =>
    have htaken : s.Leads (s.withStream s.stream.tryReadReply.2) := leads_of_outside .tryReadReply
    rw [hread] at htaken
    have hcount := (s.withStream stream).leads_of_records s.calls (s.unread - 1) s.dropped s.held
    exact ((htaken.trans hcount).trans (leads_quiesce _)).trans (leads_replied _ reply)
  next => exact .refl s

theorem leads_of_takeNotice {notice : Notice} (h : s.takeNotice = some (notice, b)) : s.Leads b := by
  unfold takeNotice at h
  split at h <;> cases h
  next hnotices =>
    have hdrop := s.leads_of_drop 1
    rw [hnotices] at hdrop
    exact hdrop

/-- The client sees one report after another until there are no more. -/
theorem leads_takeReports (s : Session) : s.Leads (s.withStream { s.stream with reports := [] }) := by
  generalize hreports : s.stream.reports = reports
  induction reports generalizing s with
  | nil => exact hreports ▸ .refl s
  | cons e reports ih =>
    have hsee : s.Leads (s.withStream { s.stream with reports }) := by
      have hcheck : s.Leads (s.withStream s.stream.checkErrors.2) := leads_of_outside (.stir .checkErrors)
      rwa [Stream.checkErrors, hreports] at hcheck
    exact hsee.trans (ih (s.withStream { s.stream with reports }) rfl)

theorem leads_performErrors (s : Session) (patience : Nat) (toRest : Bool) :
    s.Leads (s.performErrors patience toRest).2 := by
  unfold performErrors
  extract_lets arrived rested waited stream taken after
  have htaken : s.Leads taken :=
    (leads_awaitFor (patience * millisecond) arrived (fun s a b h => by
      simp only [arrived] at h
      split at h <;> cases h
      exact .refl s) s).trans waited.leads_takeReports
  simp only [after]
  split
  · exact htaken.trans (leads_awaitFor (restPatience * millisecond) rested (fun s a b h => by
      simp only [rested] at h
      split at h <;> cases h
      exact .refl s) taken)
  · exact htaken

theorem leads_performClose (s : Session) : s.Leads s.performClose.2 := by
  unfold performClose
  split
  next result after hdone =>
    exact ((s.leads_close.snd hdone).trans after.leads_settle).trans (leads_of_records _ _ _ _ _)
  next => exact .refl s

theorem leads_performCloseDuringBurst (s : Session) (bytes : Int32) :
    s.Leads (s.performCloseDuringBurst bytes).2 := by
  unfold performCloseDuringBurst
  split
  next => exact .refl s
  next => exact .refl s
  next stream hwrite =>
    extract_lets held
    have hheld : s.Leads held :=
      ((leads_of_outside (.writeCommand _ hwrite)).trans (leads_of_records _ _ _ _ _)).trans (leads_settle _)
    dsimp only
    have hahead := hheld.trans (leads_closeAhead closeLimit .arriving held)
    generalize closeAhead closeLimit .arriving held = ahead at hahead ⊢
    have hrefused := hahead.trans ahead.2.leads_close
    generalize ahead.2.close = refused at hrefused ⊢
    have hfreed := hrefused.trans
      (refused.2.leads_of_records refused.2.calls refused.2.unread refused.2.dropped false)
    have hclosed := hfreed.trans (leads_closeFrom closeLimit ahead.1 _)
    generalize closeFrom closeLimit ahead.1 _ = closed at hclosed ⊢
    have hlate := hclosed.trans closed.2.leads_close
    split
    · exact (hlate.trans (leads_settle _)).trans (leads_of_records _ _ _ _ _)
    · exact hlate

theorem leads_performDrop (s : Session) : s.Leads s.performDrop.2 := by
  have hclosed : s.Leads (if s.stream.taken then s else s.close.2) := by
    split
    · exact .refl s
    · exact s.leads_close
  unfold performDrop
  exact ((hclosed.trans (leads_settle _)).trans (leads_showCalls _)).trans (leads_of_records _ _ _ _ _)

theorem leads_act (s : Session) (action : Action) : s.Leads (s.act action).2 := by
  cases action with
  | send command patience => exact s.leads_performSend command patience
  | post command => exact s.leads_performPost command
  | readReply patience => exact s.leads_performReadReply patience
  | tryReadReply => exact s.leads_performTryReadReply
  | write bytes =>
    simp only [act]
    split
    next hwrite => exact leads_of_outside (.stir (.writeData hwrite))
    next => exact .refl s
  | read count =>
    simp only [act]
    split
    next hread => exact leads_of_outside (.stir (.readData hread))
    next => exact .refl s
  | connect devices => exact s.leads_use (.connect devices)
  | notifications =>
    have hdrop := s.leads_of_drop s.stream.notices.length
    rwa [List.drop_length] at hdrop
  | waitNotification patience =>
    exact leads_awaitFor (patience * millisecond) takeNotice (fun _ _ _ => leads_of_takeNotice) s
  | errors patience toRest => exact s.leads_performErrors patience toRest
  | checkErrors => exact leads_of_outside (.stir .checkErrors)
  | close => exact s.leads_performClose
  | closeDuringBurst bytes => exact s.leads_performCloseDuringBurst bytes
  | shutdown channel => exact leads_of_outside (.shutdown channel)
  | sleep time => exact s.leads_sleep _
  | drop => exact s.leads_performDrop
  | devices | microphones | isClosed | prepareToClose | queues | descriptor => exact .refl s

/-- Whatever the client does, and whatever the worker does meanwhile, are steps of the stream. -/
theorem leads_perform (s : Session) (action : Action) : s.Leads (s.perform action).2 := by
  unfold perform
  split
  · exact .refl s
  · exact (s.leads_act action).trans (leads_settle _)

/-! ## Whole sessions -/

/-- Takes one action after another. -/
def performAll (s : Session) (actions : List Action) : Session :=
  actions.foldl (fun s action => (s.perform action).2) s

theorem leads_performAll (s : Session) (actions : List Action) : s.Leads (s.performAll actions) := by
  induction actions generalizing s with
  | nil => exact .refl s
  | cons action actions ih => exact (s.leads_perform action).trans (ih (s.perform action).2)

section Start

variable {direction : Direction} {t : Transport} {driver : Hardware} {cookie : Int32}
  {microphones : List (Device × String)} {refusal : Notice → Option Error} {devices : Option (List Device)}

theorem toldBy_of_start (h : start direction t driver cookie microphones refusal devices = .ok s) :
    ∃ σ, ReflTransGen Chronicle.Step { stream := Stream.opened direction t cookie microphones } σ ∧
      s.ToldBy σ := by
  unfold start at h
  split at h
  next => cases h
  next =>
    dsimp only at h
    split at h
    next => cases h
    next ready _ =>
      cases h
      have hopened : ToldBy { stream := Stream.opened direction t cookie microphones, driver := ready, refusal,
                              calls := driver.record .prepare }
          { stream := Stream.opened direction t cookie microphones } := ⟨rfl, Nat.le_refl _, nofun⟩
      cases devices with
      | none => exact leads_settle _ _ hopened
      | some devices => exact ((leads_use _ (.connect devices)).trans (leads_settle _)) _ hopened

/-- There is a chronicle of every session, whatever the client does. -/
theorem toldBy_of_performAll (h : start direction t driver cookie microphones refusal devices = .ok s)
    (actions : List Action) :
    ∃ σ, ReflTransGen Chronicle.Step { stream := Stream.opened direction t cookie microphones } σ ∧
      (s.performAll actions).ToldBy σ := by
  obtain ⟨σ, hσ, htold⟩ := toldBy_of_start h
  obtain ⟨τ, hτ, htold⟩ := s.leads_performAll actions σ htold
  exact ⟨τ, hσ.trans hτ, htold⟩

/-- The stream of a session has been through a schedule, but for the notices that the client has taken. -/
theorem exists_follow_of_start (h : start direction t driver cookie microphones refusal devices = .ok s)
    (actions : List Action) :
    ∃ deeds past, (Stream.opened direction t cookie microphones).follow deeds =
      some ((s.performAll actions).stream.withPast past) := by
  obtain ⟨σ, hσ, htold⟩ := toldBy_of_performAll h actions
  exact htold.stream ▸ Chronicle.exists_follow_of_reaches hσ

/-- The worker of a session goes through the cycles of a run. Whenever no cycle is under way, it is where this
run leads, and so is the data queue but for what the client has done since. -/
theorem cycles_of_start (h : start direction t driver cookie microphones refusal devices = .ok s)
    (actions : List Action) :
    let setup := Setup.ofTransport t direction cookie
    let stream := (s.performAll actions).stream
    ∃ σ, ReflTransGen Chronicle.Step { stream := Stream.opened direction t cookie microphones } σ ∧
      (s.performAll actions).ToldBy σ ∧
      let r := (Bench.initial setup t.data).run setup σ.turns
      r.2.map Cycle.unreported = σ.cycles ∧
        (stream.stage.isResting = true → stream.worker = r.1.worker ∧
          stream.transport.data = (r.1.data.serve σ.turn.before).1) := by
  obtain ⟨σ, hσ, htold⟩ := toldBy_of_performAll h actions
  exact ⟨σ, hσ, htold, htold.stream ▸ Chronicle.run_of_reaches hσ⟩

end Start

end Session

end AudioStream
