import AudioStream.Proofs.Stream.Acts
import AudioStream.Proofs.Stream.Outside

/-!
# Schedules

Those who share a stream do one thing at a time to it. A schedule says who does what in which order: the
worker goes on, the driver ends a call with some answer, the client uses the queues, the layer that connects
devices sets the flag or the list, someone closes the stream. A deed that would have to wait cannot be done,
and a schedule in which it comes up is no schedule of the stream.
-/

namespace AudioStream

/-- What someone does to a stream, in one step. -/
inductive Deed where
  | work (m : Moment)
  | endControl (m : Moment) (result : Except DriverError Unit)
  | endTransfer (m : Moment) (answer : TransferAnswer)
  | setConnected (connected : Bool)
  | setDevices (devices : List Device)
  | writeData (bytes : List UInt8)
  | readData (count : Nat)
  | checkErrors
  | post (command : Command)
  | readReply
  | tryReadReply
  | shutdown (channel : Channel)
  | close (stage : CloseStage)

/-- The worker goes on, with or without an answer of the driver. -/
def Deed.isWork : Deed → Bool
  | work _ | endControl _ _ | endTransfer _ _ => true
  | _ => false

namespace Stream

def perform (s : Stream) : Deed → Option Stream
  | .work m => s.step m
  | .endControl m result => s.answerControl m result
  | .endTransfer m answer => s.answerTransfer m answer
  | .setConnected connected => some (s.setConnected connected)
  | .setDevices devices => some (s.setDevices devices)
  | .writeData bytes => s.writeData bytes
  | .readData count => (s.readData count).map (·.2)
  | .checkErrors => some s.checkErrors.2
  | .post command =>
    match s.writeCommand command with
    | .done s => some s
    | .failed _ | .waits => none
  | .readReply =>
    match s.readReply with
    | .done (_, s) => some s
    | .failed _ | .waits => none
  | .tryReadReply => some s.tryReadReply.2
  | .shutdown channel => some (s.shutdown channel)
  | .close stage => (s.closeStep stage).map (·.2)

/-- The stream after a schedule. -/
def follow (s : Stream) : List Deed → Option Stream
  | [] => some s
  | d :: deeds => (s.perform d).bind (·.follow deeds)

variable {a b : Stream}

theorem works_of_perform {d : Deed} (hd : d.isWork = true) (h : a.perform d = some b) : a.Works b := by
  cases d with
  | work m => exact .step m h
  | endControl m result => exact .control m result h
  | endTransfer m answer => exact .transfer m answer h
  | _ => cases hd

theorem outside_of_perform {d : Deed} (hd : d.isWork = false) (h : a.perform d = some b) : a.Outside b := by
  cases d with
  | work | endControl | endTransfer => cases hd
  | setConnected connected =>
    cases h
    exact .stir (.setConnected connected)
  | setDevices devices =>
    cases h
    exact .stir (.setDevices devices)
  | writeData bytes => exact .stir (.writeData h)
  | readData count =>
    obtain ⟨⟨bytes, c⟩, hread, rfl⟩ := Option.map_eq_some_iff.mp h
    exact .stir (.readData hread)
  | checkErrors =>
    cases h
    exact .stir .checkErrors
  | post command =>
    simp only [perform] at h
    split at h <;> cases h
    next hwrite => exact .writeCommand command hwrite
  | readReply =>
    simp only [perform] at h
    split at h <;> cases h
    next hread => exact .readReply hread
  | tryReadReply =>
    cases h
    exact .tryReadReply
  | shutdown channel =>
    cases h
    exact .shutdown channel
  | close stage =>
    obtain ⟨⟨stage', c⟩, hclose, rfl⟩ := Option.map_eq_some_iff.mp h
    exact .close hclose

theorem perform_of_outside (h : a.Outside b) : ∃ d : Deed, d.isWork = false ∧ a.perform d = some b := by
  cases h with
  | stir h =>
    cases h with
    | @writeData b bytes h => exact ⟨.writeData bytes, rfl, h⟩
    | @readData b count bytes h => exact ⟨.readData count, rfl, by rw [perform, h]; rfl⟩
    | setConnected connected => exact ⟨.setConnected connected, rfl, rfl⟩
    | setDevices devices => exact ⟨.setDevices devices, rfl, rfl⟩
    | checkErrors => exact ⟨.checkErrors, rfl, rfl⟩
  | writeCommand command h => exact ⟨.post command, rfl, by simp [perform, h]⟩
  | readReply h => exact ⟨.readReply, rfl, by simp [perform, h]⟩
  | tryReadReply => exact ⟨.tryReadReply, rfl, rfl⟩
  | shutdown channel => exact ⟨.shutdown channel, rfl, rfl⟩
  | @close b c c' h => exact ⟨.close c, rfl, by rw [perform, h]; rfl⟩

/-- The deeds are what the worker and the others do, and nothing else. -/
theorem exists_perform_iff : (∃ d, a.perform d = some b) ↔ a.Works b ∨ a.Outside b := by
  constructor
  · rintro ⟨d, h⟩
    cases hd : d.isWork with
    | true => exact .inl (works_of_perform hd h)
    | false => exact .inr (outside_of_perform hd h)
  · rintro (h | h)
    · cases h with
      | step m h => exact ⟨.work m, h⟩
      | control m result h => exact ⟨.endControl m result, h⟩
      | transfer m answer h => exact ⟨.endTransfer m answer, h⟩
    · obtain ⟨d, -, hd⟩ := perform_of_outside h
      exact ⟨d, hd⟩

theorem follow_concat {c : Stream} (deeds : List Deed) (d : Deed) (h : a.follow deeds = some b)
    (hd : b.perform d = some c) : a.follow (deeds ++ [d]) = some c := by
  induction deeds generalizing a with
  | nil =>
    cases h
    rw [List.nil_append, follow, hd]
    rfl
  | cons first deeds ih =>
    obtain ⟨next, hfirst, hrest⟩ := Option.bind_eq_some_iff.mp h
    rw [List.cons_append, follow, hfirst]
    exact ih hrest

/-- What each deed preserves is preserved by a schedule. -/
theorem follow_induction {P : Stream → Prop} (hstep : ∀ a b, P a → (a.Works b ∨ a.Outside b) → P b)
    {deeds : List Deed} (h : a.follow deeds = some b) (ha : P a) : P b := by
  induction deeds generalizing a with
  | nil =>
    cases h
    exact ha
  | cons d deeds ih =>
    obtain ⟨c, hc, hrest⟩ := Option.bind_eq_some_iff.mp h
    exact ih hrest (hstep a c ha (exists_perform_iff.mp ⟨d, hc⟩))

end Stream

end AudioStream
