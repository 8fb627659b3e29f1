import AudioStream.Proofs.Stream.Connection

/-!
# Calls that overlap

A call that connects a stream to devices sets the flag, and then it sets the list. Nothing keeps another call
from coming in between, so when all calls are over the flag may be that of one call and the list that of
another. If a call only begins when no other one is under way, the flag and the list agree between the calls.
If calls overlap they agree in the end as long as all of these calls have devices, or none has. A worker that
looks at the flag then finds whether there are devices, and what it has found holds as long as no other call
begins. But of two calls that overlap, one with devices and one without, the first may set the flag first and
the list last, and then the worker goes by a flag that does not belong to the list until there is another call.

The main statements are `Switchboard.agrees_of_calls` and `Switchboard.disagrees_crossed`.
-/

open Relation

namespace AudioStream

theorem Stream.activeMicrophones_of_no_device {s : Stream} (h : s.devices = []) :
    s.activeMicrophones = [] := by
  simp [activeMicrophones, h]

/-- How far a call has come that connects a stream to devices. -/
inductive CallProgress where
  | arrived
  /-- The call has set the flag. -/
  | flagged
  | done
  deriving DecidableEq

structure RoutingCall where
  devices : List Device
  progress : CallProgress := .arrived

/-- A stream, with the calls that connect it to devices. -/
structure Switchboard where
  stream : Stream
  /-- The calls so far, in the order in which they began. -/
  calls : List RoutingCall := []
  /-- The place of the call that has set the flag last. -/
  flagger : Option Nat := none
  /-- The place of the call that has set the list last. -/
  lister : Option Nat := none
  /-- What the worker found the flag to be when it last looked. -/
  sample : Bool := false

namespace Switchboard

/-- The flag that the worker goes by in its next step. -/
def found (σ : Switchboard) : Bool :=
  if σ.stream.stage.isSampling then σ.stream.connected else σ.sample

/-- The worker goes on. -/
def work (σ : Switchboard) (b : Stream) : Switchboard := { σ with stream := b, sample := σ.found }

/-- A call begins. -/
def begin (σ : Switchboard) (devices : List Device) : Switchboard :=
  { σ with calls := σ.calls ++ [{ devices }] }

/-- A call sets the flag. -/
def setFlag (σ : Switchboard) (place : Nat) (devices : List Device) : Switchboard :=
  { σ with
    stream := σ.stream.setConnected !devices.isEmpty
    calls := σ.calls.set place ⟨devices, .flagged⟩
    flagger := some place }

/-- A call sets the list and is over. -/
def setList (σ : Switchboard) (place : Nat) (devices : List Device) : Switchboard :=
  { σ with
    stream := σ.stream.setDevices devices
    calls := σ.calls.set place ⟨devices, .done⟩
    lister := some place }

/-- Something happens that has nothing to do with the calls. -/
inductive Quiet (σ : Switchboard) : Switchboard → Prop where
  | work {b : Stream} (h : σ.stream.Works b) : Quiet σ (σ.work b)
  | outside {b : Stream} (h : σ.stream.Outside b) (connected : b.connected = σ.stream.connected)
      (devices : b.devices = σ.stream.devices) : Quiet σ { σ with stream := b }

/-- Calls are made by the layer that connects devices, and by a driver in the midst of a transfer. Any number
of them may be under way. -/
inductive Step (σ : Switchboard) : Switchboard → Prop where
  | quiet {τ : Switchboard} (h : σ.Quiet τ) : Step σ τ
  | begin (devices : List Device) : Step σ (σ.begin devices)
  | setFlag {place : Nat} {devices : List Device} (h : σ.calls[place]? = some ⟨devices, .arrived⟩) :
      Step σ (σ.setFlag place devices)
  | setList {place : Nat} {devices : List Device} (h : σ.calls[place]? = some ⟨devices, .flagged⟩) :
      Step σ (σ.setList place devices)

/-- No call is under way. -/
def Idle (σ : Switchboard) : Prop := ∀ call ∈ σ.calls, call.progress = .done

/-- The devices of the call at a place. -/
def devicesAt (σ : Switchboard) (place : Nat) : Option (List Device) := (σ.calls[place]?).map (·.devices)

/-- The devices of the call that has set the flag last. -/
def flagged (σ : Switchboard) : List Device := (σ.flagger.bind σ.devicesAt).getD []

/-- The devices of the call that has set the list last. -/
def listed (σ : Switchboard) : List Device := (σ.lister.bind σ.devicesAt).getD []

/-- The flag tells whether there are devices, and without one there is no active microphone. -/
structure Agrees (σ : Switchboard) : Prop where
  connected : σ.stream.connected = true ↔ σ.stream.devices ≠ []
  microphones : σ.stream.connected = false → σ.stream.activeMicrophones = []

/-- A step in which a call only begins when no other one is under way. -/
structure SerialStep (σ τ : Switchboard) : Prop where
  step : σ.Step τ
  idle : σ.calls.length < τ.calls.length → σ.Idle

variable {σ τ : Switchboard} {b : Stream} {place : Nat} {devices : List Device}

theorem devicesAt_begin (h : place < σ.calls.length) :
    (σ.begin devices).devicesAt place = σ.devicesAt place := by
  rw [devicesAt, devicesAt, begin, List.getElem?_append_left h]

/-- The devices of a call stay what they are. -/
theorem devicesAt_of_set {before after : CallProgress} {i : Nat}
    (h : σ.calls[place]? = some ⟨devices, before⟩) (calls : τ.calls = σ.calls.set place ⟨devices, after⟩) :
    τ.devicesAt i = σ.devicesAt i := by
  rw [devicesAt, devicesAt, calls, List.getElem?_set]
  split
  next heq =>
    subst heq
    split
    next => rw [h]; rfl
    next hlt => rw [List.getElem?_eq_none (Nat.le_of_not_lt hlt)] at h; cases h
  next => rfl

/-! ## The flag and the list -/

/-- The flag is that of the call that has set it last, and so is the list. -/
structure Inv (σ : Switchboard) : Prop where
  flag : σ.stream.connected = !σ.flagged.isEmpty
  list : σ.stream.devices = σ.listed
  flagger_lt : ∀ place, σ.flagger = some place → place < σ.calls.length
  lister_lt : ∀ place, σ.lister = some place → place < σ.calls.length
  /-- A command is carried out with the flag that was found for it. -/
  task : ∀ command task, σ.stream.stage = .handling command task → task.connected = σ.sample

theorem getD_devicesAt_congr {last : Option Nat}
    (h : ∀ place, last = some place → τ.devicesAt place = σ.devicesAt place) :
    (last.bind τ.devicesAt).getD [] = (last.bind σ.devicesAt).getD [] := by
  cases last with
  | none => rfl
  | some place => exact congrArg (·.getD []) (h place rfl)

theorem Inv.heeds (inv : Inv σ) (h : σ.stream.Works b) : σ.stream.Heeds σ.found b := by
  refine Stream.heeds_acts (fun hs => if_pos hs) (fun command task hs => ?_) (Stream.acts_of_works h)
  rw [found, hs]
  exact inv.task command task hs

theorem Inv.quiet (inv : Inv σ) (h : σ.Quiet τ) : Inv τ := by
  cases h with
  | work h =>
    have heeds := inv.heeds h
    exact ⟨heeds.connected.trans inv.flag, heeds.devices.trans inv.list, inv.flagger_lt, inv.lister_lt,
      heeds.task⟩
  | outside h connected devices =>
    exact ⟨connected.trans inv.flag, devices.trans inv.list, inv.flagger_lt, inv.lister_lt,
      fun command task hs => inv.task command task (h.leaves.stage ▸ hs)⟩

theorem Inv.begin (inv : Inv σ) (devices : List Device) : Inv (σ.begin devices) where
  flag := by
    have hsame : (σ.begin devices).flagged = σ.flagged :=
      getD_devicesAt_congr fun place hplace => devicesAt_begin (inv.flagger_lt place hplace)
    rw [hsame]
    exact inv.flag
  list := by
    have hsame : (σ.begin devices).listed = σ.listed :=
      getD_devicesAt_congr fun place hplace => devicesAt_begin (inv.lister_lt place hplace)
    rw [hsame]
    exact inv.list
  flagger_lt place hplace := by
    rw [Switchboard.begin, List.length_append]
    exact Nat.lt_add_right _ (inv.flagger_lt place hplace)
  lister_lt place hplace := by
    rw [Switchboard.begin, List.length_append]
    exact Nat.lt_add_right _ (inv.lister_lt place hplace)
  task := inv.task

theorem lt_length {call : RoutingCall} (h : σ.calls[place]? = some call) : place < σ.calls.length :=
  (List.getElem?_eq_some_iff.mp h).1

theorem Inv.setFlag (inv : Inv σ) (h : σ.calls[place]? = some ⟨devices, .arrived⟩) :
    Inv (σ.setFlag place devices) where
  flag := by
    have hflagged : (σ.setFlag place devices).flagged = devices := by
      change ((σ.setFlag place devices).devicesAt place).getD [] = devices
      rw [devicesAt_of_set h rfl, devicesAt, h]
      rfl
    rw [hflagged]
    rfl
  list := by
    have hsame : (σ.setFlag place devices).listed = σ.listed :=
      getD_devicesAt_congr fun _ _ => devicesAt_of_set h rfl
    rw [hsame]
    exact inv.list
  flagger_lt := by
    rintro _ ⟨⟩
    rw [Switchboard.setFlag, List.length_set]
    exact lt_length h
  lister_lt place hplace := by
    rw [Switchboard.setFlag, List.length_set]
    exact inv.lister_lt place hplace
  task := inv.task

theorem Inv.setList (inv : Inv σ) (h : σ.calls[place]? = some ⟨devices, .flagged⟩) :
    Inv (σ.setList place devices) where
  flag := by
    have hsame : (σ.setList place devices).flagged = σ.flagged :=
      getD_devicesAt_congr fun _ _ => devicesAt_of_set h rfl
    rw [hsame]
    exact inv.flag
  list := by
    have hlisted : (σ.setList place devices).listed = devices := by
      change ((σ.setList place devices).devicesAt place).getD [] = devices
      rw [devicesAt_of_set h rfl, devicesAt, h]
      rfl
    rw [hlisted]
    rfl
  flagger_lt place hplace := by
    rw [Switchboard.setList, List.length_set]
    exact inv.flagger_lt place hplace
  lister_lt := by
    rintro _ ⟨⟩
    rw [Switchboard.setList, List.length_set]
    exact lt_length h
  task := inv.task

theorem inv_step (inv : Inv σ) (h : σ.Step τ) : Inv τ := by
  cases h with
  | quiet h => exact inv.quiet h
  | begin devices => exact inv.begin devices
  | setFlag h => exact inv.setFlag h
  | setList h => exact inv.setList h

theorem inv_of_reaches (inv : Inv σ) (h : ReflTransGen Step σ τ) : Inv τ := by
  induction h with
  | refl => exact inv
  | tail _ hstep ih => exact inv_step ih hstep

theorem inv_opened (t : Transport) (direction : Direction) (cookie : Int32)
    (microphones : List (Device × String)) :
    Inv { stream := Stream.opened direction t cookie microphones } where
  flag := rfl
  list := rfl
  flagger_lt := by rintro _ ⟨⟩
  lister_lt := by rintro _ ⟨⟩
  task := by rintro _ _ ⟨⟩

theorem agrees_of_connected (h : σ.stream.connected = !σ.stream.devices.isEmpty) : σ.Agrees where
  connected := by simp [h]
  microphones hflag := Stream.activeMicrophones_of_no_device (by simpa [h] using hflag)

theorem Agrees.connected_eq (h : σ.Agrees) : σ.stream.connected = !σ.stream.devices.isEmpty := by
  rw [Bool.eq_iff_iff, h.connected]
  simp

/-- Calls that both have devices, or both have none, leave a flag and a list that agree. -/
theorem Inv.agrees (inv : Inv σ) (alike : σ.flagged.isEmpty = σ.listed.isEmpty) : σ.Agrees := by
  apply agrees_of_connected
  rw [inv.flag, inv.list, alike]

/-! ## One call at a time -/

/-- Only the last call may be under way, and one call has set both the flag and the list if none is. -/
structure OneByOne (σ : Switchboard) : Prop where
  last : ∀ place call, σ.calls[place]? = some call → call.progress ≠ .done →
    place + 1 = σ.calls.length ∧ (call.progress = .flagged → σ.flagger = some place)
  same : σ.Idle → σ.flagger = σ.lister

/-- What is under way after a call has made progress is that call. -/
theorem OneByOne.of_set (h : OneByOne σ) {before after : CallProgress} {calls : List RoutingCall}
    (hcall : σ.calls[place]? = some ⟨devices, before⟩) (hbefore : before ≠ .done)
    (hcalls : calls = σ.calls.set place ⟨devices, after⟩) {i : Nat} {call : RoutingCall}
    (hi : calls[i]? = some call) (hprogress : call.progress ≠ .done) :
    i = place ∧ call = ⟨devices, after⟩ ∧ place + 1 = calls.length := by
  subst hcalls
  have hlast := (h.last place _ hcall hbefore).1
  rw [List.length_set]
  by_cases hsame : place = i
  · subst hsame
    rw [List.getElem?_set_self (lt_length hcall)] at hi
    cases hi
    exact ⟨rfl, rfl, hlast⟩
  · rw [List.getElem?_set_ne hsame] at hi
    have := (h.last i call hi hprogress).1
    omega

theorem OneByOne.step (h : OneByOne σ) (hstep : SerialStep σ τ) : OneByOne τ := by
  obtain ⟨hstep, hidle⟩ := hstep
  cases hstep with
  | quiet hquiet =>
    cases hquiet with
    | work | outside => exact ⟨h.last, h.same⟩
  | begin devices =>
    have hlength : σ.calls.length < (σ.begin devices).calls.length := by simp [Switchboard.begin]
    have idle : σ.Idle := hidle hlength
    refine ⟨fun place call hcall hprogress => ?_, fun idle' => ?_⟩
    · rcases of_getElem?_append hcall with hold | ⟨rfl, rfl⟩
      · exact absurd (idle call (List.mem_of_getElem? hold)) hprogress
      · exact ⟨by simp [Switchboard.begin], nofun⟩
    · have hnew := idle' { devices } (by simp [Switchboard.begin])
      cases hnew
  | @setFlag place devices hcall =>
    refine ⟨fun i call hi hprogress => ?_, fun idle' => ?_⟩
    · obtain ⟨rfl, -, hlast⟩ := h.of_set hcall nofun rfl hi hprogress
      exact ⟨hlast, fun _ => rfl⟩
    · have hover := idle' ⟨devices, .flagged⟩ (List.mem_of_getElem? (List.getElem?_set_self (lt_length hcall)))
      cases hover
  | @setList place devices hcall =>
    refine ⟨fun i call hi hprogress => ?_, fun _ => (h.last place _ hcall nofun).2 rfl⟩
    obtain ⟨-, rfl, -⟩ := h.of_set hcall nofun rfl hi hprogress
    exact absurd rfl hprogress

theorem oneByOne_of_reaches (h : OneByOne σ) (hτ : ReflTransGen SerialStep σ τ) : OneByOne τ := by
  induction hτ with
  | refl => exact h
  | tail _ hstep ih => exact ih.step hstep

theorem oneByOne_opened (s : Stream) : OneByOne { stream := s } where
  last place call h := by cases h
  same _ := rfl

/-! ## Calls since a moment without a call -/

/-- The calls up to a place are over. If one that came later has set the flag then the last that did came later,
and so with the list. -/
structure Renewed (past : Nat) (σ : Switchboard) : Prop where
  settled : ∀ place call, place < past → σ.calls[place]? = some call → call.progress = .done
  flagger : ∀ place call, past ≤ place → σ.calls[place]? = some call → call.progress ≠ .arrived →
    ∃ last, σ.flagger = some last ∧ past ≤ last
  lister : ∀ place call, past ≤ place → σ.calls[place]? = some call → call.progress = .done →
    ∃ last, σ.lister = some last ∧ past ≤ last

variable {past : Nat}

theorem renewed_of_idle (idle : σ.Idle) : Renewed σ.calls.length σ where
  settled _ call _ h := idle call (List.mem_of_getElem? h)
  flagger _ _ hle h := absurd (lt_length h) (Nat.not_lt.mpr hle)
  lister _ _ hle h := absurd (lt_length h) (Nat.not_lt.mpr hle)

theorem Renewed.begin (h : Renewed past σ) (devices : List Device) (hpast : past ≤ σ.calls.length) :
    Renewed past (σ.begin devices) where
  settled place call hlt hcall := by
    rw [Switchboard.begin, List.getElem?_append_left (Nat.lt_of_lt_of_le hlt hpast)] at hcall
    exact h.settled place call hlt hcall
  flagger place call hle hcall hprogress := by
    rcases of_getElem?_append hcall with hold | ⟨-, rfl⟩
    · exact h.flagger place call hle hold hprogress
    · exact absurd rfl hprogress
  lister place call hle hcall hprogress := by
    rcases of_getElem?_append hcall with hold | ⟨-, rfl⟩
    · exact h.lister place call hle hold hprogress
    · cases hprogress

/-- A call that is not over came later. -/
theorem Renewed.le (h : Renewed past σ) {call : RoutingCall} (hcall : σ.calls[place]? = some call)
    (hprogress : call.progress ≠ .done) : past ≤ place :=
  Nat.le_of_not_lt fun hlt => hprogress (h.settled place call hlt hcall)

theorem Renewed.setFlag (h : Renewed past σ) (hcall : σ.calls[place]? = some ⟨devices, .arrived⟩) :
    Renewed past (σ.setFlag place devices) := by
  have hle : past ≤ place := h.le hcall (by simp)
  refine ⟨fun i call hlt hi => ?settled, fun i call _ _ _ => ⟨place, rfl, hle⟩,
    fun i call hi hcall' hprogress => ?lister⟩
  case settled =>
    rw [Switchboard.setFlag, List.getElem?_set_ne (by omega)] at hi
    exact h.settled i call hlt hi
  case lister =>
    by_cases hsame : place = i
    · subst hsame
      rw [Switchboard.setFlag, List.getElem?_set_self (lt_length hcall)] at hcall'
      cases hcall'
      cases hprogress
    · rw [Switchboard.setFlag, List.getElem?_set_ne hsame] at hcall'
      exact h.lister i call hi hcall' hprogress

theorem Renewed.setList (h : Renewed past σ) (hcall : σ.calls[place]? = some ⟨devices, .flagged⟩) :
    Renewed past (σ.setList place devices) := by
  have hle : past ≤ place := h.le hcall (by simp)
  refine ⟨fun i call hlt hi => ?settled, fun i call hi hcall' hprogress => ?flagger,
    fun i call _ _ _ => ⟨place, rfl, hle⟩⟩
  case settled =>
    rw [Switchboard.setList, List.getElem?_set_ne (by omega)] at hi
    exact h.settled i call hlt hi
  case flagger =>
    by_cases hsame : place = i
    · exact h.flagger place _ hle hcall (by simp)
    · rw [Switchboard.setList, List.getElem?_set_ne hsame] at hcall'
      exact h.flagger i call hi hcall' hprogress

theorem Renewed.step (h : Renewed past σ) (hpast : past ≤ σ.calls.length) (hstep : σ.Step τ) :
    Renewed past τ ∧ past ≤ τ.calls.length := by
  cases hstep with
  | quiet hquiet =>
    cases hquiet with
    | work | outside => exact ⟨⟨h.settled, h.flagger, h.lister⟩, hpast⟩
  | begin devices =>
    refine ⟨h.begin devices hpast, ?_⟩
    rw [Switchboard.begin, List.length_append]
    exact Nat.le_add_right_of_le hpast
  | setFlag hcall =>
    refine ⟨h.setFlag hcall, ?_⟩
    rwa [Switchboard.setFlag, List.length_set]
  | setList hcall =>
    refine ⟨h.setList hcall, ?_⟩
    rwa [Switchboard.setList, List.length_set]

theorem renewed_of_reaches (idle : σ.Idle) (h : ReflTransGen Step σ τ) :
    Renewed σ.calls.length τ ∧ σ.calls.length ≤ τ.calls.length := by
  induction h with
  | refl => exact ⟨renewed_of_idle idle, Nat.le_refl _⟩
  | tail _ hstep ih => exact ih.1.step ih.2 hstep

/-- The devices of a call that came later are those of one of the later calls. -/
theorem exists_mem_drop {last : Nat} (hlast : past ≤ last) (hlt : last < σ.calls.length) :
    ∃ call ∈ σ.calls.drop past, ((some last).bind σ.devicesAt).getD [] = call.devices := by
  refine ⟨σ.calls[last], ?_, ?_⟩
  · rw [List.mem_drop_iff_getElem]
    exact ⟨last - past, by omega, by simp only [Nat.add_sub_cancel' hlast]⟩
  · simp [devicesAt, List.getElem?_eq_getElem hlt]

/-- If all calls since a moment without a call have devices, or all have none, then so it is with the two that
matter. -/
theorem Inv.agrees_of_alike (inv : Inv τ) (idle : σ.Idle) (h : ReflTransGen Step σ τ) (idle' : τ.Idle)
    (some_call : σ.calls.length < τ.calls.length)
    (alike : ∀ call ∈ τ.calls.drop σ.calls.length, ∀ other ∈ τ.calls.drop σ.calls.length,
      call.devices.isEmpty = other.devices.isEmpty) : τ.Agrees := by
  obtain ⟨hrenewed, -⟩ := renewed_of_reaches idle h
  have hcall := List.getElem?_eq_getElem some_call
  have hover := idle' _ (List.getElem_mem some_call)
  obtain ⟨i, hflagger, hi⟩ := hrenewed.flagger _ _ (Nat.le_refl _) hcall (by rw [hover]; simp)
  obtain ⟨j, hlister, hj⟩ := hrenewed.lister _ _ (Nat.le_refl _) hcall hover
  obtain ⟨call, hmem, hdevices⟩ := exists_mem_drop hi (inv.flagger_lt i hflagger)
  obtain ⟨other, hmem', hdevices'⟩ := exists_mem_drop hj (inv.lister_lt j hlister)
  apply inv.agrees
  rw [flagged, listed, hflagger, hlister, hdevices, hdevices']
  exact alike call hmem other hmem'

/-! ## What the worker finds -/

/-- As long as no other call begins, what the worker has found holds. -/
theorem Inv.sample_of_quiet (inv : Inv σ) (hsample : σ.sample = σ.stream.connected)
    (h : ReflTransGen Quiet σ τ) :
    Inv τ ∧ τ.sample = τ.stream.connected ∧ τ.stream.connected = σ.stream.connected ∧
      τ.stream.devices = σ.stream.devices := by
  induction h with
  | refl => exact ⟨inv, hsample, rfl, rfl⟩
  | @tail ρ τ _ hstep ih =>
    obtain ⟨hinv, hsample', hconnected, hdevices⟩ := ih
    refine ⟨hinv.quiet hstep, ?_⟩
    cases hstep with
    | work h =>
      have heeds := hinv.heeds h
      refine ⟨?_, heeds.connected.trans hconnected, heeds.devices.trans hdevices⟩
      have hfound : ρ.found = ρ.stream.connected := by
        rw [found, hsample']
        split <;> rfl
      exact hfound.trans heeds.connected.symm
    | outside h connected devices =>
      exact ⟨hsample'.trans connected.symm, connected.trans hconnected, devices.trans hdevices⟩

/-- What a worker has found while the flag and the list agreed is so until a call goes on or begins. -/
theorem Inv.found_of_agrees (inv : Inv σ) (agrees : σ.Agrees) (hsampling : σ.stream.stage.isSampling = true)
    (hworks : σ.stream.Works b) (h : ReflTransGen Quiet (σ.work b) τ) :
    τ.Agrees ∧ τ.sample = τ.stream.connected ∧
      ∀ command task, τ.stream.stage = .handling command task → task.connected = τ.sample := by
  have heeds := inv.heeds hworks
  have inv' : Inv (σ.work b) := inv.quiet (.work hworks)
  have hsample : (σ.work b).sample = (σ.work b).stream.connected :=
    (if_pos hsampling).trans heeds.connected.symm
  obtain ⟨hinv, hsample', hconnected, hdevices⟩ := inv'.sample_of_quiet hsample h
  refine ⟨agrees_of_connected ?_, hsample', hinv.task⟩
  calc τ.stream.connected = σ.stream.connected := hconnected.trans heeds.connected
    _ = !σ.stream.devices.isEmpty := agrees.connected_eq
    _ = !τ.stream.devices.isEmpty := by rw [hdevices, ← heeds.devices]; rfl

/-- The flag is always that of the call that has set it last, and the list that of the call that has set it last.
If calls do not overlap then the flag and the list agree whenever no call is under way. If they overlap then they
agree when all calls are over, as long as all calls since some moment without a call have devices, or all have
none. A worker that looks at the flag when they agree carries out commands by whether there are devices, until
another call begins. -/
theorem agrees_of_calls (t : Transport) (direction : Direction) (cookie : Int32)
    (microphones : List (Device × String)) :
    let opened : Switchboard := { stream := Stream.opened direction t cookie microphones }
    (∀ σ, ReflTransGen Step opened σ →
      σ.stream.connected = (!σ.flagged.isEmpty) ∧ σ.stream.devices = σ.listed) ∧
    (∀ σ, ReflTransGen SerialStep opened σ → σ.Idle → σ.Agrees) ∧
    (∀ σ τ, ReflTransGen Step opened σ → σ.Idle → ReflTransGen Step σ τ → τ.Idle →
      σ.calls.length < τ.calls.length →
      (∀ call ∈ τ.calls.drop σ.calls.length, ∀ other ∈ τ.calls.drop σ.calls.length,
        call.devices.isEmpty = other.devices.isEmpty) → τ.Agrees) ∧
    ∀ σ b τ, ReflTransGen Step opened σ → σ.Agrees → σ.stream.stage.isSampling = true →
      σ.stream.Works b → ReflTransGen Quiet (σ.work b) τ →
        τ.Agrees ∧ τ.sample = τ.stream.connected ∧
        ∀ command task, τ.stream.stage = .handling command task → task.connected = τ.sample := by
  intro opened
  have inv {σ : Switchboard} (hσ : ReflTransGen Step opened σ) : Inv σ :=
    inv_of_reaches (inv_opened t direction cookie microphones) hσ
  refine ⟨fun σ hσ => ⟨(inv hσ).flag, (inv hσ).list⟩, fun σ hσ idle => ?serial, fun σ τ hσ idle hτ idle' => ?alike,
    fun σ b τ hσ agrees => (inv hσ).found_of_agrees agrees⟩
  case serial =>
    have hsame : σ.flagger = σ.lister := (oneByOne_of_reaches (oneByOne_opened _) hσ).same idle
    apply (inv (ReflTransGen.mono (fun _ _ hstep => hstep.step) _ _ hσ)).agrees
    rw [flagged, hsame, listed]
  case alike => exact (inv (hσ.trans hτ)).agrees_of_alike idle hτ idle'

/-! Two calls that overlap, each of which has set the flag or the list last. -/

def microphone : Device := ⟨.builtinMic, ""⟩

/-- A capture stream that has just been opened. -/
def listening : Switchboard := { stream := Stream.opened .input .small 7 [(microphone, "m0")] }

/-- The worker has taken a command, and is about to look at the flag. -/
def hearing : Switchboard :=
  { stream := { listening.stream with stage := .sampling .getStatus } }

theorem reaches_hearing : ReflTransGen Step listening hearing :=
  (((ReflTransGen.single (.quiet (.work (.step { now := 0 } rfl)))).tail
    (.quiet (.work (.step { now := 0 } rfl)))).tail
    (.quiet (.outside (.writeCommand .getStatus rfl) rfl rfl))).tail (.quiet (.work (.step { now := 0 } rfl)))

/-- Two calls, the first of which begins first and is over last. -/
def crossed (first second : List Device) : Switchboard :=
  (((((hearing.begin first).begin second).setFlag 0 first).setFlag 1 second).setList 1 second).setList 0 first

theorem reaches_crossed (first second : List Device) : ReflTransGen Step hearing (crossed first second) :=
  (((((ReflTransGen.single (.begin first)).tail (.begin second)).tail (.setFlag rfl)).tail (.setFlag rfl)).tail
    (.setList rfl)).tail (.setList rfl)

theorem idle_crossed (first second : List Device) : (crossed first second).Idle := by
  simp [Idle, crossed, begin, setFlag, setList, hearing]

/-- Two calls with devices cross, and the worker finds that there are devices. -/
theorem agrees_of_calls_crossed :
    let σ := crossed [microphone] [⟨.usb, ""⟩, microphone]
    ReflTransGen Step listening σ ∧ σ.Idle ∧ σ.Agrees ∧ σ.stream.connected = true ∧
      ∃ b, σ.stream.Works b ∧ (σ.work b).sample = true := by
  intro σ
  obtain ⟨-, -, halike, hfinds⟩ := agrees_of_calls .small .input 7 [(microphone, "m0")]
  have hreaches := reaches_crossed [microphone] [⟨.usb, ""⟩, microphone]
  have hidle := idle_crossed [microphone] [⟨.usb, ""⟩, microphone]
  have hagrees : σ.Agrees :=
    halike hearing σ reaches_hearing (by simp [Idle, hearing]) hreaches hidle (by decide) (by decide)
  have hall : ReflTransGen Step listening σ := reaches_hearing.trans hreaches
  have hworks : σ.stream.Works (σ.stream.beginCommand { now := 0 } .getStatus) := .step { now := 0 } rfl
  obtain ⟨hagrees', hsample, -⟩ := hfinds σ _ _ hall hagrees rfl hworks .refl
  exact ⟨hall, hidle, hagrees, rfl, _, hworks, hsample.trans rfl⟩

/-- A call with a microphone and a call without devices cross. When both are over the flag says that there are no
devices, and the list has the microphone in it. So it stays as long as no other call begins, and the worker goes
by the flag. -/
theorem disagrees_crossed :
    let σ := crossed [microphone] []
    ReflTransGen Step listening σ ∧ σ.Idle ∧ σ.stream.activeMicrophones = [⟨"m0", 2⟩] ∧
      (∃ b, σ.stream.Works b ∧ (σ.work b).sample = false) ∧
      ∀ τ, ReflTransGen Quiet σ τ → τ.sample = false ∧ τ.stream.devices = [microphone] ∧
        ¬ (τ.stream.connected = true ↔ τ.stream.devices ≠ []) := by
  intro σ
  have hall : ReflTransGen Step listening σ := reaches_hearing.trans (reaches_crossed [microphone] [])
  have inv : Inv σ := inv_of_reaches (inv_opened .small .input 7 _) hall
  have hworks : σ.stream.Works (σ.stream.beginCommand { now := 0 } .getStatus) := .step { now := 0 } rfl
  refine ⟨hall, idle_crossed _ _, by decide +kernel, ⟨_, hworks, rfl⟩, fun τ hτ => ?_⟩
  obtain ⟨-, hsample, hconnected, hdevices⟩ := inv.sample_of_quiet rfl hτ
  have hflag : τ.stream.connected = false := hconnected.trans rfl
  have hlist : τ.stream.devices = [microphone] := hdevices.trans rfl
  exact ⟨hsample.trans hflag, hlist, by simp [hflag, hlist]⟩

end Switchboard

end AudioStream
