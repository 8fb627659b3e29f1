import AudioStream.Proofs.Stream.Broken
import AudioStream.Proofs.Stream.Connection
import AudioStream.Proofs.Stream.Sizes

/-!
# Bursts of a stream whose client keeps its role

A burst looks at the data queue, has the driver called, and moves its bytes, and between any two of these steps
a client may come in. A client of a capture stream that only reads leaves the room in place that the worker has
seen, and one of a playback stream that only writes leaves the bytes. So no burst is let down, and what a burst
moves is settled by what it has seen and by what the driver says. What the client does meanwhile shows in the
queue, but not in what the burst moves.

The main statement is `Stream.bursts_of_roles`.
-/

namespace AudioStream

namespace Deed

/-- The client only reads from the data queue of a capture stream, and only writes to that of a playback
stream. A driver writes to neither. -/
def keepsRole : Direction → Deed → Bool
  | .input, writeData _ => false
  | .output, readData _ => false
  | _, _ => true

/-- The bytes that the client writes to the data queue. -/
def written : Deed → List UInt8
  | writeData bytes => bytes
  | _ => []

/-- How many bytes the client reads from the data queue. -/
def taken : Deed → Nat
  | readData count => count
  | _ => 0

/-- What the driver says at the end of a transfer. -/
def result? : Deed → Option (Except DriverError TransferResult)
  | endTransfer _ answer => some answer.result
  | _ => none

theorem written_of_keepsRole {d : Deed} (h : d.keepsRole .input = true) : d.written = [] := by
  cases d with
  | writeData => cases h
  | _ => rfl

theorem taken_of_keepsRole {d : Deed} (h : d.keepsRole .output = true) : d.taken = 0 := by
  cases d with
  | readData => cases h
  | _ => rfl

end Deed

namespace Worker

variable {s : Setup} {w : Worker} {now : Nat}

theorem status_react_ne {connected : Bool} {command : Command} {r : Handled}
    (hreact : w.react s now connected command = .reply r) : r.reply.status ≠ .notEnoughData := by
  unfold react at hreact
  split at hreact <;> cases hreact <;> simp [succeed]

theorem status_afterControl_ne (connected : Bool) (call : Control) (next : State)
    (result : Except DriverError Unit) :
    (w.afterControl now connected call next result).reply.status ≠ .notEnoughData := by
  cases result <;> simp [afterControl, succeed]

theorem status_finishBurst_ne (b : Burst) (m : Moved) :
    (w.finishBurst s now b m true).reply.status ≠ .notEnoughData := by
  simp [status_finishBurst]

end Worker

/-- What a transfer of some frames moves. Without a word of the driver no device was there. -/
def Moved.ofResult (frames : Nat) : Option (Except DriverError TransferResult) → Moved
  | some result => .ofAnswer frames result
  | none => .withoutDevice frames

namespace Stream

variable {a b s x y : Stream} {d : Deed} {command : Command} {burst : Burst} {m : Moved}

/-- What is not the worker's doing takes bytes off the front of the data queue and adds others behind. -/
theorem contents_of_perform (hd : d.isWork = false) (h : a.perform d = some b) :
    b.transport.data.contents = a.transport.data.contents.drop d.taken ++ d.written := by
  cases d with
  | work | endControl | endTransfer => cases hd
  | writeData bytes =>
    obtain ⟨data, hwrite, rfl⟩ := Option.map_eq_some_iff.mp h
    exact DataQueue.contents_of_write hwrite
  | readData count =>
    obtain ⟨⟨bytes, c⟩, hread, rfl⟩ := Option.map_eq_some_iff.mp h
    obtain ⟨⟨bytes', data⟩, hdata, heq⟩ := Option.map_eq_some_iff.mp hread
    cases heq
    have hsplit := DataQueue.contents_of_read hdata
    simp [Deed.taken, Deed.written, hsplit, ← DataQueue.length_of_read hdata]
  | setConnected | setDevices | tryReadReply =>
    cases h
    simp [Deed.taken, Deed.written, setConnected, setDevices, Stream.tryReadReply]
  | shutdown channel =>
    cases h
    cases channel <;> simp [Deed.taken, Deed.written, Stream.shutdown, Transport.shutdown]
  | checkErrors =>
    cases h
    unfold Stream.checkErrors
    split <;> simp [Deed.taken, Deed.written]
  | post command =>
    simp only [perform] at h
    split at h <;> cases h
    next hwrite => simp [Deed.taken, Deed.written, data_of_writeCommand hwrite]
  | readReply =>
    simp only [perform] at h
    split at h <;> cases h
    next hread =>
      unfold Stream.readReply at hread
      split at hread <;> cases hread
      simp [Deed.taken, Deed.written]
  | close stage =>
    obtain ⟨⟨stage', c⟩, hclose, rfl⟩ := Option.map_eq_some_iff.mp h
    simp [Deed.taken, Deed.written, data_of_closeStep hclose]

/-- A client that only reads leaves all the room in place. -/
theorem writable_le_of_perform (hrole : d.keepsRole .input = true) (hd : d.isWork = false)
    (h : a.perform d = some b) : a.transport.data.writable ≤ b.transport.data.writable := by
  have hcontents := contents_of_perform hd h
  have hcapacity := (outside_of_perform hd h).capacity
  rw [Deed.written_of_keepsRole hrole, List.append_nil] at hcontents
  have hlength : b.transport.data.contents.length ≤ a.transport.data.contents.length := by
    rw [hcontents, List.length_drop]
    exact Nat.sub_le _ _
  simp only [DataQueue.writable, hcapacity]
  omega

/-- A client that only writes leaves all the bytes in place. -/
theorem readable_le_of_perform (hrole : d.keepsRole .output = true) (hd : d.isWork = false)
    (h : a.perform d = some b) : a.transport.data.readable ≤ b.transport.data.readable := by
  have hcontents := contents_of_perform hd h
  rw [Deed.taken_of_keepsRole hrole, List.drop_zero] at hcontents
  rw [DataQueue.readable, DataQueue.readable, hcontents, List.length_append]
  exact Nat.le_add_right _ _

/-! ## No burst is let down -/

/-- The room and the bytes that the worker has seen are there, and no burst has been let down. -/
structure Provided (s : Stream) : Prop where
  room : ∀ command burst size, s.stage = .handling command (.moving burst size) →
    s.setup.direction = .input → size ≤ s.transport.data.writable
  captured : ∀ command burst m, s.stage = .handling command (.appending burst m) →
    s.setup.direction = .input ∧ m.frames * s.setup.frameSize ≤ s.transport.data.writable
  bytes : ∀ command burst count, s.stage = .handling command (.taking burst count) →
    s.setup.direction = .output ∧ count ≤ s.transport.data.readable
  answered : ∀ reply, s.stage.reply? = some reply → reply.status ≠ .notEnoughData
  sent : ∀ reply ∈ s.transport.replies.items, reply.status ≠ .notEnoughData

/-- No burst is under way, and no reply is at hand. -/
theorem Provided.rest (h : a.Provided) (idle : b.stage.burst? = none) (unanswered : b.stage.reply? = none)
    (replies : b.transport.replies.items = a.transport.replies.items) : b.Provided where
  room command burst size hs := by rw [hs] at idle; cases idle
  captured command burst m hs := by rw [hs] at idle; cases idle
  bytes command burst count hs := by rw [hs] at idle; cases idle
  answered reply hr := by rw [unanswered] at hr; cases hr
  sent := by rw [replies]; exact h.sent

theorem Provided.handled {r : Handled} (h : a.Provided)
    (replies : s.transport.replies.items = a.transport.replies.items)
    (status : r.reply.status ≠ .notEnoughData) : (s.handled command r).Provided := by
  obtain ⟨reports, heq⟩ := s.handled_eq command r
  rw [heq]
  exact {
    room := by rintro _ _ _ ⟨⟩
    captured := by rintro _ _ _ ⟨⟩
    bytes := by rintro _ _ _ ⟨⟩
    answered := by
      rintro _ ⟨⟩
      exact status
    sent := by
      rw [replies]
      exact h.sent }

theorem Provided.acts (h : a.Provided) (hacts : a.Acts b) : b.Provided := by
  cases hacts with
  | resolve m hs =>
    obtain ⟨reports, heq⟩ := a.beginCycle_eq m
    rw [heq]
    exact h.rest rfl rfl rfl
  | arm | take | timeOut | failToRead | leave | failToWrite | shutCommands | shutReplies | stop | call =>
    exact h.rest rfl rfl rfl
  | giveUp hs =>
    obtain ⟨reports, heq⟩ := report_eq { a with stage := .closingCommands } (.queueFailure _)
    rw [heq]
    exact h.rest rfl rfl rfl
  | tell now hs hreact => exact h.handled rfl (Worker.status_react_ne hreact)
  | control now hs result => exact h.handled rfl (Worker.status_afterControl_ne _ _ _ result)
  | begin now hs hreact =>
    exact ⟨by rintro _ _ _ ⟨⟩, by rintro _ _ _ ⟨⟩, by rintro _ _ _ ⟨⟩, by rintro _ ⟨⟩, h.sent⟩
  | size capture hs =>
    refine ⟨?_, by rintro _ _ _ ⟨⟩, by rintro _ _ _ ⟨⟩, by rintro _ ⟨⟩, h.sent⟩
    rintro _ burst _ ⟨⟩ -
    exact Nat.le_trans (Nat.min_le_left _ _) (Nat.min_le_right _ _)
  | look playback hs =>
    refine ⟨by rintro _ _ _ ⟨⟩, by rintro _ _ _ ⟨⟩, ?_, by rintro _ ⟨⟩, h.sent⟩
    rintro _ burst _ ⟨⟩
    exact ⟨playback, Nat.min_le_left _ _⟩
  | fill hs hread =>
    have playback := (h.bytes _ _ _ hs).1
    refine ⟨?_, by rintro _ _ _ ⟨⟩, by rintro _ _ _ ⟨⟩, by rintro _ ⟨⟩, h.sent⟩
    rintro _ _ _ ⟨⟩ capture
    cases playback.symm.trans capture
  | starve now hs hread =>
    have hsome := DataQueue.read_isSome_iff.mpr (h.bytes _ _ _ hs).2
    rw [hread] at hsome
    cases hsome
  | capture capture hs moves =>
    refine ⟨by rintro _ _ _ ⟨⟩, ?_, by rintro _ _ _ ⟨⟩, by rintro _ ⟨⟩, h.sent⟩
    rintro _ _ _ ⟨⟩
    exact ⟨capture, Nat.le_trans moves.frames_mul_le (h.room _ _ _ hs capture)⟩
  | play now playback hs moves => exact h.handled rfl (Worker.status_finishBurst_ne _ _)
  | append now hs hwrite => exact h.handled rfl (Worker.status_finishBurst_ne _ _)
  | @overflow command burst m now hs hwrite =>
    have hroom : (a.worker.movedBytes a.setup m).length ≤ a.transport.data.writable :=
      Nat.le_trans (List.length_take_le _ _) (h.captured _ _ _ hs).2
    have hsome := DataQueue.write_isSome_iff.mpr hroom
    rw [hwrite] at hsome
    cases hsome
  | @reply command reply replies hs hwrite =>
    obtain ⟨-, hitems, -⟩ := MessageQueue.of_write_eq_done hwrite
    refine ⟨by rintro _ _ _ ⟨⟩, by rintro _ _ _ ⟨⟩, by rintro _ _ _ ⟨⟩, by rintro _ ⟨⟩, fun r hr => ?_⟩
    rcases List.mem_append.mp (hitems ▸ hr) with hold | hnew
    · exact h.sent r hold
    · rw [List.mem_singleton.mp hnew]
      exact h.answered reply (by rw [hs]; rfl)

/-- What the client does in its role takes nothing away that the worker has seen. -/
theorem Provided.outside (h : a.Provided) (hrole : d.keepsRole a.setup.direction = true)
    (hd : d.isWork = false) (hp : a.perform d = some b) : b.Provided := by
  have hout := outside_of_perform hd hp
  have hstage := hout.leaves.stage
  have hsetup := hout.leaves.setup
  refine ⟨fun command burst size hs capture => ?room, fun command burst m hs => ?captured,
    fun command burst count hs => ?bytes, fun reply hr => h.answered reply (hstage ▸ hr), fun reply hr => ?sent⟩
  case room =>
    rw [hsetup] at capture
    rw [capture] at hrole
    exact Nat.le_trans (h.room command burst size (hstage ▸ hs) capture) (writable_le_of_perform hrole hd hp)
  case captured =>
    obtain ⟨capture, hle⟩ := h.captured command burst m (hstage ▸ hs)
    rw [capture] at hrole
    rw [hsetup]
    exact ⟨capture, Nat.le_trans hle (writable_le_of_perform hrole hd hp)⟩
  case bytes =>
    obtain ⟨playback, hle⟩ := h.bytes command burst count (hstage ▸ hs)
    rw [playback] at hrole
    rw [hsetup]
    exact ⟨playback, Nat.le_trans hle (readable_le_of_perform hrole hd hp)⟩
  case sent => exact h.sent reply (hout.mem_replies hr)

/-! ## What a burst moves -/

/-- A schedule at the end of which the worker has done with a command, and not before. -/
inductive Finishes : Stream → List Deed → Stream → Prop where
  | last {a b : Stream} {d : Deed} (h : a.perform d = some b) (idle : b.stage.isHandling = false) :
      Finishes a [d] b
  | cons {a b c : Stream} {d : Deed} {deeds : List Deed} (h : a.perform d = some b)
      (busy : b.stage.isHandling = true) (rest : Finishes b deeds c) : Finishes a (d :: deeds) c

/-- What a burst moves that looks at the data queue of a stream, by what the driver says in the schedule that
follows. -/
def outcome (a : Stream) (burst : Burst) (deeds : List Deed) : Moved :=
  .ofResult (a.setup.frames (a.setup.burstSize burst.bytes a.transport.data)) (deeds.findSome? Deed.result?)

/-- How many bytes the client has read from the data queue. -/
def takenIn : List Deed → Nat
  | [] => 0
  | d :: deeds => d.taken + takenIn deeds

/-- The bytes that the client has written to the data queue. -/
def writtenIn (deeds : List Deed) : List UInt8 := deeds.flatMap Deed.written

/-- A burst that has looked at the data queue of a stream is not over after the schedule that follows. -/
inductive Underway (a : Stream) (command : Command) (burst : Burst) (deeds : List Deed) (x : Stream) :
    Prop where
  | sized (capture : a.setup.direction = .input)
      (stage : x.stage =
        .handling command (.moving burst (a.setup.captureSize burst.bytes a.transport.data.writable)))
      (silent : deeds.findSome? Deed.result? = none)
      (contents : x.transport.data.contents = a.transport.data.contents.drop (takenIn deeds))
  | captured (capture : a.setup.direction = .input)
      (stage : x.stage = .handling command (.appending burst (a.outcome burst deeds)))
      (contents : x.transport.data.contents = a.transport.data.contents.drop (takenIn deeds))
  | seen (playback : a.setup.direction = .output)
      (stage : x.stage =
        .handling command (.taking burst (a.setup.playbackTake a.transport.data.readable)))
      (silent : deeds.findSome? Deed.result? = none)
      (contents : x.transport.data.contents = a.transport.data.contents ++ writtenIn deeds)
  | filled (playback : a.setup.direction = .output)
      (stage : x.stage = .handling command (.moving burst
        (a.setup.playbackSize burst.bytes (a.setup.playbackTake a.transport.data.readable))))
      (silent : deeds.findSome? Deed.result? = none)
      (contents : x.transport.data.contents =
        a.transport.data.contents.drop (a.setup.playbackTake a.transport.data.readable) ++ writtenIn deeds)

/-- A burst that has looked at the data queue of a stream is over after the schedule that follows. It has moved
what it has seen and what the driver says come to, and the client has what it has read and written. -/
structure Delivered (a : Stream) (command : Command) (burst : Burst) (deeds : List Deed) (c : Stream) :
    Prop where
  reply : ∃ reply, c.stage = .replying command reply ∧ reply.status = .ok ∧
    reply.byteCount = Worker.reportedBytes ((a.outcome burst deeds).frames * a.setup.frameSize) ∧
    reply.latency = (a.outcome burst deeds).latency
  count : c.worker.frameCount = a.worker.frameCount + Int64.ofNat (a.outcome burst deeds).frames
  captured : a.setup.direction = .input →
    (c.worker.movedBytes a.setup (a.outcome burst deeds)).length =
      (a.outcome burst deeds).frames * a.setup.frameSize ∧
    c.transport.data.contents = a.transport.data.contents.drop (takenIn deeds) ++
      c.worker.movedBytes a.setup (a.outcome burst deeds)
  played : a.setup.direction = .output →
    c.transport.data.contents =
      a.transport.data.contents.drop (a.setup.playbackTake a.transport.data.readable) ++ writtenIn deeds

/-- What goes on in a stream after a burst has looked at its data queue. -/
structure Since (a x : Stream) : Prop where
  setup : x.setup = a.setup
  frameCount : x.worker.frameCount = a.worker.frameCount
  sized : x.Sized
  provided : x.Provided

@[simp] theorem takenIn_append (deeds more : List Deed) :
    takenIn (deeds ++ more) = takenIn deeds + takenIn more := by
  induction deeds with
  | nil => exact (Nat.zero_add _).symm
  | cons d deeds ih => rw [List.cons_append, takenIn, takenIn, ih, Nat.add_assoc]

@[simp] theorem writtenIn_append (deeds more : List Deed) :
    writtenIn (deeds ++ more) = writtenIn deeds ++ writtenIn more := by
  simp [writtenIn]

theorem takenIn_work (hd : d.isWork = true) : takenIn [d] = 0 := by
  cases d <;> first | rfl | cases hd

theorem writtenIn_work (hd : d.isWork = true) : writtenIn [d] = [] := by
  cases d <;> first | rfl | cases hd

theorem result?_of_not_work (hd : d.isWork = false) : d.result? = none := by
  cases d <;> first | rfl | cases hd

/-! The three steps of the worker in a burst that has looked at the data queue. -/

theorem perform_taking {count : Nat} (hs : x.stage = .handling command (.taking burst count))
    (hcount : count ≤ x.transport.data.readable) (hd : d.isWork = true) (h : x.perform d = some y) :
    d.result? = none ∧ ∃ bytes data, x.transport.data.read count = some (bytes, data) ∧
      y = { x with
        worker := x.worker.fill bytes
        transport := { x.transport with data }
        stage := .handling command (.moving burst (x.setup.playbackSize burst.bytes count)) } := by
  obtain ⟨⟨bytes, data⟩, hread⟩ := Option.isSome_iff_exists.mp (DataQueue.read_isSome_iff.mpr hcount)
  cases d with
  | work m =>
    simp only [perform, step, hs, continueTask, hread] at h
    cases h
    exact ⟨rfl, bytes, data, hread, rfl⟩
  | endControl m result => simp [perform, answerControl, hs] at h
  | endTransfer m answer => simp [perform, answerTransfer, hs] at h
  | _ => cases hd

theorem perform_moving {size : Nat} (hs : x.stage = .handling command (.moving burst size))
    (hd : d.isWork = true) (h : x.perform d = some y) :
    ∃ m moved, x.Moves burst size moved ∧ moved.2 = .ofResult (x.setup.frames size) d.result? ∧
      y = x.afterMoving m command burst moved := by
  cases d with
  | work m =>
    simp only [perform, step, hs, continueTask] at h
    split at h <;> cases h
    next hconnected =>
      exact ⟨m, _, .silent (by simpa using hconnected), x.worker.moved_withoutDevice x.setup size, rfl⟩
  | endControl m result => simp [perform, answerControl, hs] at h
  | endTransfer m answer =>
    simp only [perform, answerTransfer, hs] at h
    split at h <;> cases h
    next hconnected => exact ⟨m, _, .answered hconnected answer, rfl, rfl⟩
  | _ => cases hd

theorem perform_appending {m : Moved} (hs : x.stage = .handling command (.appending burst m))
    (hroom : (x.worker.movedBytes x.setup m).length ≤ x.transport.data.writable) (hd : d.isWork = true)
    (h : x.perform d = some y) :
    d.result? = none ∧ ∃ now data, x.transport.data.write (x.worker.movedBytes x.setup m) = some data ∧
      y = handled { x with transport := { x.transport with data } } command
        (x.worker.finishBurst x.setup now burst m true) := by
  obtain ⟨data, hwrite⟩ := Option.isSome_iff_exists.mp (DataQueue.write_isSome_iff.mpr hroom)
  cases d with
  | work moment =>
    simp only [perform, step, hs, continueTask, hwrite] at h
    cases h
    exact ⟨rfl, moment.now, data, hwrite, rfl⟩
  | endControl m result => simp [perform, answerControl, hs] at h
  | endTransfer m answer => simp [perform, answerTransfer, hs] at h
  | _ => cases hd

theorem findSome?_snoc (deeds : List Deed) (d : Deed) :
    (deeds ++ [d]).findSome? Deed.result? = (deeds.findSome? Deed.result?).or d.result? := by
  rw [List.findSome?_append]
  cases hd : d.result? <;> simp [hd]

theorem outcome_of_quiet (burst : Burst) (deeds : List Deed) (h : d.result? = none) :
    a.outcome burst (deeds ++ [d]) = a.outcome burst deeds := by
  rw [outcome, outcome, findSome?_snoc, h, Option.or_none]

theorem outcome_of_silent {deeds : List Deed} (h : deeds.findSome? Deed.result? = none) :
    a.outcome burst (deeds ++ [d]) =
      .ofResult (a.setup.frames (a.setup.burstSize burst.bytes a.transport.data)) d.result? := by
  rw [outcome, findSome?_snoc, h, Option.none_or]

/-- What the client does in its role changes the data queue and nothing else of a burst. -/
theorem Underway.outside {deeds : List Deed} (h : a.Underway command burst deeds x)
    (hrole : d.keepsRole a.setup.direction = true) (hd : d.isWork = false) (hp : x.perform d = some y) :
    a.Underway command burst (deeds ++ [d]) y := by
  have hstage := (outside_of_perform hd hp).leaves.stage
  have hcontents := contents_of_perform hd hp
  have hquiet := result?_of_not_work hd
  have hsilent (h : deeds.findSome? Deed.result? = none) : (deeds ++ [d]).findSome? Deed.result? = none := by
    rw [findSome?_snoc, h, hquiet, Option.or_none]
  have htaken (hin : a.setup.direction = .input)
      (h : x.transport.data.contents = a.transport.data.contents.drop (takenIn deeds)) :
      y.transport.data.contents = a.transport.data.contents.drop (takenIn (deeds ++ [d])) := by
    rw [hcontents, h, Deed.written_of_keepsRole (hin ▸ hrole), List.append_nil, List.drop_drop]
    simp [takenIn]
  have hwritten (hout : a.setup.direction = .output) {bytes : List UInt8}
      (h : x.transport.data.contents = bytes ++ writtenIn deeds) :
      y.transport.data.contents = bytes ++ writtenIn (deeds ++ [d]) := by
    rw [hcontents, h, Deed.taken_of_keepsRole (hout ▸ hrole), List.drop_zero, List.append_assoc]
    simp [writtenIn]
  cases h with
  | sized capture stage silent contents =>
    exact .sized capture (hstage.trans stage) (hsilent silent) (htaken capture contents)
  | captured capture stage contents =>
    rw [← outcome_of_quiet burst deeds hquiet] at stage
    exact .captured capture (hstage.trans stage) (htaken capture contents)
  | seen playback stage silent contents =>
    exact .seen playback (hstage.trans stage) (hsilent silent) (hwritten playback contents)
  | filled playback stage silent contents =>
    exact .filled playback (hstage.trans stage) (hsilent silent) (hwritten playback contents)

/-- The end of a burst that has moved what it should. -/
theorem Since.delivers {deeds : List Deed} {w : Worker} {now : Nat} (since : Since a x)
    (hframes : w.frameCount = x.worker.frameCount)
    (hmoved : a.outcome burst deeds = m)
    (captured : a.setup.direction = .input → (w.movedBytes a.setup m).length = m.frames * a.setup.frameSize ∧
      s.transport.data.contents = a.transport.data.contents.drop (takenIn deeds) ++ w.movedBytes a.setup m)
    (played : a.setup.direction = .output → s.transport.data.contents =
      a.transport.data.contents.drop (a.setup.playbackTake a.transport.data.readable) ++ writtenIn deeds) :
    a.Delivered command burst deeds (s.handled command (w.finishBurst x.setup now burst m true)) := by
  obtain ⟨reports, heq⟩ := s.handled_eq command (w.finishBurst x.setup now burst m true)
  rw [heq]
  subst hmoved
  have hbuffer : (w.finishBurst x.setup now burst (a.outcome burst deeds) true).worker.movedBytes a.setup
      (a.outcome burst deeds) = w.movedBytes a.setup (a.outcome burst deeds) := by
    rw [Worker.movedBytes, Worker.buffer_finishBurst, Worker.movedBytes]
  refine ⟨⟨_, rfl, ?_, ?_, ?_⟩, ?_, ?_, played⟩
  · simp [Handled.answer, Worker.reply_finishBurst]
  · simp [Handled.answer, Worker.reply_finishBurst, since.setup]
  · simp [Handled.answer, Worker.reply_finishBurst]
  · rw [Worker.frameCount_finishBurst, hframes, since.frameCount]
  · intro capture
    rw [hbuffer]
    exact captured capture

/-- A step of the worker takes a burst on, or ends it. -/
theorem Underway.works {deeds : List Deed} (h : a.Underway command burst deeds x) (since : Since a x)
    (hd : d.isWork = true) (hp : x.perform d = some y) :
    a.Underway command burst (deeds ++ [d]) y ∧ y.worker.frameCount = a.worker.frameCount ∨
      a.Delivered command burst (deeds ++ [d]) y := by
  have htaken : takenIn (deeds ++ [d]) = takenIn deeds := by rw [takenIn_append, takenIn_work hd, Nat.add_zero]
  have hwritten : writtenIn (deeds ++ [d]) = writtenIn deeds := by
    rw [writtenIn_append, writtenIn_work hd, List.append_nil]
  cases h with
  | sized capture stage silent contents =>
    obtain ⟨m, moved, moves, hmoved, rfl⟩ := perform_moving stage hd hp
    have hin : x.setup.direction = .input := by rw [since.setup, capture]
    simp only [afterMoving, hin]
    refine .inl ⟨.captured capture ?_ (htaken ▸ contents), moves.frameCount.trans since.frameCount⟩
    rw [outcome_of_silent silent, hmoved, since.setup, Setup.burstSize, capture]
  | captured capture stage contents =>
    obtain ⟨-, hroom⟩ := since.provided.captured _ _ _ stage
    have hused : (a.outcome burst deeds).frames * x.setup.frameSize ≤ x.setup.bufferSize :=
      since.sized.used _ _ stage
    have hlength : (x.worker.movedBytes x.setup (a.outcome burst deeds)).length =
        (a.outcome burst deeds).frames * x.setup.frameSize := by
      rw [Worker.movedBytes, List.length_take, since.sized.buffer, Nat.min_eq_left hused]
    obtain ⟨hquiet, now, data, hwrite, rfl⟩ := perform_appending stage (hlength ▸ hroom) hd hp
    refine .inr (since.delivers rfl (outcome_of_quiet burst deeds hquiet) (fun _ => ?_) fun playback => ?_)
    · rw [htaken, ← contents, ← since.setup]
      exact ⟨hlength, DataQueue.contents_of_write hwrite⟩
    · cases capture.symm.trans playback
  | seen playback stage silent contents =>
    obtain ⟨-, hcount⟩ := since.provided.bytes _ _ _ stage
    obtain ⟨hquiet, bytes, data, hread, rfl⟩ := perform_taking stage hcount hd hp
    refine .inl ⟨.filled playback ?_ ?_ ?_, since.frameCount⟩
    · rw [since.setup]
    · rw [findSome?_snoc, silent, hquiet, Option.or_none]
    · have hseen : a.setup.playbackTake a.transport.data.readable ≤ a.transport.data.contents.length :=
        Nat.min_le_left _ _
      have hsplit := DataQueue.contents_of_read hread
      have hlength := DataQueue.length_of_read hread
      change data.contents = _
      rw [hwritten, ← List.drop_append_of_le_length hseen, ← contents, hsplit, ← hlength, List.drop_left]
  | filled playback stage silent contents =>
    obtain ⟨m, moved, moves, hmoved, rfl⟩ := perform_moving stage hd hp
    have hout : x.setup.direction = .output := by rw [since.setup, playback]
    simp only [afterMoving, hout]
    refine .inr (since.delivers moves.frameCount ?_ (fun capture => ?_) fun _ => ?_)
    · rw [outcome_of_silent silent, hmoved, since.setup, Setup.burstSize, playback]
    · cases playback.symm.trans capture
    · rw [hwritten, ← contents]

/-! ## Runs -/

theorem Provided.perform (h : a.Provided) (hrole : d.keepsRole a.setup.direction = true)
    (hp : a.perform d = some b) : b.Provided := by
  cases hd : d.isWork with
  | true => exact h.acts (acts_of_works (works_of_perform hd hp))
  | false => exact h.outside hrole hd hp

theorem provided_opened {config : StreamConfig} {debug : DebugParameters} {notifies : Bool} {t : Transport}
    (h : Transport.configure config debug notifies = .ok t) (direction : Direction) (cookie : Int32)
    (microphones : List (Device × String)) : (Stream.opened direction t cookie microphones).Provided where
  room := by rintro _ _ _ ⟨⟩
  captured := by rintro _ _ _ ⟨⟩
  bytes := by rintro _ _ _ ⟨⟩
  answered := by rintro _ ⟨⟩
  sent := by
    have hreplies : (Stream.opened direction t cookie microphones).transport.replies = .single :=
      (Transport.isFresh_of_configure h).replies_eq
    intro reply hr
    rw [hreplies] at hr
    cases hr

theorem Since.perform (since : Since a x) (hrole : d.keepsRole a.setup.direction = true)
    (hp : x.perform d = some y) (hcount : y.worker.frameCount = a.worker.frameCount) : Since a y where
  setup := (setup_of_step (exists_perform_iff.mp ⟨d, hp⟩)).trans since.setup
  frameCount := hcount
  sized := sized_step since.sized (exists_perform_iff.mp ⟨d, hp⟩)
  provided := since.provided.perform (since.setup ▸ hrole) hp

theorem Underway.isHandling {deeds : List Deed} (h : a.Underway command burst deeds x) :
    x.stage.isHandling = true := by
  cases h with
  | sized _ stage | captured _ stage | seen _ stage | filled _ stage => rw [stage]; rfl

theorem Underway.perform {deeds : List Deed} (h : a.Underway command burst deeds x) (since : Since a x)
    (hrole : d.keepsRole a.setup.direction = true) (hp : x.perform d = some y) :
    a.Underway command burst (deeds ++ [d]) y ∧ Since a y ∨ a.Delivered command burst (deeds ++ [d]) y := by
  cases hd : d.isWork with
  | true =>
    rcases h.works since hd hp with ⟨hunder, hcount⟩ | hdelivered
    · exact .inl ⟨hunder, since.perform hrole hp hcount⟩
    · exact .inr hdelivered
  | false =>
    have hworker := (outside_of_perform hd hp).leaves.worker
    exact .inl ⟨h.outside hrole hd hp,
      since.perform hrole hp ((congrArg Worker.frameCount hworker).trans since.frameCount)⟩

theorem Delivered.isHandling {deeds : List Deed} (h : a.Delivered command burst deeds x) :
    x.stage.isHandling = false := by
  obtain ⟨reply, hstage, -⟩ := h.reply
  rw [hstage]
  rfl

theorem Underway.finishes {before deeds : List Deed} (h : a.Underway command burst before x)
    (since : Since a x) (roles : ∀ d ∈ deeds, d.keepsRole a.setup.direction = true)
    (hf : x.Finishes deeds y) : a.Delivered command burst (before ++ deeds) y := by
  induction hf generalizing before with
  | last hp idle =>
    rcases h.perform since (roles _ List.mem_cons_self) hp with ⟨hunder, -⟩ | hdelivered
    · rw [hunder.isHandling] at idle
      cases idle
    · exact hdelivered
  | @cons x z y d deeds hp busy rest ih =>
    rcases h.perform since (roles _ List.mem_cons_self) hp with ⟨hunder, hsince⟩ | hdelivered
    · have hrest := ih hunder hsince fun d hd => roles d (List.mem_cons_of_mem _ hd)
      rwa [List.append_assoc] at hrest
    · rw [hdelivered.isHandling] at busy
      cases busy

/-- A burst looks at the data queue. -/
theorem underway_of_look {m : Moment} (sized : a.Sized) (provided : a.Provided)
    (hs : a.stage = .handling command (.looking burst)) (h : a.step m = some b) :
    a.Underway command burst [] b ∧ Since a b := by
  have hworks : a.Works b := .step m h
  have hsized := sized_step sized (.inl hworks)
  have hprovided := provided.acts (acts_of_works hworks)
  simp only [step, hs, continueTask] at h
  split at h <;> cases h
  next hd =>
    exact ⟨.sized hd rfl rfl rfl, rfl, rfl, hsized, hprovided⟩
  next hd =>
    exact ⟨.seen hd rfl rfl (List.append_nil _).symm, rfl, rfl, hsized, hprovided⟩

theorem of_follow {deeds : List Deed} (sized : a.Sized) (provided : a.Provided)
    (roles : ∀ d ∈ deeds, d.keepsRole a.setup.direction = true) (h : a.follow deeds = some b) :
    b.Sized ∧ b.Provided ∧ b.setup = a.setup := by
  induction deeds generalizing a with
  | nil =>
    cases h
    exact ⟨sized, provided, rfl⟩
  | cons d deeds ih =>
    obtain ⟨c, hc, hrest⟩ := Option.bind_eq_some_iff.mp h
    have hstep := exists_perform_iff.mp ⟨d, hc⟩
    have hsetup : c.setup = a.setup := setup_of_step hstep
    obtain ⟨hsized, hprovided, hrest'⟩ := ih (sized_step sized hstep)
      (provided.perform (roles d List.mem_cons_self) hc)
      (fun d hd => hsetup ▸ roles d (List.mem_cons_of_mem _ hd)) hrest
    exact ⟨hsized, hprovided, hrest'.trans hsetup⟩

/-- As long as the client keeps its role and the driver leaves the data queue alone, no reply says that the
queue has let a burst down. From the look of a burst at the queue to its end, what it moves is what it has
seen and what the driver says come to, whatever the client does meanwhile. -/
theorem bursts_of_roles {config : StreamConfig} {debug : DebugParameters} {notifies : Bool} {t : Transport}
    (h : Transport.configure config debug notifies = .ok t) (direction : Direction) (cookie : Int32)
    (microphones : List (Device × String)) :
    let opened := Stream.opened direction t cookie microphones
    (∀ deeds s, (∀ d ∈ deeds, d.keepsRole direction = true) → opened.follow deeds = some s →
      (∀ command reply, s.stage = .replying command reply → reply.status ≠ .notEnoughData) ∧
        ∀ reply ∈ s.transport.replies.items, reply.status ≠ .notEnoughData) ∧
    ∀ before a command burst m b deeds c, (∀ d ∈ before ++ deeds, d.keepsRole direction = true) →
      opened.follow before = some a → a.stage = .handling command (.looking burst) → a.step m = some b →
        b.Finishes deeds c → a.Delivered command burst deeds c := by
  intro opened
  have hsized := sized_opened direction t cookie microphones
  have hprovided := provided_opened h direction cookie microphones
  refine ⟨fun deeds s roles hs => ?_, fun before a command burst m b deeds c roles ha hstage hlook hf => ?_⟩
  · obtain ⟨-, provided, -⟩ := of_follow hsized hprovided roles hs
    exact ⟨fun command reply hreply => provided.answered reply (by rw [hreply]; rfl), provided.sent⟩
  · obtain ⟨sized, provided, hsetup⟩ :=
      of_follow hsized hprovided (fun d hd => roles d (List.mem_append_left _ hd)) ha
    obtain ⟨hunder, since⟩ := underway_of_look sized provided hstage hlook
    have hdirection : a.setup.direction = direction := by rw [hsetup]; rfl
    exact hunder.finishes since (fun d hd => hdirection ▸ roles d (List.mem_append_right _ hd)) hf

/-- A client writes eight bytes and asks for sixteen to be played. The worker is about to look at the queue. -/
def asksForMore : List Deed :=
  [.setConnected true, .post .start, .work { now := 0 }, .work { now := 0 }, .work { now := 0 },
    .work { now := 0 }, .work { now := 0 }, .tryReadReply, .writeData [1, 2, 3, 4, 5, 6, 7, 8],
    .post (.burst 16), .work { now := 0 }, .work { now := 0 }, .work { now := 0 }, .work { now := 0 }]

/-- The client writes four more bytes before the worker takes those that it has seen, and eight while the driver
plays them. -/
def writesMeanwhile : List Deed :=
  [.writeData [9, 10, 11, 12], .work { now := 0 }, .writeData [13, 14, 15, 16, 17, 18, 19, 20],
    .endTransfer { now := 0 } ⟨[], .ok ⟨7, 5⟩⟩]

theorem bursts_of_roles_writesMeanwhile :
    Transport.configure { bufferFrames := 256 } {} false = .ok .small ∧
    (∀ d ∈ asksForMore ++ writesMeanwhile, d.keepsRole .output = true) ∧
    ∃ a b c, (Stream.opened .output .small 7 []).follow asksForMore = some a ∧
      a.stage = .handling (.burst 16) (.looking ⟨16, true⟩) ∧ a.step { now := 0 } = some b ∧
      b.Finishes writesMeanwhile c ∧ a.Delivered (.burst 16) ⟨16, true⟩ writesMeanwhile c ∧
      (a.outcome ⟨16, true⟩ writesMeanwhile).frames = 2 ∧
      c.transport.data.contents = [9, 10, 11, 12, 13, 14, 15, 16, 17, 18, 19, 20] := by
  have roles : ∀ d ∈ asksForMore ++ writesMeanwhile, d.keepsRole .output = true := by
    simp [asksForMore, writesMeanwhile, Deed.keepsRole]
  obtain ⟨a, b, c, ha, hstage, hlook, hf, hframes, hcontents⟩ : ∃ a b c,
      (Stream.opened .output .small 7 []).follow asksForMore = some a ∧
      a.stage = .handling (.burst 16) (.looking ⟨16, true⟩) ∧ a.step { now := 0 } = some b ∧
      b.Finishes writesMeanwhile c ∧ (a.outcome ⟨16, true⟩ writesMeanwhile).frames = 2 ∧
      c.transport.data.contents = [9, 10, 11, 12, 13, 14, 15, 16, 17, 18, 19, 20] :=
    ⟨_, _, _, rfl, rfl, rfl, .cons rfl rfl (.cons rfl rfl (.cons rfl rfl (.last rfl rfl))), rfl, rfl⟩
  obtain ⟨-, hdelivers⟩ := bursts_of_roles Transport.configure_small .output 7 []
  exact ⟨Transport.configure_small, roles, a, b, c, ha, hstage, hlook, hf,
    hdelivers asksForMore a (.burst 16) ⟨16, true⟩ { now := 0 } b writesMeanwhile c roles ha hstage hlook hf,
    hframes, hcontents⟩

end Stream

end AudioStream
