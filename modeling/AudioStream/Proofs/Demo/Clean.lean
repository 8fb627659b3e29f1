import AudioStream.Proofs.Demo.Script

/-!
# Scripts that run clean

Whatever a stream is configured with, both scripts run to their end. The capture script always finds room,
and the playback script finds the data queue empty before each burst, although a quarter of the buffer need
not be whole frames. The drain at the end of the playback script is over before the script loses patience.

The main statement is `Demo.runs_clean`.
-/

namespace AudioStream

namespace Demo

variable {t : Transport} {d : Demo} {seed : UInt32}

theorem at_initial (direction : Direction) (fresh : t.IsFresh) (seed : UInt32) :
    (initial direction t seed).At t direction ⟨.standby, 0, 0⟩ where
  setup := rfl
  driver := Stub.serves_ofTransport t _ seed
  fits := Bench.fits_initial t direction 0
  state := rfl
  frames := rfl
  granted := trivial
  queued := congrArg List.length fresh.data_empty
  sound := by
    refine ⟨?_, by decide⟩
    rw [Nat.zero_add]
    exact t.quarter_le

/-! ## Capture -/

/-- What the capture script shows up to the given burst of its first ones: after each the position is one
quarter further. -/
def fetchOutlines (t : Transport) (made : Nat) : List Outline :=
  let position (n : Nat) : Int := (t.quarterFrames * n : Nat)
  [{ command := .getStatus, state := .standby, frames := position 0 },
    { command := .start, state := .idle, frames := position 0 }] ++
  (List.range made).map fun i =>
    { command := .burst (Int32.ofNat t.quarter), state := .active
      bytes := (t.quarterFrames * t.frameSize : Nat), frames := position (i + 1) }

/-- What the capture script shows. -/
def captureOutlines (t : Transport) : List Outline :=
  let burst : Command := .burst (Int32.ofNat t.quarter)
  let bytes : Nat := t.quarterFrames * t.frameSize
  let position (n : Nat) : Int := (t.quarterFrames * n : Nat)
  fetchOutlines t bursts ++
  [{ command := .pause, state := .paused, frames := position 8 },
    { command := .flush, state := .standby, frames := position 8 },
    { command := .start, state := .idle, frames := position 8 },
    { command := burst, state := .active, bytes, frames := position 9 },
    { command := .drain .unspecified, state := .draining, frames := position 9 },
    { command := burst, state := .standby, bytes, frames := position 10 },
    { command := .getStatus, state := .standby, frames := position 10 }]

/-- After some bursts of a capture script, the last ones of which the client has not read. -/
def capturing (t : Transport) (state : State) (made unread : Nat) : Scene :=
  ⟨state, t.quarterFrames * made, t.quarterFrames * t.frameSize * unread⟩

section Capture

variable (fresh : t.IsFresh) (hfast : (Stub.ofTransport t true seed).transferTime t.quarterFrames < patience)

include fresh

theorem sound_capturing (state : State) {made unread : Nat} (hmade : made ≤ 10) (hunread : unread ≤ 3) :
    (capturing t state made unread).Sound t where
  room :=
    calc t.quarterFrames * t.frameSize * unread + t.quarter
        ≤ t.quarter * 3 + t.quarter :=
          Nat.add_le_add_right (Nat.mul_le_mul t.quarterFrames_mul_le hunread) _
      _ = 4 * t.quarter := by omega
      _ ≤ t.data.capacity := Nat.mul_div_le _ _
  countable :=
    calc t.quarterFrames * made ≤ t.quarter * 10 := Nat.mul_le_mul (Nat.div_le_self _ _) hmade
      _ < 2 ^ 31 * 10 := Nat.mul_lt_mul_of_pos_right fresh.quarter_lt (by decide)
      _ < 2 ^ 63 := by decide

include hfast

theorem leads_capture {state : State} (hmoves : (Setup.ofTransport t .input 0).moves state = true)
    {made unread : Nat} (hmade : made < 10) (hunread : unread < 3) :
    Leads t .input (capturing t state made unread) (.burst (Int32.ofNat t.quarter))
      (t.quarterFrames * t.frameSize) (capturing t (Capture.burstTo state) (made + 1) (unread + 1)) := by
  intro d hd
  refine hd.capture fresh (hd.setup ▸ hmoves) ?_ (sound_capturing fresh _ hmade hunread)
  rw [hd.driver.transferTime true seed]
  exact hfast

/-- The client reads all that a burst has brought. -/
theorem shows_fetch {state : State} (hmoves : (Setup.ofTransport t .input 0).moves state = true) {made : Nat}
    (hmade : made < 10) :
    Shows t .input (fetch (.burst (Int32.ofNat t.quarter))) (capturing t state made 0)
      ((capturing t (Capture.burstTo state) (made + 1) 1).outline (.burst (Int32.ofNat t.quarter))
        (t.quarterFrames * t.frameSize))
      (capturing t (Capture.burstTo state) (made + 1) 0) := by
  have hall : t.quarterFrames * t.frameSize * 1 = t.quarterFrames * t.frameSize := Nat.mul_one _
  have hfetch := (leads_capture fresh hfast hmoves hmade (by decide)).fetch (Nat.le_of_eq hall.symm)
  have hread : ({ capturing t (Capture.burstTo state) (made + 1) 1 with
      queued := t.quarterFrames * t.frameSize * 1 - t.quarterFrames * t.frameSize } : Scene) =
      capturing t (Capture.burstTo state) (made + 1) 0 := by
    rw [hall, Nat.sub_self]
    rfl
  exact hread ▸ hfetch

/-- The script looks at the stream, starts it, and makes some bursts. -/
theorem plays_fetches {n : Nat} (hn : n ≤ bursts) :
    Plays t .input ([say .getStatus, say .start] ++ List.replicate n (fetch (.burst (Int32.ofNat t.quarter))))
      (capturing t .standby 0 0) (fetchOutlines t n) (capturing t (if n = 0 then .idle else .active) n 0) := by
  have told : Shows t .input (say .getStatus) (capturing t .standby 0 0) _ (capturing t .standby 0 0) :=
    Leads.say fun d hd => hd.look_of_steady (.inl rfl)
  have started : Shows t .input (say .start) (capturing t .standby 0 0) _ (capturing t .idle 0 0) :=
    Leads.say fun d hd => hd.move (.inl rfl) rfl
  have fetched (i : Nat) (hi : i < n) : Shows t .input (fetch (.burst (Int32.ofNat t.quarter)))
      (capturing t (if i = 0 then .idle else .active) i 0)
      ((capturing t .active (i + 1) 1).outline (.burst (Int32.ofNat t.quarter)) (t.quarterFrames * t.frameSize))
      (capturing t (if i + 1 = 0 then .idle else .active) (i + 1) 0) := by
    have hmade : i < 10 := Nat.lt_of_lt_of_le hi (Nat.le_trans hn (by decide))
    cases i with
    | zero => exact shows_fetch fresh hfast rfl hmade
    | succ i => exact shows_fetch fresh hfast rfl hmade
  exact (Plays.cons told (.cons started (.nil _))).append
    (Plays.replicate (fun i => capturing t (if i = 0 then .idle else .active) i 0) n fetched)

theorem plays_capture : Plays t .input (captureScript t.quarter) (capturing t .standby 0 0)
    (captureOutlines t) (capturing t .standby 10 2) := by
  let burst : Command := .burst (Int32.ofNat t.quarter)
  have paused : Shows t .input (say .pause) (capturing t .active 8 0) _ (capturing t .paused 8 0) :=
    Leads.say fun d hd => hd.control (.inl rfl) rfl
  have flushed : Shows t .input (say .flush) (capturing t .paused 8 0) _ (capturing t .standby 8 0) :=
    Leads.say fun d hd => hd.control (.inl rfl) rfl
  have started : Shows t .input (say .start) (capturing t .standby 8 0) _ (capturing t .idle 8 0) :=
    Leads.say fun d hd => hd.move (.inl rfl) rfl
  have resumed : Shows t .input (say burst) (capturing t .idle 8 0) _ (capturing t .active 9 1) :=
    (leads_capture fresh hfast rfl (by decide) (by decide)).say
  have drained : Shows t .input (say (.drain .unspecified)) (capturing t .active 9 1) _
      (capturing t .draining 9 1) :=
    Leads.say fun d hd => hd.control (.inl rfl) rfl
  have emptied : Shows t .input (say burst) (capturing t .draining 9 1) _ (capturing t .standby 10 2) :=
    (leads_capture fresh hfast rfl (by decide) (by decide)).say
  have told : Shows t .input (say .getStatus) (capturing t .standby 10 2) _ (capturing t .standby 10 2) :=
    Leads.say fun d hd => hd.look_of_steady (.inl rfl)
  exact (plays_fetches fresh hfast (Nat.le_refl bursts)).append (.cons paused (.cons flushed (.cons started
    (.cons resumed (.cons drained (.cons emptied (.cons told (.nil _))))))))

/-- After each of the first bursts the client goes to read what it has brought. -/
theorem fetched_of_follow (hinitial : d.At t .input (capturing t .standby 0 0)) {i : Nat} (hi : i < bursts) :
    ∃ d', follow ((captureScript t.quarter).take (i + 3)) d = .ok d' ∧
      d'.owed = [.read (t.quarterFrames * t.frameSize)] ∧ d'.bench.data.Grants d'.owed := by
  let burst : Command := .burst (Int32.ofNat t.quarter)
  have htake : (captureScript t.quarter).take (i + 3) =
      [say .getStatus, say .start] ++ List.replicate i (fetch burst) ++ [fetch burst] := by
    have hlength : i + 3 ≤ ([say .getStatus, say .start] ++ List.replicate bursts (fetch burst)).length := by
      rw [List.length_append, List.length_replicate]
      exact Nat.le_trans (Nat.add_le_add_right hi 2) (Nat.le_of_eq (Nat.add_comm _ _))
    have hbursts : (List.replicate bursts (fetch burst)).take (i + 1) =
        List.replicate i (fetch burst) ++ [fetch burst] := by
      rw [List.take_replicate, Nat.min_eq_left hi, List.replicate_succ']
    rw [captureScript, List.take_append_of_le_length hlength, List.append_assoc, ← hbursts]
    rfl
  obtain ⟨mid, -, hfollow, hmid, -⟩ := (plays_fetches fresh hfast (Nat.le_of_lt hi)).follow_eq hinitial
  have hmoves : (Setup.ofTransport t .input 0).moves (if i = 0 then .idle else .active) = true := by
    cases i <;> rfl
  have hunread : 0 < 3 := by decide
  have hleads := leads_capture fresh hfast hmoves (Nat.lt_of_lt_of_le hi (by decide)) hunread
  obtain ⟨d', -, hfetch, howed, hat, -⟩ := hleads.fetch_eq (Nat.le_of_eq (Nat.mul_one _).symm) hmid
  refine ⟨d', ?_, howed, hat.granted⟩
  rw [htake, follow, List.foldlM_append]
  change follow _ d >>= follow [fetch burst] = _
  rw [hfollow]
  change fetch burst mid >>= _ = _
  rw [hfetch]
  rfl

end Capture

/-! ## Playback -/

/-- What the playback script shows up to its end. -/
def playbackOutlines (t : Transport) : List Outline :=
  let burst : Command := .burst (Int32.ofNat t.quarter)
  let bytes : Nat := t.playedFrames * t.frameSize
  let position (n : Nat) : Int := (t.playedFrames * n : Nat)
  [{ command := burst, state := .paused, bytes, frames := position 1 },
    { command := .start, state := .active, frames := position 1 }] ++
  (List.range bursts).map (fun i =>
    { command := burst, state := .active, bytes, frames := position (i + 2) })

/-- What the end of the playback script shows if it looks at the stream that many times too early. -/
def drainOutlines (t : Transport) (early : Nat) : List Outline :=
  let position : Int := (t.playedFrames * 9 : Nat)
  let look (state : State) : Outline := { command := .getStatus, state, frames := position }
  (if t.debug.synchronousDrain then [{ command := .drain .all, state := .idle, frames := position }]
    else { command := .drain .all, state := .draining, frames := position } ::
      (List.replicate early (look .draining) ++ [look .idle])) ++
  [{ command := .standby, state := .standby, frames := position }]

/-- After some bursts of a playback script. Each of them has emptied the data queue. -/
def playing (t : Transport) (state : State) (made : Nat) : Scene := ⟨state, t.playedFrames * made, 0⟩

section Playback

variable (fresh : t.IsFresh) (hnotifies : t.notifies = false)
  (hfast : (Stub.ofTransport t false seed).transferTime t.playedFrames < patience)

include fresh hnotifies hfast

theorem shows_feed {state : State} (hstate : state = .standby ∨ state = .active) {made : Nat}
    (hmade : made < 10) :
    Shows t .output (feed t.quarter (.burst (Int32.ofNat t.quarter))) (playing t state made)
      ((playing t (if state = .standby then .paused else .active) (made + 1)).outline
        (.burst (Int32.ofNat t.quarter)) (t.playedFrames * t.frameSize))
      (playing t (if state = .standby then .paused else .active) (made + 1)) := by
  have hcountable : t.playedFrames * made + t.playedFrames < 2 ^ 63 :=
    calc t.playedFrames * (made + 1) ≤ t.quarter * 10 :=
          Nat.mul_le_mul (Nat.le_trans t.playedFrames_le (Nat.div_le_self _ _)) hmade
      _ < 2 ^ 31 * 10 := Nat.mul_lt_mul_of_pos_right fresh.quarter_lt (by decide)
      _ < 2 ^ 63 := by decide
  have hroom : 0 + t.quarter + t.quarter ≤ t.data.capacity := by
    unfold Transport.quarter
    omega
  refine Leads.feed (fun d hd => ?_) hroom
  refine hd.playback fresh hnotifies hstate (Nat.zero_add _) ?_ hcountable
  rw [hd.driver.transferTime false seed]
  exact hfast

theorem plays_playback : Plays t .output (playbackScript t.quarter) (playing t .standby 0)
    (playbackOutlines t) (playing t .active 9) := by
  have primed : Shows t .output (feed t.quarter (.burst (Int32.ofNat t.quarter))) (playing t .standby 0) _
      (playing t .paused 1) :=
    shows_feed fresh hnotifies hfast (.inl rfl) (by decide)
  have started : Shows t .output (say .start) (playing t .paused 1) _ (playing t .active 1) :=
    Leads.say fun d hd => hd.move (.inr rfl) rfl
  have fed (i : Nat) (hi : i < bursts) : Shows t .output (feed t.quarter (.burst (Int32.ofNat t.quarter)))
      (playing t .active (i + 1)) _ (playing t .active (i + 2)) :=
    shows_feed fresh hnotifies hfast (.inr rfl) (Nat.lt_of_lt_of_le (Nat.succ_lt_succ hi) (by decide))
  exact (Plays.cons primed (.cons started (.nil _))).append
    (Plays.replicate (fun i => playing t .active (i + 1)) bursts fed)

end Playback

/-! ## The end of the playback script -/

theorem poll_succ {d' : Demo} {reply : Reply} (hsend : d.send .getStatus = .ok (reply, d')) (deadline n : Nat) :
    poll deadline (n + 1) d =
      if reply.state ≠ .draining then .ok d'
      else if deadline ≤ d'.now then .error (.stillDraining, d')
      else poll deadline n { d' with now := d'.now + pollInterval } := by
  rw [poll, hsend]
  rfl

section Poll

variable {frames : Nat} (h : d.At t .output ⟨.draining, frames, 0⟩)

include h

theorem due_iff_of_draining :
    d.bench.worker.Due d.setup d.now ↔ d.setup.delay ≤ d.now - d.bench.worker.since :=
  ⟨Worker.Due.elapsed, fun elapsed => ⟨congrArg Setup.direction h.setup, by rw [h.state]; rfl, elapsed⟩⟩

/-- A look at a stream that has drained is the last one. -/
theorem poll_of_due (hdue : d.bench.worker.Due d.setup d.now) (deadline n : Nat) :
    ∃ d' x, poll deadline (n + 1) d = .ok d' ∧ d'.At t .output ⟨.idle, frames, 0⟩ ∧
      d'.shown = d.shown ++ [x] ∧
      x.outline = { command := .getStatus, state := .idle, frames } := by
  obtain ⟨reply, hsend, hnext, houtline⟩ := h.look .idle (by
    rw [Worker.resolve_of_due hdue, h.state]
    rfl)
  have hidle : reply.state = .idle := congrArg Outline.state houtline
  refine ⟨d.answered .getStatus reply, ⟨.getStatus, reply⟩, ?_, hnext, rfl, houtline⟩
  rw [poll_succ hsend, hidle]
  rfl

/-- A look at a stream that is still draining is followed by another one. -/
theorem poll_of_not_due (hdue : ¬ d.bench.worker.Due d.setup d.now) {deadline : Nat}
    (hlate : d.now < deadline) (n : Nat) :
    ∃ d' x, poll deadline (n + 1) d = poll deadline n d' ∧ d'.At t .output ⟨.draining, frames, 0⟩ ∧
      d'.now = d.now + pollInterval ∧ d'.bench.worker = d.bench.worker ∧ d'.shown = d.shown ++ [x] ∧
      x.outline = { command := .getStatus, state := .draining, frames } := by
  have hstays := Worker.resolve_of_not_due hdue
  obtain ⟨reply, hsend, hnext, houtline⟩ := h.look .draining (by rw [hstays, h.state])
  obtain ⟨hworker, hnow⟩ := d.answered_look reply
  have hdraining : reply.state = .draining := congrArg Outline.state houtline
  refine ⟨{ d.answered .getStatus reply with now := (d.answered .getStatus reply).now + pollInterval },
    ⟨.getStatus, reply⟩, ?_, hnext.wait _, ?_, ?_, rfl, houtline⟩
  · rw [poll_succ hsend, if_neg (not_not_intro hdraining), if_neg (Nat.not_le.mpr (hnow ▸ hlate))]
  · exact congrArg (· + pollInterval) hnow
  · exact hworker.trans (congrArg Prod.fst hstays)

end Poll

/-- A script that looks at a draining stream again and again finds it idle before it loses patience. -/
theorem poll_eq {frames deadline : Nat} (n : Nat) (h : d.At t .output ⟨.draining, frames, 0⟩)
    (hdelay : d.setup.delay < drainPatience) (hdeadline : deadline = d.bench.worker.since + drainPatience)
    (hlooks : d.bench.worker.since + d.setup.delay ≤ d.now + pollInterval * n) :
    ∃ d' xs early, poll deadline (n + 1) d = .ok d' ∧ d'.At t .output ⟨.idle, frames, 0⟩ ∧
      d'.shown = d.shown ++ xs ∧ xs.map Exchange.outline =
        List.replicate early { command := .getStatus, state := .draining, frames } ++
          [{ command := .getStatus, state := .idle, frames }] := by
  induction n generalizing d with
  | zero =>
    have hdue : d.bench.worker.Due d.setup d.now := (due_iff_of_draining h).mpr (by omega)
    obtain ⟨d', x, hpoll, hidle, hshown, houtline⟩ := poll_of_due h hdue deadline 0
    exact ⟨d', [x], 0, hpoll, hidle, hshown, congrArg (· :: []) houtline⟩
  | succ n ih =>
    by_cases hdue : d.bench.worker.Due d.setup d.now
    · obtain ⟨d', x, hpoll, hidle, hshown, houtline⟩ := poll_of_due h hdue deadline (n + 1)
      exact ⟨d', [x], 0, hpoll, hidle, hshown, congrArg (· :: []) houtline⟩
    · -- The delay has not run out, so the deadline, which is later, is not reached either.
      have hearly := mt (due_iff_of_draining h).mpr hdue
      have hlate : d.now < deadline := by omega
      obtain ⟨mid, x, hpoll, hmid, hnow, hworker, hshown, houtline⟩ := poll_of_not_due h hdue hlate (n + 1)
      have hsetup : mid.setup = d.setup := hmid.setup.trans h.setup.symm
      obtain ⟨d', xs, early, hrest, hidle, hshown', houtlines⟩ := ih hmid (hsetup ▸ hdelay)
        (hworker ▸ hdeadline) (by rw [hworker, hsetup, hnow]; rw [Nat.mul_succ] at hlooks; omega)
      refine ⟨d', x :: xs, early + 1, hpoll.trans hrest, hidle, ?_, ?_⟩
      · rw [hshown', hshown, List.append_assoc, List.singleton_append]
      · rw [List.map_cons, houtline, houtlines, List.replicate_succ, List.cons_append]

theorem drainOut_of_send {d' : Demo} {reply : Reply} (hsend : d.send (.drain .all) = .ok (reply, d')) :
    drainOut d =
      (if reply.state = .draining then poll (d'.now + drainPatience) (drainPatience / pollInterval + 2) d'
        else .ok d') >>= say .standby := by
  rw [drainOut, hsend]
  change (if reply.state = .draining then _ else _) = _
  split <;> rfl

/-- A stream that is idle is put on standby. -/
theorem shows_standby (frames : Nat) : Shows t .output (say .standby) ⟨.idle, frames, 0⟩
    { command := .standby, state := .standby, frames } ⟨.standby, frames, 0⟩ :=
  Leads.say fun _ hd => hd.control (.inr rfl) rfl

/-- The drain is over before the script loses patience. -/
theorem drainOut_eq (h : d.At t .output (playing t .active 9))
    (hdelay : t.debug.transientDelay.toNat * millisecond < drainPatience) :
    ∃ d' xs early, drainOut d = .ok d' ∧ d'.shown = d.shown ++ xs ∧
      xs.map Exchange.outline = drainOutlines t early := by
  have hdecide : (Setup.ofTransport t .output 0).decide .active (.drain .all) =
      .control (.drain .all) (if t.debug.synchronousDrain then .idle else .draining) := rfl
  obtain ⟨reply, hsend, hnext, houtline⟩ := h.control (.inr rfl) hdecide
  have hentered := h.answered_control (.inr rfl) hdecide reply
  have hshown : (d.answered (.drain .all) reply).shown = d.shown ++ [⟨.drain .all, reply⟩] := rfl
  have htold : reply.state = if t.debug.synchronousDrain then .idle else .draining :=
    congrArg Outline.state houtline
  rw [drainOut_of_send hsend]
  generalize d.answered (.drain .all) reply = mid at hnext hentered hshown
  cases hsync : t.debug.synchronousDrain with
  | true =>
    simp only [hsync, if_true] at hnext htold houtline
    obtain ⟨d', x, hstep, -, hlast, hstandby⟩ := shows_standby _ mid hnext
    refine ⟨d', [⟨.drain .all, reply⟩, x], 0, ?_, ?_, ?_⟩
    · rw [if_neg (by rw [htold]; decide)]
      exact hstep
    · rw [hlast, hshown, List.append_assoc, List.singleton_append]
    · simp only [drainOutlines, hsync, if_true, List.map_cons, List.map_nil, houtline, hstandby]
      rfl
  | false =>
    simp only [hsync, Bool.false_eq_true, if_false] at hnext htold houtline hentered
    have hsince : mid.bench.worker.since = mid.now := congrArg Worker.since hentered
    have hbound : mid.setup.delay < drainPatience := by
      rw [hnext.setup]
      exact hdelay
    have hpatience : drainPatience ≤ pollInterval * (drainPatience / pollInterval + 1) := by decide
    obtain ⟨last, xs, early, hpoll, hidle, hlooks, houtlines⟩ :=
      poll_eq (drainPatience / pollInterval + 1) hnext hbound rfl (by omega)
    obtain ⟨d', x, hstep, -, hlast, hstandby⟩ := shows_standby _ last hidle
    refine ⟨d', ⟨.drain .all, reply⟩ :: (xs ++ [x]), early, ?_, ?_, ?_⟩
    · rw [if_pos htold, ← hsince, hpoll]
      exact hstep
    · rw [hlast, hlooks, hshown]
      simp
    · simp only [drainOutlines, hsync, Bool.false_eq_true, if_false, List.map_cons, List.map_append,
        List.map_nil, houtline, houtlines, hstandby]
      rfl

/-! ## Whole runs -/

theorem bufferBytes_describe (fresh : t.IsFresh) : t.describe.bufferBytes / 4 = t.quarter := by
  have hframes : t.describe.bufferFrames = t.data.capacity / t.frameSize := by
    simp only [Transport.describe, Transport.bufferFrames, if_neg (Nat.ne_of_gt fresh.frameSize_pos),
      DataQueue.quantumCount, DataQueue.quantumSize, Nat.div_one, Nat.mul_one]
  rw [Descriptor.bufferBytes, hframes, Transport.quarter]
  exact congrArg (· / 4) (Nat.mul_div_cancel' fresh.frameSize_dvd)

/-- The capture script has run clean. It has got the replies of `captureOutlines`, and after each of its first
bursts, which come after two other steps, the data queue grants to read the bytes that the reply has told of. -/
structure CapturesClean (t : Transport) (seed : UInt32) (report : DemoReport) : Prop where
  failure : report.failure = none
  shown : report.shown.map Exchange.outline = captureOutlines t
  reads : ∀ i < bursts, ∃ d, follow ((captureScript t.quarter).take (i + 3)) (initial .input t seed) = .ok d ∧
    d.owed = [.read (t.quarterFrames * t.frameSize)] ∧ d.bench.data.Grants d.owed

/-- The playback script has run clean. It has got the replies of `playbackOutlines` and then those of a drain
that it has looked at a number of times too early, and wherever it was, the data queue granted to write a
quarter of silence. -/
structure PlaysClean (t : Transport) (seed : UInt32) (report : DemoReport) : Prop where
  failure : report.failure = none
  shown : ∃ early, report.shown.map Exchange.outline = playbackOutlines t ++ drainOutlines t early
  writes : ∀ k, ∃ d, follow ((playbackScript t.quarter).take k) (initial .output t seed) = .ok d ∧
    d.bench.data.Grants (d.owed ++ [.write (List.replicate t.quarter 0)])

/-- Both scripts run clean on every configuration that a transport can be set up for, with every combination
of the parameters for debugging, if the stub is done with a burst before the reply is given up, and if a
transient state resolves before the playback script gives it up. -/
theorem runs_clean {c : Config} {t : Transport} (ht : Transport.configure c.stream c.debug false = .ok t)
    (seed : UInt32) :
    ((Stub.ofTransport t true seed).transferTime t.quarterFrames < patience →
      CapturesClean t seed (run .input (.ok c) seed)) ∧
    ((Stub.ofTransport t false seed).transferTime t.playedFrames < patience →
      c.debug.transientDelay.toNat * millisecond < drainPatience →
        PlaysClean t seed (run .output (.ok c) seed)) := by
  have fresh := Transport.isFresh_of_configure ht
  have hbytes := bufferBytes_describe fresh
  have hconfigured : (Except.ok c : Except Error Config).bind
      (fun c => Transport.configure c.stream c.debug false) = .ok t := ht
  refine ⟨fun hfast => ?capture, fun hfast hdelay => ?playback⟩
  case capture =>
    have hplays := plays_capture fresh hfast
    have hinitial := at_initial .input fresh seed
    obtain ⟨d, xs, hfollow, -, hshown, houtlines⟩ := hplays.follow_eq hinitial
    have hrun : run .input (.ok c) seed = ⟨none, d.shown⟩ := by
      simp only [run, hconfigured, play, hbytes, hfollow]
    rw [hrun]
    refine ⟨rfl, ?_, fun i => fetched_of_follow fresh hfast hinitial⟩
    rw [hshown]
    exact houtlines
  case playback =>
    have hnotifies := Transport.notifies_of_configure ht
    have hplays := plays_playback fresh hnotifies hfast
    have hinitial := at_initial .output fresh seed
    obtain ⟨mid, xs, hfollow, hmid, hshown, houtlines⟩ := hplays.follow_eq hinitial
    obtain ⟨d, ys, early, hdrain, hshown', houtlines'⟩ :=
      drainOut_eq hmid (Transport.debug_of_configure ht ▸ hdelay)
    have hrun : run .output (.ok c) seed = ⟨none, d.shown⟩ := by
      have hplay : play .output t seed = .ok d := by
        simp only [play, hbytes, hfollow]
        exact hdrain
      simp only [run, hconfigured, hplay]
    rw [hrun]
    refine ⟨rfl, ⟨early, ?_⟩, fun k => ?_⟩
    · rw [hshown', hshown, List.map_append, houtlines']
      exact congrArg (· ++ _) houtlines
    · obtain ⟨scene, hpart⟩ := hplays.take k
      obtain ⟨mid, -, hmid, hat, -⟩ := hpart.follow_eq hinitial
      exact ⟨mid, hmid, hat.writable.1⟩

/-- A stream of 1024 frames of four bytes, as it is configured by default. -/
theorem runs_clean_default :
    ∃ t, Transport.configure {} {} false = .ok t ∧
      (Stub.ofTransport t true 7).transferTime t.quarterFrames < patience ∧
      (Stub.ofTransport t false 7).transferTime t.playedFrames < patience ∧
      (0 : UInt32).toNat * millisecond < drainPatience ∧
      CapturesClean t 7 (run .input (.ok {}) 7) ∧ PlaysClean t 7 (run .output (.ok {}) 7) ∧
      (captureOutlines t).length = 17 ∧
      (captureOutlines t).getLast?.map Outline.frames = some 2560 := by
  let t : Transport :=
    { data := ⟨4096, [], by decide, by decide⟩, geometry := ⟨.pcm16, .stereo, 48000⟩, debug := {}
      notifies := false }
  have ht : Transport.configure {} {} false = .ok t := rfl
  have hcapture : (Stub.ofTransport t true 7).transferTime t.quarterFrames < patience := by decide
  have hplayback : (Stub.ofTransport t false 7).transferTime t.playedFrames < patience := by decide
  have hdrain : (0 : UInt32).toNat * millisecond < drainPatience := by decide
  obtain ⟨hcaptures, hplays⟩ := runs_clean (c := {}) ht 7
  exact ⟨t, ht, hcapture, hplayback, hdrain, hcaptures hcapture, hplays hplayback hdrain, by decide,
    by decide⟩

end Demo

end AudioStream
