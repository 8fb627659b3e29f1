import AudioStream.Proofs.Demo.Burst

/-!
# Scripts of a demonstration

A step of a script shows one exchange on its way from one scene to another. What the steps show one by one,
a script shows in the whole, and each part of it leads to a scene, at which the data queue grants what the
client is about to do.
-/

namespace AudioStream

namespace Demo

/-- A command leads from one scene to another, wherever it comes from. -/
def Leads (t : Transport) (direction : Direction) (a : Scene) (command : Command) (bytes : Nat) (b : Scene) :
    Prop :=
  ∀ d, At t direction a d → ∃ reply, d.Sends t direction command bytes b reply

/-- A step leads from one scene to another and shows one exchange. -/
def Shows (t : Transport) (direction : Direction) (step : DemoStep) (a : Scene) (o : Outline) (b : Scene) :
    Prop :=
  ∀ d, At t direction a d → ∃ d' x, step d = .ok d' ∧ d'.At t direction b ∧ d'.shown = d.shown ++ [x] ∧
    x.outline = o

/-- A script leads from one scene to another, and shows one exchange for each step. -/
inductive Plays (t : Transport) (direction : Direction) :
    List DemoStep → Scene → List Outline → Scene → Prop
  | nil (a : Scene) : Plays t direction [] a [] a
  | cons {step steps a b c o os} (first : Shows t direction step a o b)
      (rest : Plays t direction steps b os c) : Plays t direction (step :: steps) a (o :: os) c

variable {t : Transport} {direction : Direction} {a b c : Scene} {d : Demo} {command : Command} {bytes : Nat}
  {os os' : List Outline} {step : DemoStep} {steps steps' : List DemoStep}

namespace Plays

theorem append (first : Plays t direction steps a os b) (second : Plays t direction steps' b os' c) :
    Plays t direction (steps ++ steps') a (os ++ os') c := by
  induction first with
  | nil a => exact second
  | cons head _ ih => exact .cons head (ih second)

/-- A step that is made again and again. -/
theorem replicate (scene : Nat → Scene) {outline : Nat → Outline} (n : Nat)
    (h : ∀ i < n, Shows t direction step (scene i) (outline i) (scene (i + 1))) :
    Plays t direction (List.replicate n step) (scene 0) ((List.range n).map outline) (scene n) := by
  induction n with
  | zero => exact .nil _
  | succ n ih =>
    rw [List.replicate_succ', List.range_succ, List.map_append]
    exact (ih fun i hi => h i (Nat.lt_succ_of_lt hi)).append (.cons (h n n.lt_succ_self) (.nil _))

/-- A part of a script is a script. -/
theorem take (h : Plays t direction steps a os b) (k : Nat) :
    ∃ c, Plays t direction (steps.take k) a (os.take k) c := by
  induction h generalizing k with
  | nil a => exact ⟨a, by simpa using .nil a⟩
  | cons first _ ih =>
    cases k with
    | zero => exact ⟨_, .nil _⟩
    | succ k =>
      obtain ⟨c, hc⟩ := ih k
      exact ⟨c, .cons first hc⟩

theorem follow_eq (h : Plays t direction steps a os b) (hd : d.At t direction a) :
    ∃ d' xs, follow steps d = .ok d' ∧ d'.At t direction b ∧ d'.shown = d.shown ++ xs ∧
      xs.map Exchange.outline = os := by
  induction h generalizing d with
  | nil a => exact ⟨d, [], rfl, hd, (List.append_nil _).symm, rfl⟩
  | cons first _ ih =>
    obtain ⟨mid, x, hstep, hmid, hshown, houtline⟩ := first d hd
    obtain ⟨d', xs, hfollow, hd', hshown', houtlines⟩ := ih hmid
    refine ⟨d', x :: xs, ?_, hd', ?_, ?_⟩
    · rw [follow, List.foldlM_cons, hstep]
      exact hfollow
    · rw [hshown', hshown, List.append_assoc, List.singleton_append]
    · rw [List.map_cons, houtline, houtlines]

end Plays

/-! ## Steps -/

theorem At.writable (h : d.At t direction a) : d.bench.data.Grants
    (d.owed ++ [.write (List.replicate t.quarter 0)]) ∧
    (d.bench.data.serve (d.owed ++ [.write (List.replicate t.quarter 0)])).1.readable =
      a.queued + t.quarter := by
  have hroom : (List.replicate t.quarter (0 : UInt8)).length ≤ (d.bench.data.serve d.owed).1.writable := by
    rw [List.length_replicate]
    exact h.quarter_le_writable
  obtain ⟨hgrants, hreadable⟩ := DataQueue.grants_write hroom
  rw [h.queued, List.length_replicate] at hreadable
  rw [DataQueue.serve_append]
  exact ⟨(d.bench.data.grants_append_iff _ _).mpr ⟨h.granted, hgrants⟩, hreadable⟩

theorem Leads.say (h : Leads t direction a command bytes b) :
    Shows t direction (say command) a (b.outline command bytes) b := by
  intro d hd
  obtain ⟨reply, hsend, hnext, houtline⟩ := h d hd
  refine ⟨d.answered command reply, ⟨command, reply⟩, ?_, hnext, rfl, houtline⟩
  rw [Demo.say, hsend]
  rfl

/-- The client goes to read as many bytes as the reply says, and finds them in the data queue. -/
theorem Leads.fetch_eq (h : Leads t direction a command bytes b) (hbytes : bytes ≤ b.queued)
    (hd : d.At t direction a) : ∃ d' x, fetch command d = .ok d' ∧ d'.owed = [.read bytes] ∧
      d'.At t direction { b with queued := b.queued - bytes } ∧ d'.shown = d.shown ++ [x] ∧
      x.outline = b.outline command bytes := by
  obtain ⟨reply, hsend, hnext, houtline⟩ := h d hd
  have hcount : reply.byteCount.toInt.toNat = bytes := by
    have hreported : reply.byteCount.toInt = bytes := congrArg Outline.bytes houtline
    rw [hreported, Int.toNat_natCast]
  obtain ⟨hgrants, hreadable⟩ := DataQueue.grants_read (hnext.queued ▸ hbytes)
  refine ⟨{ d.answered command reply with owed := [.read bytes] }, ⟨command, reply⟩, ?_, rfl, ?_, rfl, houtline⟩
  · rw [Demo.fetch, hsend, ← hcount]
    rfl
  · exact {
      setup := hnext.setup
      driver := hnext.driver
      fits := hnext.fits
      state := hnext.state
      frames := hnext.frames
      granted := hgrants
      queued := hreadable.trans (congrArg (· - bytes) hnext.queued)
      sound := ⟨Nat.le_trans (Nat.add_le_add_right (Nat.sub_le _ _) _) hnext.sound.room,
        hnext.sound.countable⟩ }

theorem Leads.fetch (h : Leads t direction a command bytes b) (hbytes : bytes ≤ b.queued) :
    Shows t direction (fetch command) a (b.outline command bytes)
      { b with queued := b.queued - bytes } := by
  intro d hd
  obtain ⟨d', x, hfetch, -, hnext⟩ := h.fetch_eq hbytes hd
  exact ⟨d', x, hfetch, hnext⟩

/-- The client writes a quarter of silence before the command. -/
theorem Leads.feed (h : Leads t direction { a with queued := a.queued + t.quarter } command bytes b)
    (hroom : a.queued + t.quarter + t.quarter ≤ t.data.capacity) :
    Shows t direction (feed t.quarter command) a (b.outline command bytes) b := by
  intro d hd
  obtain ⟨hgrants, hreadable⟩ := hd.writable
  exact h.say { d with owed := d.owed ++ [.write (List.replicate t.quarter 0)] } {
    setup := hd.setup
    driver := hd.driver
    fits := hd.fits
    state := hd.state
    frames := hd.frames
    granted := hgrants
    queued := hreadable
    sound := ⟨hroom, hd.sound.countable⟩ }

end Demo

end AudioStream
