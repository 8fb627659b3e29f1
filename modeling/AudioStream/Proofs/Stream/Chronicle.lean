import AudioStream.Proofs.Stream.Deeds

/-!
# Chronicles

A run of a worker is a list of turns with a cycle for each. The worker of a stream goes through a cycle in
steps, and others come in between. Whoever watches a stream can take down the turns and the cycles: a turn
is what the worker meets, a cycle what is seen of it. What the client does to the data queue is taken down in
the turn in which it makes a difference. A burst of a playback stream takes its bytes before they are played,
so whatever comes meanwhile belongs to the next turn.

A chronicle also has the time of the worker's last step, since time goes forward from one step to the next,
and a burst without a device takes its time.
-/

namespace AudioStream

/-- The cycle without its reports, as a report is dropped when too many are unseen. -/
def Cycle.unreported (c : Cycle) : Cycle := { c with reports := [] }

namespace Turn

/-- A turn of which no more is known than what the client did to the data queue beforehand. -/
def blank (before : List Access) : Turn where
  begins := 0
  now := 0
  heard := none
  connected := false
  before := before
  control _ := ⟨.ok (), 0⟩
  transfer buffer _ := ⟨⟨buffer, .ok ⟨0, 0⟩⟩, 0⟩

/-- The driver answers the transfers of the turn. -/
def withTransfer (t : Turn) (transfer : List UInt8 → Nat → Timed TransferAnswer) : Turn := { t with transfer }

/-- The turn is over at a time. Without a call of the driver the worker had to be busy up to another time. -/
def endsAt (t : Turn) (time due : Nat) : Turn :=
  { t with
    control := fun call => ⟨(t.control call).answer, time - t.now⟩
    transfer := fun buffer frames => ⟨(t.transfer buffer frames).answer, time - t.now⟩
    lag := time - due }

end Turn

namespace Stream

/-- The worker has looked at the data queue for a burst. -/
def hasLooked (s : Stream) : Bool :=
  match s.stage with
  | .handling _ (.taking _ _) | .handling _ (.moving _ _) | .handling _ (.appending _ _) => true
  | _ => false

/-- The worker has taken the bytes of a burst, and does not get back to the data queue in this cycle. -/
def hasTaken (s : Stream) : Bool :=
  match s.stage, s.setup.direction with
  | .handling _ (.moving _ _), .output => true
  | _, _ => false

/-- How long the worker has to be busy with a command for which it does not call the driver: it passes over a
burst in its time, unless the data queue has let the burst down. -/
def quietTime (s : Stream) : Nat :=
  match s.stage with
  | .handling _ (.taking _ _) => 0
  | _ => s.setup.silenceTime

end Stream

/-- What has been taken down of a stream. -/
structure Chronicle where
  stream : Stream
  /-- The time of the worker's last step. -/
  clock : Nat := 0
  turns : List Turn := []
  cycles : List Cycle := []
  /-- The turn that is under way. -/
  turn : Turn := .blank []
  /-- What has been seen in this turn. -/
  seen : Cycle := { ends := 0 }
  /-- What the client has done to the data queue that belongs to the next turn. -/
  later : List Access := []
  /-- The bytes that the client has read with that. -/
  laterServed : List UInt8 := []

namespace Chronicle

/-! ## What the client does to the data queue -/

/-- Takes down what the client does to the data queue, and the bytes that it reads. -/
def noteAccess (σ : Chronicle) (access : Access) (bytes : List UInt8) : Chronicle :=
  if σ.stream.hasTaken then
    { σ with later := σ.later ++ [access], laterServed := σ.laterServed ++ bytes }
  else
    let seen := { σ.seen with served := σ.seen.served ++ bytes }
    if σ.stream.hasLooked then
      { σ with turn := { σ.turn with during := σ.turn.during ++ [access] }, seen }
    else { σ with turn := { σ.turn with before := σ.turn.before ++ [access] }, seen }

/-! ## What the worker does -/

/-- Ends the turn under way. -/
def close (σ : Chronicle) (turn : Turn) (seen : Cycle) : Chronicle :=
  { σ with
    turns := σ.turns ++ [turn]
    cycles := σ.cycles ++ [seen]
    turn := .blank σ.later
    seen := { ends := 0, served := σ.laterServed }
    later := []
    laterServed := [] }

/-- The worker begins a cycle, and may give the client a notice. -/
def begin (σ : Chronicle) (m : Moment) (b : Stream) : Chronicle :=
  { σ with
    turn := { σ.turn with begins := m.now, refusal := m.refusal }
    seen := { σ.seen with notice := (b.notices.drop σ.stream.notices.length).head? } }

def hear (σ : Chronicle) (command : Command) : Chronicle :=
  { σ with turn := { σ.turn with heard := some command } }

/-- The worker hears no command in this turn. -/
def hearNothing (σ : Chronicle) : Chronicle := σ.close σ.turn { σ.seen with ends := σ.turn.begins }

/-- The worker looks whether a device is connected, and sets about the command. -/
def sample (σ : Chronicle) (m : Moment) : Chronicle :=
  { σ with turn := { σ.turn with now := m.now, connected := σ.stream.connected } }

def answer (σ : Chronicle) (m : Moment) (reply : Reply) : Chronicle :=
  σ.close (σ.turn.endsAt m.now (σ.turn.now + σ.stream.quietTime))
    { σ.seen with ends := m.now, reply := some reply }

def leave (σ : Chronicle) (m : Moment) : Chronicle :=
  σ.close σ.turn { σ.seen with ends := m.now, stops := true }

/-- The worker goes on. What it does is told by where it is before and afterwards. -/
def work (σ : Chronicle) (m : Moment) (b : Stream) : Chronicle :=
  let after := match σ.stream.stage, b.stage with
    | .fresh, _ => σ.begin m b
    | .waiting _, .sampling command => σ.hear command
    | .waiting _, _ => σ.hearNothing
    | .sampling _, .leaving => (σ.sample m).leave m
    | .sampling _, .replying _ reply => (σ.sample m).answer m reply
    | .sampling _, _ => σ.sample m
    | .handling _ _, .replying _ reply => σ.answer m reply
    | _, _ => σ
  { after with stream := b, clock := m.now }

/-- Takes down the answer of the driver to a control call. -/
def hearControl (σ : Chronicle) (result : Except DriverError Unit) : Chronicle :=
  { σ with
    turn := { σ.turn with control := fun _ => ⟨result, 0⟩ }
    seen := { σ.seen with call := σ.stream.call? } }

/-- Takes down the answer of the driver to a transfer. -/
def hearTransfer (σ : Chronicle) (answer : TransferAnswer) : Chronicle :=
  { σ with
    turn := σ.turn.withTransfer fun _ _ => ⟨answer, 0⟩
    seen := { σ.seen with call := σ.stream.call? } }

/-- Takes down a deed that leads to a stream. -/
def note (σ : Chronicle) (d : Deed) (b : Stream) : Chronicle :=
  match d with
  | .work m => σ.work m b
  | .endControl m result => (σ.hearControl result).work m b
  | .endTransfer m answer => (σ.hearTransfer answer).work m b
  | .writeData bytes => { σ.noteAccess (.write bytes) [] with stream := b }
  | .readData count =>
    let bytes := ((σ.stream.transport.data.read count).map (·.1)).getD []
    { σ.noteAccess (.read count) bytes with stream := b }
  | _ => { σ with stream := b }

theorem stream_note (σ : Chronicle) (d : Deed) (b : Stream) : (σ.note d b).stream = b := by
  cases d <;> rfl

/-! ## Steps -/

/-- The worker does not go back in time, and takes its time for a burst without a device. -/
def Timely (σ : Chronicle) : Deed → Prop
  | .work m =>
    σ.clock ≤ m.now ∧ (σ.stream.isSilent = true → σ.clock + σ.stream.setup.silenceTime ≤ m.now)
  | .endControl m _ | .endTransfer m _ => σ.clock ≤ m.now
  | _ => True

/-- A deed is done and taken down, or the client gets to the oldest notices that it was given. -/
inductive Step (σ : Chronicle) : Chronicle → Prop where
  | deed {b : Stream} (d : Deed) (h : σ.stream.perform d = some b) (timely : σ.Timely d) :
      Step σ (σ.note d b)
  | takeNotices (count : Nat) :
      Step σ { σ with stream := { σ.stream with notices := σ.stream.notices.drop count } }

end Chronicle

end AudioStream
