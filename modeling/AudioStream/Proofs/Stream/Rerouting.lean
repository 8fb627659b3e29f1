import AudioStream.Proofs.Stream.Deeds

/-!
# What does not depend on the routing

The worker looks at the connection flag at one point: when it has taken a command and not begun with it. A
stream that is connected to other devices does the same in all other steps. So between two such looks the
routing can be changed at will, by the layer that connects devices or by a driver in the midst of a transfer,
and it makes no difference to the worker: the calls of the driver and the replies are the same.
-/

namespace AudioStream

/-- The flag or the list of devices is changed, and nothing else. -/
def Deed.isRouting : Deed → Bool
  | setConnected _ | setDevices _ => true
  | _ => false

/-- The worker is about to look at the flag. -/
def Stage.isSampling : Stage → Bool
  | sampling _ => true
  | _ => false

namespace Stream

/-- The stream with another routing. -/
def reroute (s : Stream) (connected : Bool) (devices : List Device) : Stream := { s with connected, devices }

variable {a b : Stream} (s : Stream) (connected : Bool) (devices : List Device)

theorem reroute_report (e : StreamError) :
    (s.report e).reroute connected devices = (s.reroute connected devices).report e := by
  unfold report reroute
  split <;> rfl

theorem reroute_handled (command : Command) (h : Handled) :
    (s.handled command h).reroute connected devices = (s.reroute connected devices).handled command h := by
  unfold handled
  cases h.report with
  | none => rfl
  | some e => exact reroute_report _ connected devices e

theorem reroute_beginCycle (m : Moment) :
    (s.beginCycle m).reroute connected devices = (s.reroute connected devices).beginCycle m := by
  unfold beginCycle
  simp only [reroute]
  split
  next => exact reroute_report _ connected devices _
  next => rfl

theorem reroute_afterMoving (m : Moment) (command : Command) (burst : Burst) (moved : Worker × Moved) :
    (s.afterMoving m command burst moved).reroute connected devices =
      (s.reroute connected devices).afterMoving m command burst moved := by
  unfold afterMoving
  cases hd : s.setup.direction with
  | input => simp only [reroute, hd]
  | output =>
    simp only [reroute_handled]
    simp only [reroute, hd]

theorem reroute_awaitCommand (m : Moment) (deadline : Option Nat) :
    (s.awaitCommand m deadline).map (·.reroute connected devices) =
      (s.reroute connected devices).awaitCommand m deadline := by
  unfold awaitCommand
  simp only [reroute]
  cases s.transport.commands.read with
  | done taken => rfl
  | failed e => rfl
  | waits =>
    cases deadline with
    | none => rfl
    | some time => by_cases hover : time ≤ m.now <;> simp [hover]

theorem reroute_continueTask (m : Moment) (command : Command) (task : Task) :
    (s.continueTask m command task).map (·.reroute connected devices) =
      (s.reroute connected devices).continueTask m command task := by
  cases task with
  | looking burst =>
    simp only [continueTask]
    cases hd : s.setup.direction <;> simp [reroute, hd]
  | taking burst count =>
    simp only [continueTask, reroute]
    cases s.transport.data.read count with
    | none => exact congrArg some (reroute_handled s connected devices command _)
    | some taken => rfl
  | moving burst size =>
    simp only [continueTask]
    cases burst.connected with
    | true => rfl
    | false => exact congrArg some (reroute_afterMoving s connected devices m command burst _)
  | appending burst moved =>
    simp only [continueTask, reroute]
    cases s.transport.data.write (s.worker.movedBytes s.setup moved) with
    | none => exact congrArg some (reroute_handled s connected devices command _)
    | some data => exact congrArg some (reroute_handled _ connected devices command _)
  | controlling connected call next => rfl

theorem reroute_writeReply (reply : Reply) :
    (s.writeReply reply).map (·.reroute connected devices) =
      (s.reroute connected devices).writeReply reply := by
  unfold writeReply
  simp only [reroute]
  cases s.transport.replies.write reply <;> rfl

theorem reroute_step (m : Moment) (hs : s.stage.isSampling = false) :
    (s.step m).map (·.reroute connected devices) = (s.reroute connected devices).step m := by
  have hstage : (s.reroute connected devices).stage = s.stage := rfl
  unfold step
  rw [hstage]
  cases h : s.stage with
  | fresh => exact congrArg some (reroute_beginCycle s connected devices m)
  | arming => rfl
  | waiting deadline => exact reroute_awaitCommand s connected devices m deadline
  | sampling command => simp [h, Stage.isSampling] at hs
  | handling command task => exact reroute_continueTask s connected devices m command task
  | replying command reply => exact reroute_writeReply s connected devices reply
  | reporting reason => exact congrArg some (reroute_report _ connected devices _)
  | closingCommands => rfl
  | closingReplies => rfl
  | leaving => rfl
  | stopped => rfl

theorem reroute_answerControl (m : Moment) (result : Except DriverError Unit) :
    (s.answerControl m result).map (·.reroute connected devices) =
      (s.reroute connected devices).answerControl m result := by
  have hstage : (s.reroute connected devices).stage = s.stage := rfl
  unfold answerControl
  rw [hstage]
  split
  next => exact congrArg some (reroute_handled s connected devices _ _)
  next => rfl

theorem reroute_answerTransfer (m : Moment) (answer : TransferAnswer) :
    (s.answerTransfer m answer).map (·.reroute connected devices) =
      (s.reroute connected devices).answerTransfer m answer := by
  have hstage : (s.reroute connected devices).stage = s.stage := rfl
  unfold answerTransfer
  rw [hstage]
  split
  next command burst size hs =>
    cases burst.connected with
    | true => exact congrArg some (reroute_afterMoving s connected devices m command burst _)
    | false => rfl
  next => rfl

theorem reroute_closeStep (stage : CloseStage) :
    (s.closeStep stage).map (fun r => r.2.reroute connected devices) =
      ((s.reroute connected devices).closeStep stage).map (·.2) := by
  cases stage with
  | arriving =>
    cases ht : s.taken <;> simp [closeStep, reroute, ht]
  | dismissing =>
    simp only [closeStep, writeCommand, reroute]
    cases s.transport.commands.write (.exit s.setup.cookie) <;> rfl
  | joining =>
    cases hs : s.stage <;> simp [closeStep, reroute, hs]
  | _ => rfl

/-- Whatever is done to a stream comes to the same with another routing, unless the worker looks at the
flag. -/
theorem reroute_perform {d : Deed} (hd : d.isRouting = false) (hs : s.stage.isSampling = false) :
    (s.perform d).map (·.reroute connected devices) = (s.reroute connected devices).perform d := by
  cases d with
  | work m => exact reroute_step s connected devices m hs
  | endControl m result => exact reroute_answerControl s connected devices m result
  | endTransfer m answer => exact reroute_answerTransfer s connected devices m answer
  | setConnected | setDevices => cases hd
  | writeData bytes =>
    simp only [perform, writeData, reroute]
    cases s.transport.data.write bytes <;> rfl
  | readData count =>
    simp only [perform, readData, reroute]
    cases s.transport.data.read count <;> rfl
  | checkErrors =>
    cases hr : s.reports <;> simp [perform, checkErrors, reroute, hr]
  | post command =>
    simp only [perform, writeCommand, reroute]
    cases s.transport.commands.write command <;> rfl
  | readReply =>
    simp only [perform, readReply, reroute]
    cases s.transport.replies.read <;> rfl
  | tryReadReply => rfl
  | shutdown channel => rfl
  | close stage =>
    simp only [perform, Option.map_map]
    exact reroute_closeStep s connected devices stage

/-- A schedule in which the worker does not look at the flag. -/
inductive Carries : Stream → List Deed → Stream → Prop where
  | nil {a : Stream} : Carries a [] a
  | cons {a b c : Stream} {d : Deed} {deeds : List Deed} (past : a.stage.isSampling = false)
      (perform : a.perform d = some b) (rest : Carries b deeds c) : Carries a (d :: deeds) c

variable {connected devices} {deeds : List Deed}

/-- Changes of the routing can be left out of such a schedule, and it can start from any routing. -/
theorem Carries.reroute (h : a.Carries deeds b) (connected : Bool) (devices : List Device) :
    (a.reroute connected devices).Carries (deeds.filter fun d => !d.isRouting)
      (b.reroute connected devices) := by
  induction h with
  | nil => exact .nil
  | @cons a b c d deeds past hd rest ih =>
    cases hrouting : d.isRouting with
    | false =>
      rw [List.filter_cons_of_pos (by simp [hrouting])]
      refine .cons past ?_ ih
      rw [← reroute_perform a connected devices hrouting past, hd]
      rfl
    | true =>
      rw [List.filter_cons_of_neg (by simp [hrouting])]
      have hsame : a.reroute connected devices = b.reroute connected devices := by
        cases d with
        | setConnected | setDevices =>
          cases hd
          rfl
        | _ => cases hrouting
      rw [hsame]
      exact ih

end Stream

end AudioStream
