import AudioStream.Proofs.Worker.Burst

/-!
# What a reply may say

A reply tells a position if the command succeeded and a device was connected when the worker looked, and at
no other time. It tells of bytes only if the command succeeded, and of no latency if the command was rejected.
All of this holds whatever a command comes to, in both directions.
-/

namespace AudioStream

namespace Reply

/-- A reply says no more than the worker knows, which has found a device connected or not. -/
structure Honest (connected : Bool) (r : Reply) : Prop where
  known : r.observable.isUnknown = false ↔ r.status = .ok ∧ connected = true
  moved : 0 < r.byteCount → r.status = .ok
  latency : r.status = .badValue ∨ r.status = .invalidOperation → r.latency = -1

variable {connected : Bool} {r : Reply}

theorem honest_of_ok (status : r.status = .ok) (known : r.observable.isUnknown = !connected) :
    r.Honest connected where
  known := by simp [status, known]
  moved _ := status
  latency h := by simp [status] at h

/-- A command that did not succeed is told of without a position and without bytes. -/
theorem honest_of_not_ok (status : r.status ≠ .ok) (unknown : r.observable = .unknown)
    (nothing : r.byteCount = 0) (latency : r.status = .notEnoughData ∨ r.latency = -1) :
    r.Honest connected where
  known := by simp [status, unknown, Position.isUnknown, Position.unknown]
  moved h := by simp [nothing] at h
  latency h := by
    rcases latency with hdata | hlatency
    · simp [hdata] at h
    · exact hlatency

end Reply

namespace Worker

variable {s : Setup} {w : Worker} {now : Nat} {connected : Bool}

/-- The clock starts at zero, so no reading of it looks like an unknown time. -/
theorem reportedTime_ne (now : Nat) : reportedTime now ≠ -1 := by
  intro h
  have hint : (reportedTime now).toInt = -1 := congrArg Int64.toInt h
  have hmax : Int64.maxValue.toInt = 2 ^ 63 - 1 := Int64.toInt_maxValue
  unfold reportedTime at hint
  split at hint
  next hle =>
    rw [Int64.toInt_ofNat_of_lt (by omega)] at hint
    omega
  next => omega

theorem isUnknown_position (w : Worker) (now : Nat) (connected : Bool) :
    (w.position now connected).isUnknown = !connected := by
  cases connected with
  | false => rfl
  | true => simp [position, Position.isUnknown, reportedTime_ne]

theorem honest_react {command : Command} {h : Handled}
    (hreact : w.react s now connected command = .reply h) : h.answer.Honest connected := by
  unfold react at hreact
  split at hreact <;> cases hreact
  next => exact Reply.honest_of_not_ok (by simp [Handled.answer]) rfl rfl (.inr rfl)
  next => exact Reply.honest_of_not_ok (by simp [Handled.answer]) rfl rfl (.inr rfl)
  next => exact Reply.honest_of_ok rfl (w.isUnknown_position now connected)
  next => exact Reply.honest_of_ok rfl ((w.enter now _).isUnknown_position now connected)

theorem honest_afterControl (w : Worker) (now : Nat) (connected : Bool) (call : Control) (next : State)
    (result : Except DriverError Unit) :
    (w.afterControl now connected call next result).answer.Honest connected := by
  cases result with
  | ok done => exact Reply.honest_of_ok rfl (w.isUnknown_position now connected)
  | error e => exact Reply.honest_of_not_ok (by simp [Handled.answer, afterControl]) rfl rfl (.inr rfl)

theorem honest_finishBurst (s : Setup) (now : Nat) (b : Burst) (m : Moved) (queued : Bool) (w : Worker) :
    (w.finishBurst s now b m queued).answer.Honest b.connected := by
  cases queued with
  | true =>
    have hreply := w.reply_finishBurst s now b m
    refine Reply.honest_of_ok ?_ ?_
    · rw [Handled.answer, hreply]
    · rw [Handled.answer, hreply]
      exact (w.count m.frames).isUnknown_position now b.connected
  | false =>
    have hreply := w.reply_finishBurst_false s now b m
    refine Reply.honest_of_not_ok ?_ ?_ ?_ (.inl ?_) <;> rw [Handled.answer, hreply]
    simp

end Worker

end AudioStream
