import AudioStream.Proofs.Stream.Dismissal
import AudioStream.Proofs.Stream.Log

/-!
# A client that sends commands

As long as no send has failed, the replies that wait in the queue are those that the client has not
taken yet, in the order of its commands. A send that fails leaves a queue shut down, and so no later
send gets a reply. This is `Client.Inv`, which nobody breaks.
-/

namespace AudioStream

structure Client where
  /-- Where it stands in the send that it is in. -/
  call : Option SendStage := none
  /-- The commands of its sends, the oldest first. -/
  asked : List Command := []
  /-- The results of the sends that are over. -/
  results : List (Except QueueError Reply) := []

/-- Goes on with a send. -/
def Client.proceed (client : Client) : SendStage → Client
  | .done result => { client with call := none, results := client.results ++ [result] }
  | stage => { client with call := some stage }

namespace Client

/-- What holds of a client in every state. -/
structure Inv (k : Skeleton) (log : Log) (client : Client) : Prop where
  mine : ∀ (j n : Nat) (c : Command), log.posted[j]? = some (some n, c) → client.asked[n]? = some c
  /-- Nobody else posts anything but the exit command. -/
  others : ∀ (j : Nat) (c : Command), log.posted[j]? = some (none, c) → c = .exit k.cookie
  once : ∀ (i j n : Nat) (c d : Command), log.posted[i]? = some (some n, c) →
    log.posted[j]? = some (some n, d) → i = j
  asked : client.asked.length = client.results.length + if client.call.isSome then 1 else 0
  writing : ∀ (c : Command) (patience : Nat), client.call = some (.writing c patience) →
    client.asked[client.results.length]? = some c ∧
    ∀ (j : Nat) (d : Command), log.posted[j]? ≠ some (some client.results.length, d)
  /-- Before a send fails, the replies in the queue are those that have not been taken. -/
  replies : (∀ e, .error e ∉ client.results) →
    k.replies.items = (log.answered.drop client.results.length).map Answer.reply
  taken : ∀ (n : Nat) (r : Reply), client.results[n]? = some (.ok r) →
    ∃ c, log.posted[n]? = some (some n, c) ∧ log.answered[n]? = some ⟨n, c, r⟩
  /-- After a send has failed, no send gets past its queues. -/
  spent : (∃ e, .error e ∈ client.results) → k.replies.isShutDown = true ∨
    (k.commands.isShutDown = true ∧ ∀ deadline, client.call ≠ some (.awaiting deadline))
  order : ∀ (i j : Nat) (e : QueueError) (r : Reply), client.results[i]? = some (.error e) →
    client.results[j]? = some (.ok r) → j < i

variable {k k' : Skeleton} {log log' : Log} {client : Client}

theorem Inv.congr (inv : Inv k log client) (grows : k.Grows k')
    (posted : log'.posted = log.posted)
    (answered : log'.answered = log.answered) (items : k'.replies.items = k.replies.items) :
    Inv k' log' client where
  mine := by rw [posted]; exact inv.mine
  others := by rw [posted, grows.cookie]; exact inv.others
  once := by rw [posted]; exact inv.once
  asked := inv.asked
  writing := by rw [posted]; exact inv.writing
  replies := by rw [items, answered]; exact inv.replies
  taken := by rw [posted, answered]; exact inv.taken
  spent h := (inv.spent h).imp grows.replies (And.imp_left grows.commands)
  order := inv.order

theorem Inv.length_le (inv : Inv k log client) (fine : ∀ e, .error e ∉ client.results) :
    client.results.length ≤ log.answered.length := by
  cases hn : client.results.length with
  | zero => exact Nat.zero_le _
  | succ n =>
    have hlt : n < client.results.length := by omega
    cases hr : client.results[n] with
    | error e => exact absurd (hr ▸ List.getElem_mem hlt) (fine e)
    | ok r =>
      obtain ⟨c, -, hanswered⟩ := inv.taken n r (by rw [List.getElem?_eq_getElem hlt, hr])
      exact (List.getElem?_eq_some_iff.mp hanswered).1

theorem Inv.answer (inv : Inv k log client) (grows : k.Grows k')
    (posted : log'.posted = log.posted) {a : Answer}
    (answered : log'.answered = log.answered ++ [a])
    (items : k'.replies.items = k.replies.items ++ [a.reply]) :
    Inv k' log' client where
  mine := by rw [posted]; exact inv.mine
  others := by rw [posted, grows.cookie]; exact inv.others
  once := by rw [posted]; exact inv.once
  asked := inv.asked
  writing := by rw [posted]; exact inv.writing
  replies fine := by
    rw [items, answered, List.drop_append_of_le_length (inv.length_le fine), inv.replies fine,
      List.map_append]
    rfl
  taken n r hr := by
    obtain ⟨c, hposted, hanswered⟩ := inv.taken n r hr
    rw [posted, answered]
    exact ⟨c, hposted, getElem?_append_of_some hanswered a⟩
  spent h := (inv.spent h).imp grows.replies (And.imp_left grows.commands)
  order := inv.order

theorem Inv.exit (inv : Inv k log client) (grows : k.Grows k')
    (items : k'.replies.items = k.replies.items) :
    Inv k' { log with posted := log.posted ++ [(none, .exit k.cookie)] } client where
  mine j n c hj := by
    rcases of_getElem?_append hj with hj | ⟨-, h⟩
    · exact inv.mine j n c hj
    · cases h
  others j c hj := by
    rw [grows.cookie]
    rcases of_getElem?_append hj with hj | ⟨-, h⟩
    · exact inv.others j c hj
    · exact congrArg Prod.snd h
  once i j n c d hi hj := by
    rcases of_getElem?_append hi with hi | ⟨-, h⟩
    · rcases of_getElem?_append hj with hj | ⟨-, h⟩
      · exact inv.once i j n c d hi hj
      · cases h
    · cases h
  asked := inv.asked
  writing c patience hc := by
    obtain ⟨hasked, hnew⟩ := inv.writing c patience hc
    refine ⟨hasked, fun j d hj => ?_⟩
    rcases of_getElem?_append hj with hj | ⟨-, h⟩
    · exact hnew j d hj
    · cases h
  replies fine := items.trans (inv.replies fine)
  taken n r hr := by
    obtain ⟨c, hposted, hanswered⟩ := inv.taken n r hr
    exact ⟨c, getElem?_append_of_some hposted _, hanswered⟩
  spent h := (inv.spent h).imp grows.replies (And.imp_left grows.commands)
  order := inv.order

/-! ## The client itself -/

theorem Inv.ask (inv : Inv k log client) (free : client.call = none) (command : Command)
    (patience : Nat) : Inv k log { client with
      call := some (.writing command patience), asked := client.asked ++ [command] } := by
  have hlength : client.asked.length = client.results.length := by simpa [free] using inv.asked
  refine ⟨?_, inv.others, inv.once, ?_, ?_, inv.replies, inv.taken, ?_, inv.order⟩
  · exact fun j n c hj => getElem?_append_of_some (inv.mine j n c hj) command
  · simp [hlength]
  · intro c p hc
    obtain ⟨rfl, rfl⟩ : command = c ∧ patience = p := by simpa using hc
    refine ⟨by rw [← hlength]; exact List.getElem?_concat_length, fun j d hj => ?_⟩
    -- No command has been posted yet for a send that just begins.
    have hmine := inv.mine j client.results.length d hj
    have hlt := (List.getElem?_eq_some_iff.mp hmine).1
    omega
  · exact fun h => (inv.spent h).imp_right fun h => ⟨h.1, fun deadline => by simp⟩

theorem Inv.post (inv : Inv k log client) {command : Command} {patience : Nat}
    (call : client.call = some (.writing command patience)) {queue : MessageQueue Command}
    (write : k.commands.write command = .done queue) (deadline : Nat) :
    Inv { k with commands := queue }
      { log with posted := log.posted ++ [(some client.results.length, command)] }
      { client with call := some (.awaiting deadline) } := by
  obtain ⟨hvalid, -, -⟩ := MessageQueue.of_write_eq_done write
  obtain ⟨hasked, hnew⟩ := inv.writing command patience call
  refine ⟨?_, ?_, ?_, ?_, ?_, inv.replies, ?_, ?_, inv.order⟩
  · intro j n c hj
    rcases of_getElem?_append hj with hj | ⟨-, h⟩
    · exact inv.mine j n c hj
    · cases h
      exact hasked
  · intro j c hj
    rcases of_getElem?_append hj with hj | ⟨-, h⟩
    · exact inv.others j c hj
    · cases h
  · intro i j n c d hi hj
    rcases of_getElem?_append hi with hi | ⟨hi', h⟩
    · rcases of_getElem?_append hj with hj | ⟨-, h⟩
      · exact inv.once i j n c d hi hj
      · cases h
        exact absurd hi (hnew i c)
    · rcases of_getElem?_append hj with hj | ⟨hj', -⟩
      · cases h
        exact absurd hj (hnew j d)
      · exact hi'.trans hj'.symm
  · simpa [call] using inv.asked
  · intro c p hc
    cases hc
  · intro n r hr
    obtain ⟨c, hposted, hanswered⟩ := inv.taken n r hr
    exact ⟨c, getElem?_append_of_some hposted _, hanswered⟩
  · intro h
    rcases inv.spent h with h | ⟨h, -⟩
    · exact .inl h
    · simp [hvalid] at h

/-- A send takes a reply, which is the one to its command: all earlier commands of the client have had
theirs taken, and nobody else's is answered. -/
theorem Inv.take (inv : Inv k log client) (fits : log.Fits k) {deadline : Nat}
    (call : client.call = some (.awaiting deadline)) {reply : Reply} {queue : MessageQueue Reply}
    (read : k.replies.read = .done (reply, queue)) :
    Inv { k with replies := queue } log
      { client with call := none, results := client.results ++ [.ok reply] } := by
  obtain ⟨hvalid, hitems, -⟩ := MessageQueue.of_read_eq_done read
  have fine : ∀ e, .error e ∉ client.results := by
    intro e he
    rcases inv.spent ⟨e, he⟩ with h | ⟨-, h⟩
    · simp [hvalid] at h
    · exact h deadline call
  have hlength : client.asked.length = client.results.length + 1 := by simpa [call] using inv.asked
  -- The reply is that to the command with the number of the send.
  have hdrop : (log.answered.drop client.results.length).map Answer.reply = reply :: queue.items :=
    (inv.replies fine).symm.trans hitems
  obtain ⟨a, hanswered, hreply⟩ : ∃ a, log.answered[client.results.length]? = some a ∧
      a.reply = reply := by
    have hhead := congrArg List.head? hdrop
    simpa using hhead
  obtain ⟨hindex, hposted, hother⟩ := fits.answered _ a hanswered
  obtain ⟨⟨sender, c⟩, hsender, rfl⟩ := Option.map_eq_some_iff.mp hposted
  obtain rfl : sender = some client.results.length := by
    cases sender with
    | none => exact absurd (inv.others _ _ hsender) hother
    | some n =>
      have hn := (List.getElem?_eq_some_iff.mp (inv.mine _ n _ hsender)).1
      rcases Nat.lt_or_ge n client.results.length with hlt | hge
      · -- An earlier command of the client stands in its own place, not in this one.
        cases hr : client.results[n] with
        | error e => exact absurd (hr ▸ List.getElem_mem hlt) (fine e)
        | ok r =>
          obtain ⟨d, hd, -⟩ := inv.taken n r (by rw [List.getElem?_eq_getElem hlt, hr])
          exact absurd (inv.once _ _ n d _ hd hsender) (Nat.ne_of_lt hlt)
      · exact congrArg some (by omega)
  refine ⟨inv.mine, inv.others, inv.once, ?_, ?_, ?_, ?_, ?_, ?_⟩
  · simp [hlength]
  · intro c p hc
    cases hc
  · intro _
    have htail := congrArg List.tail hdrop
    simpa [List.drop_drop] using htail.symm
  · intro n r hr
    rcases of_getElem?_append hr with hr | ⟨rfl, h⟩
    · exact inv.taken n r hr
    · cases h
      refine ⟨_, hsender, ?_⟩
      rw [hanswered, ← hindex, ← hreply]
  · rintro ⟨e, he⟩
    rcases List.mem_append.mp he with he | he
    · exact absurd he (fine e)
    · cases List.mem_singleton.mp he
  · intro i j e r hi hj
    rcases of_getElem?_append hi with hi | ⟨-, h⟩
    · exact absurd (List.mem_of_getElem? hi) (fine e)
    · cases h

/-- A send fails, with a queue shut down. -/
theorem Inv.fail (inv : Inv k log client) {stage : SendStage} (call : client.call = some stage)
    (grows : k.Grows k')
    (shut : k'.replies.isShutDown = true ∨ k'.commands.isShutDown = true) (e : QueueError) :
    Inv k' log { client with call := none, results := client.results ++ [.error e] } := by
  have hlength : client.asked.length = client.results.length + 1 := by simpa [call] using inv.asked
  have hold {n : Nat} {r : Reply} (hr : (client.results ++ [.error e])[n]? = some (.ok r)) :
      client.results[n]? = some (.ok r) := by
    rcases of_getElem?_append hr with hr | ⟨-, h⟩
    · exact hr
    · cases h
  refine ⟨inv.mine, ?_, inv.once, ?_, ?_, ?_, ?_, ?_, ?_⟩
  · rw [grows.cookie]
    exact inv.others
  · simp [hlength]
  · intro c p hc
    cases hc
  · intro fine
    exact absurd (List.mem_append_right _ (List.mem_singleton.mpr rfl)) (fine e)
  · exact fun n r hr => inv.taken n r (hold hr)
  · intro _
    exact shut.imp_right fun h => ⟨h, fun deadline => by simp⟩
  · intro i j e' r hi hj
    have hj := hold hj
    rcases of_getElem?_append hi with hi | ⟨rfl, -⟩
    · exact inv.order i j e' r hi hj
    · exact (List.getElem?_eq_some_iff.mp hj).1

theorem inv_of_sends {stage stage' : SendStage} (h : Skeleton.Sends stage k stage' k')
    (inv : Inv k log client) (fits : log.Fits k) (call : client.call = some stage) :
    Inv k' (log.observe k k' (some client.results.length)) (client.proceed stage') ∧
      (log.observe k k' (some client.results.length)).Fits k' := by
  cases h with
  | @write _ command patience deadline queue write =>
    obtain ⟨-, hqueue, -⟩ := MessageQueue.of_write_eq_done write
    have hlog : log.observe k { k with commands := queue } (some client.results.length) =
        { log with posted := log.posted ++ [(some client.results.length, command)] } :=
      Log.observe_post hqueue rfl
    rw [hlog]
    refine ⟨inv.post call write deadline, ?_⟩
    apply Log.fits_post fits
    · exact hqueue
    · rfl
    · rfl
  | failToWrite shut =>
    rw [Log.observe_same rfl (Nat.le_refl _)]
    exact ⟨inv.fail call (.refl k) (.inr shut) _, fits⟩
  | @read _ deadline reply queue read =>
    obtain ⟨-, hqueue, -⟩ := MessageQueue.of_read_eq_done read
    have hlog : log.observe k { k with replies := queue } (some client.results.length) = log := by
      apply Log.observe_same
      · rfl
      · rw [hqueue]
        exact Nat.le_succ _
    rw [hlog]
    exact ⟨inv.take fits call read, fits.congr rfl rfl rfl⟩
  | failToRead shut =>
    rw [Log.observe_same rfl (Nat.le_refl _)]
    exact ⟨inv.fail call (.refl k) (.inl shut) _, fits⟩
  | @expire _ deadline =>
    rw [Log.observe_same rfl (Nat.le_refl _)]
    refine ⟨⟨inv.mine, inv.others, inv.once, ?_, ?_, inv.replies, inv.taken, ?_, inv.order⟩, fits⟩
    · simpa [Client.proceed, call] using inv.asked
    · intro c p hc
      cases hc
    · intro h
      rcases inv.spent h with h | ⟨-, h⟩
      · exact .inl h
      · exact absurd call (h deadline)
  | giveUp =>
    have hgrows : k.Grows { k with replies := k.replies.shutdown } :=
      Skeleton.grows_of_replies fun _ => rfl
    have hlog : log.observe k { k with replies := k.replies.shutdown }
        (some client.results.length) = log := Log.observe_same rfl (Nat.le_refl _)
    rw [hlog]
    exact ⟨inv.fail call hgrows (.inl rfl) .timeout, fits.congr rfl rfl rfl⟩

end Client

end AudioStream
