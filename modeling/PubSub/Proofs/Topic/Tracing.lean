import PubSub.Proofs.Topic.Sending

/-!
# Messages are traced back to their calls

A message that was sent was accepted under a number, and the call that it was accepted for is known
by this number. So it can be counted how often the message of a call was sent: once if the call was
answered with success, never if it was answered before its message was accepted, and never twice.
-/

namespace PubSub
namespace Topic

namespace Session

variable (session : Session)

/-- The messages that were sent, in the order in which they were. -/
def dispatched : List (Entry Envelope) := session.delivered.flatten

/-- The call whose message was accepted under a number. -/
def sender? (id : Nat) : Option Send := (session.entered.find? (·.2 == id)).map Prod.fst

/-- How often the message of the call with this number was sent. -/
def timesSent (number : Nat) : Nat :=
  session.dispatched.countP fun entry =>
    (session.sender? entry.id).any (·.number == number)

/-- The calls that were answered, each with what it was answered. -/
def answers : List (Send × Outcome Unit) :=
  session.rejected.map (fun (send, error) => (send, .error error))
    ++ session.returned.map fun (send, _, result) => (send, result)

end Session

variable (setup : Setup) (moves : List Move)

/-- No message was sent twice. -/
theorem nodup_dispatched : ((sessionOf setup moves).dispatched.map Entry.id).Nodup := by
  have reached := reached_batching setup moves
  rw [Session.dispatched, (handled_sessionOf setup moves).delivered]
  refine (Batcher.nodup_ended (Batcher.tallied_of_reached reached)
    (Batcher.conserved_of_reached reached)).sublist ?_
  exact ((succeeded_sublist _).flatten).map Entry.id

/-- A message that was sent was accepted for a call. -/
theorem exists_entered_of_mem_dispatched
    {entry : Entry Envelope}
    (sent : entry ∈ (sessionOf setup moves).dispatched) :
    ∃ send, (send, entry.id) ∈ (sessionOf setup moves).entered ∧
      send.message.toEnvelope = .ok entry.item := by
  have reached := reached_batching setup moves
  rw [Session.dispatched, (handled_sessionOf setup moves).delivered] at sent
  obtain ⟨batch, succeeded, inBatch⟩ := List.mem_flatten.mp sent
  obtain ⟨⟨other, answer⟩, ended, same⟩ :=
    List.mem_map.mp ((succeeded_sublist _).subset succeeded)
  subst same
  have taken := (Batcher.tallied_of_reached reached).mem_taken_of_ended ended
  have queued := (Batcher.conserved_of_reached reached).mem_queue.mp
    (.inl (List.mem_flatten.mpr ⟨_, taken, inBatch⟩))
  exact (carried_sessionOf setup moves).exists_entered queued.1

/-- The message of a call that was answered with success was sent. -/
theorem mem_dispatched_of_returned
    {send : Send}
    {id : Nat}
    (returned : (send, id, .ok ()) ∈ (sessionOf setup moves).returned) :
    id ∈ (sessionOf setup moves).dispatched.map Entry.id := by
  rcases endedWith_of_mem_returned setup moves returned with ⟨batch, ended, has, -⟩ | failed
  · obtain ⟨entry, inBatch, rfl⟩ := List.mem_map.mp has
    refine List.mem_map_of_mem ?_
    rw [Session.dispatched, (handled_sessionOf setup moves).delivered]
    exact List.mem_flatten.mpr ⟨batch, List.mem_filterMap.mpr ⟨_, ended, rfl⟩, inBatch⟩
  · contradiction

/-- No number of a message stands for two calls. -/
theorem nodup_entered_ids : ((sessionOf setup moves).entered.map Prod.snd).Nodup := by
  rw [← (carried_sessionOf setup moves).map_id_accepted]
  exact (Batcher.conserved_of_reached (reached_batching setup moves)).nodup_accepted

theorem sender?_eq_some_iff
    {id : Nat}
    {send : Send} :
    (sessionOf setup moves).sender? id = some send ↔
      (send, id) ∈ (sessionOf setup moves).entered := by
  rw [Session.sender?, Option.map_eq_some_iff]
  constructor
  · rintro ⟨⟨other, number⟩, found, rfl⟩
    obtain rfl : number = id := by simpa using List.find?_some found
    exact List.mem_of_find?_eq_some found
  · intro entered
    cases found : (sessionOf setup moves).entered.find? (·.2 == id) with
    | none =>
        have apart := List.find?_eq_none.mp found _ entered
        simp at apart
    | some other =>
        have same : other = (send, id) :=
          List.inj_on_of_nodup_map (nodup_entered_ids setup moves)
            (List.mem_of_find?_eq_some found) entered (by simpa using List.find?_some found)
        exact ⟨other, rfl, by rw [same]⟩

/-- The message of a call was sent as often as its number. -/
theorem timesSent_of_entered
    {send : Send}
    {id : Nat}
    (entered : (send, id) ∈ (sessionOf setup moves).entered) :
    (sessionOf setup moves).timesSent send.number =
      ((sessionOf setup moves).dispatched.map Entry.id).count id := by
  rw [List.count, List.countP_map, Session.timesSent]
  refine List.countP_congr fun entry sent => ?_
  obtain ⟨other, otherEntered, -⟩ := exists_entered_of_mem_dispatched setup moves sent
  rw [(sender?_eq_some_iff setup moves).mpr otherEntered, Option.any_some, beq_iff_eq,
    Function.comp_apply, beq_iff_eq]
  constructor
  · intro same
    have pair := List.inj_on_of_nodup_map (placed_sessionOf setup moves).nodup_entered
      otherEntered entered same
    exact (Prod.mk.inj pair).2
  · rintro rfl
    have pair := List.inj_on_of_nodup_map (nodup_entered_ids setup moves) otherEntered entered rfl
    rw [(Prod.mk.inj pair).1]

/-- A message was not sent if it was not accepted. -/
theorem timesSent_eq_zero
    {number : Nat}
    (apart : ∀ send id, (send, id) ∈ (sessionOf setup moves).entered → send.number ≠ number) :
    (sessionOf setup moves).timesSent number = 0 := by
  rw [Session.timesSent, List.countP_eq_zero]
  intro entry sent
  obtain ⟨other, entered, -⟩ := exists_entered_of_mem_dispatched setup moves sent
  rw [(sender?_eq_some_iff setup moves).mpr entered, Option.any_some, beq_iff_eq]
  exact apart other entry.id entered

/-- No message is sent twice. -/
theorem timesSent_le_one (number : Nat) : (sessionOf setup moves).timesSent number ≤ 1 := by
  by_cases known : ∃ send id, (send, id) ∈ (sessionOf setup moves).entered ∧ send.number = number
  · obtain ⟨send, id, entered, rfl⟩ := known
    rw [timesSent_of_entered setup moves entered]
    exact List.nodup_iff_count_le_one.mp (nodup_dispatched setup moves) id
  · rw [timesSent_eq_zero setup moves fun send id entered same => known ⟨send, id, entered, same⟩]
    exact Nat.zero_le 1

/-- A message is sent once if its call is answered with success. -/
theorem timesSent_of_ok
    {send : Send}
    (answered : (send, .ok ()) ∈ (sessionOf setup moves).answers) :
    (sessionOf setup moves).timesSent send.number = 1 := by
  rcases List.mem_append.mp answered with rejected | returned
  · obtain ⟨⟨other, error⟩, -, same⟩ := List.mem_map.mp rejected
    cases same
  · obtain ⟨⟨other, id, result⟩, returned, same⟩ := List.mem_map.mp returned
    cases same
    obtain ⟨entered, -⟩ := (carried_sessionOf setup moves).returned _ _ _ returned
    rw [timesSent_of_entered setup moves entered]
    exact List.count_eq_one_of_mem (nodup_dispatched setup moves)
      (mem_dispatched_of_returned setup moves returned)

/-- A message is never sent if its call is told that it is no message to send. -/
theorem timesSent_of_invalidArgument
    {send : Send}
    {message : String}
    (answered : (send, .error (.invalidArgument message)) ∈ (sessionOf setup moves).answers) :
    (sessionOf setup moves).timesSent send.number = 0 := by
  rcases List.mem_append.mp answered with rejected | returned
  · obtain ⟨⟨other, error⟩, rejected, same⟩ := List.mem_map.mp rejected
    cases same
    exact timesSent_eq_zero setup moves fun send id entered =>
      (placed_sessionOf setup moves).not_entered_of_rejected rejected entered
  · obtain ⟨⟨other, id, result⟩, returned, same⟩ := List.mem_map.mp returned
    cases same
    rcases endedWith_of_mem_returned setup moves returned with ⟨-, -, -, handled⟩ | failed
    · cases handled
    · cases failed

end Topic
end PubSub
