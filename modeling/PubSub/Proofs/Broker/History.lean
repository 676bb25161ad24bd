import Mathlib.Data.List.Induction
import PubSub.Proofs.Broker.Looking
import PubSub.Proofs.Broker.Session

/-!
# What happens to one message

The records of a session, read for the message of one number at one feed: it arrives, is handed
out, refused and acknowledged. `standing` computes from such a history what the feed holds, and
`Lawful` says which histories can be: a message arrives once, and it is handed out only while it
is held and due.

From these two alone follow the laws of redelivery: a message that arrived is held until it is
acknowledged, it is not handed out again before its deadline has passed or it was refused, and
then it is due again.
-/

namespace PubSub
namespace Broker

/-- Something that happens to the message of one number at a feed. -/
inductive Occurrence
  | arrived (envelope : Envelope)
  | handedOut (time : Nat) (envelope : Envelope)
  | refused
  | acknowledged
  deriving DecidableEq

/-- What a record says about the message of a number at a feed. -/
def Record.occurrences (place number : Nat) : Record → List Occurrence
  | .attached _ => []
  | .sent first envelopes =>
      if first ≤ number then envelopes[number - first]?.toList.map .arrived else []
  | .received other time (.ok envelopes) =>
      if other = place then
        (envelopes.filter fun envelope => envelope.ackId = some (.broker number)).map
          (.handedOut time)
      else []
  | .received _ _ (.error _) => []
  | .acknowledged other numbers =>
      if other = place ∧ number ∈ numbers then [.acknowledged] else []
  | .refused other numbers => if other = place ∧ number ∈ numbers then [.refused] else []

def Record.attaches (place : Nat) : Record → Bool
  | .attached other => other = place
  | _ => false

/-- What has happened since the feed at a place was attached. -/
def since (place : Nat) (records : List Record) : List Record :=
  records.dropWhile fun record => !record.attaches place

namespace Session

/-- What has happened to the message of a number since the feed at a place was attached. -/
def history (session : Session) (place number : Nat) : List Occurrence :=
  (since place session.records).flatMap (Record.occurrences place number)

end Session

/-! ## What a history leads to -/

namespace Occurrence

/-- What a feed with deadlines holds of a message after something has happened to it. -/
def apply (span : Duration) (held? : Option HeldMessage) : Occurrence → Option HeldMessage
  | .arrived envelope => some { envelope := { envelope with ackId := none } }
  | .handedOut time _ =>
      held?.map fun held => { held with deadline := some (time + span.nanos) }
  | .refused => held?.map fun held => { held with deadline := none }
  | .acknowledged => none

def isArrival : Occurrence → Bool
  | .arrived _ => true
  | _ => false

def isHandOut : Occurrence → Bool
  | .handedOut .. => true
  | _ => false

end Occurrence

/-- What a feed with deadlines holds of a message with a history. -/
def standing (span : Duration) (history : List Occurrence) : Option HeldMessage :=
  history.foldl (Occurrence.apply span) none

/-- The histories that can be. -/
inductive Lawful (span : Duration) (number : Nat) : List Occurrence → Prop
  | nil : Lawful span number []
  | arrived
      {history : List Occurrence}
      (lawful : Lawful span number history)
      (fresh : ∀ occurrence ∈ history, occurrence.isArrival = false)
      (envelope : Envelope) :
      Lawful span number (history ++ [.arrived envelope])
  | handedOut
      {history : List Occurrence}
      {held : HeldMessage}
      {time : Nat}
      (lawful : Lawful span number history)
      (present : standing span history = some held)
      (due : held.isDue time = true) :
      Lawful span number
        (history ++ [.handedOut time { held.envelope with ackId := some (.broker number) }])
  | refused {history : List Occurrence} (lawful : Lawful span number history) :
      Lawful span number (history ++ [.refused])
  | acknowledged {history : List Occurrence} (lawful : Lawful span number history) :
      Lawful span number (history ++ [.acknowledged])

variable {span : Duration} {number : Nat} {history earlier later : List Occurrence}

@[simp] theorem standing_nil : standing span [] = none := rfl

@[simp] theorem standing_append_singleton (occurrence : Occurrence) :
    standing span (history ++ [occurrence]) = occurrence.apply span (standing span history) := by
  simp [standing]

namespace Lawful

/-- What has to hold for something to happen to a message. -/
theorem allowed {occurrence : Occurrence} (lawful : Lawful span number (history ++ [occurrence])) :
    Lawful span number history ∧
      (occurrence.isArrival = true → ∀ past ∈ history, past.isArrival = false) ∧
      ∀ time envelope, occurrence = .handedOut time envelope →
        ∃ held, standing span history = some held ∧ held.isDue time = true ∧
          envelope = { held.envelope with ackId := some (.broker number) } := by
  generalize extended : history ++ [occurrence] = whole at lawful
  cases lawful with
  | nil => simp at extended
  | arrived lawful fresh envelope =>
      obtain ⟨rfl, rfl⟩ := List.append_inj' extended rfl |>.imp_right List.singleton_inj.mp
      exact ⟨lawful, fun _ => fresh, by simp⟩
  | @handedOut _ held time lawful present due =>
      obtain ⟨rfl, rfl⟩ := List.append_inj' extended rfl |>.imp_right List.singleton_inj.mp
      refine ⟨lawful, by simp [Occurrence.isArrival], ?_⟩
      rintro other envelope same
      cases same
      exact ⟨held, present, due, rfl⟩
  | refused lawful =>
      obtain ⟨rfl, rfl⟩ := List.append_inj' extended rfl |>.imp_right List.singleton_inj.mp
      exact ⟨lawful, by simp [Occurrence.isArrival], by simp⟩
  | acknowledged lawful =>
      obtain ⟨rfl, rfl⟩ := List.append_inj' extended rfl |>.imp_right List.singleton_inj.mp
      exact ⟨lawful, by simp [Occurrence.isArrival], by simp⟩

theorem of_append (lawful : Lawful span number (earlier ++ later)) :
    Lawful span number earlier := by
  induction later using List.reverseRecOn with
  | nil => simpa using lawful
  | append_singleton later occurrence hypothesis =>
      rw [← List.append_assoc] at lawful
      exact hypothesis lawful.allowed.1

/-- What is handed out is held and due. -/
theorem exists_of_handedOut
    {time : Nat}
    {envelope : Envelope}
    (lawful : Lawful span number (earlier ++ .handedOut time envelope :: later)) :
    ∃ held, standing span earlier = some held ∧ held.isDue time = true ∧
      envelope = { held.envelope with ackId := some (.broker number) } := by
  rw [List.append_cons] at lawful
  exact lawful.of_append.allowed.2.2 time envelope rfl

/-- Nothing arrives twice. -/
theorem not_isArrival_of_arrived
    {envelope : Envelope}
    (lawful : Lawful span number (earlier ++ .arrived envelope :: later)) :
    ∀ occurrence ∈ later, occurrence.isArrival = false := by
  induction later using List.reverseRecOn with
  | nil => simp
  | append_singleton later last hypothesis =>
      rw [← List.cons_append, ← List.append_assoc] at lawful
      obtain ⟨lawful, once, -⟩ := lawful.allowed
      intro occurrence member
      rcases List.mem_append.mp member with before | here
      · exact hypothesis lawful occurrence before
      · rw [List.mem_singleton.mp here]
        by_contra arrival
        have absurdity := once (by simpa using arrival) (.arrived envelope) (by simp)
        simp [Occurrence.isArrival] at absurdity

end Lawful

/-- What is held has arrived. -/
theorem exists_arrived_of_standing
    {held : HeldMessage}
    (present : standing span history = some held) :
    ∃ envelope, .arrived envelope ∈ history ∧
      held.envelope = { envelope with ackId := none } := by
  induction history using List.reverseRecOn generalizing held with
  | nil => simp at present
  | append_singleton history occurrence hypothesis =>
      rw [standing_append_singleton] at present
      cases occurrence with
      | arrived envelope =>
          simp only [Occurrence.apply, Option.some.injEq] at present
          exact ⟨envelope, by simp, by rw [← present]⟩
      | handedOut time envelope =>
          obtain ⟨before, earlierPresent, rfl⟩ := Option.map_eq_some_iff.mp present
          obtain ⟨envelope, member, same⟩ := hypothesis earlierPresent
          exact ⟨envelope, List.mem_append_left _ member, same⟩
      | refused =>
          obtain ⟨before, earlierPresent, rfl⟩ := Option.map_eq_some_iff.mp present
          obtain ⟨envelope, member, same⟩ := hypothesis earlierPresent
          exact ⟨envelope, List.mem_append_left _ member, same⟩
      | acknowledged => simp [Occurrence.apply] at present

/-- A message that arrived is held until it is acknowledged. -/
theorem exists_standing_of_not_acknowledged
    {envelope : Envelope}
    (lawful : Lawful span number (earlier ++ .arrived envelope :: later))
    (kept : .acknowledged ∉ later) :
    ∃ deadline, standing span (earlier ++ .arrived envelope :: later) =
      some { envelope := { envelope with ackId := none }, deadline } := by
  induction later using List.reverseRecOn with
  | nil => exact ⟨none, by simp [Occurrence.apply]⟩
  | append_singleton later occurrence hypothesis =>
      have once := lawful.not_isArrival_of_arrived occurrence (by simp)
      rw [← List.cons_append, ← List.append_assoc] at lawful ⊢
      obtain ⟨deadline, present⟩ := hypothesis lawful.allowed.1 fun member =>
        kept (List.mem_append_left _ member)
      rw [standing_append_singleton, present]
      cases occurrence with
      | arrived other => simp [Occurrence.isArrival] at once
      | handedOut time other => exact ⟨some (time + span.nanos), rfl⟩
      | refused => exact ⟨none, rfl⟩
      | acknowledged => simp at kept

/-- A message that was acknowledged is not held any more. -/
theorem standing_eq_none_of_acknowledged
    {envelope : Envelope}
    (lawful : Lawful span number (earlier ++ .arrived envelope :: later))
    (gone : .acknowledged ∈ later) :
    standing span (earlier ++ .arrived envelope :: later) = none := by
  induction later using List.reverseRecOn with
  | nil => simp at gone
  | append_singleton later occurrence hypothesis =>
      have once := lawful.not_isArrival_of_arrived occurrence (by simp)
      rw [← List.cons_append, ← List.append_assoc] at lawful ⊢
      rw [standing_append_singleton]
      rcases List.mem_append.mp gone with before | here
      · rw [hypothesis lawful.allowed.1 before]
        cases occurrence with
        | arrived other => simp [Occurrence.isArrival] at once
        | handedOut time other => rfl
        | refused => rfl
        | acknowledged => rfl
      · rw [← List.mem_singleton.mp here]
        rfl

/-! ## Deadlines -/

/-- A message that was handed out and not refused since is due a span later at the earliest. -/
theorem deadline_of_handedOut
    {time : Nat}
    {envelope : Envelope}
    {held : HeldMessage}
    (lawful : Lawful span number (earlier ++ .handedOut time envelope :: later))
    (unrefused : .refused ∉ later)
    (present : standing span (earlier ++ .handedOut time envelope :: later) = some held) :
    ∃ deadline, held.deadline = some deadline ∧ time + span.nanos ≤ deadline := by
  induction later using List.reverseRecOn generalizing held with
  | nil =>
      rw [standing_append_singleton] at present
      obtain ⟨before, -, rfl⟩ := Option.map_eq_some_iff.mp present
      exact ⟨time + span.nanos, rfl, Nat.le_refl _⟩
  | append_singleton later occurrence hypothesis =>
      rw [← List.cons_append, ← List.append_assoc] at lawful present
      have lawfulBefore := lawful.allowed.1
      have unrefusedBefore : Occurrence.refused ∉ later := fun member =>
        unrefused (List.mem_append_left _ member)
      rw [standing_append_singleton] at present
      cases occurrence with
      | arrived other =>
          -- What was handed out had arrived before.
          obtain ⟨before, earlierPresent, -⟩ := lawfulBefore.exists_of_handedOut
          obtain ⟨first, member, -⟩ := exists_arrived_of_standing earlierPresent
          have once := lawful.allowed.2.1 rfl (.arrived first) (List.mem_append_left _ member)
          simp [Occurrence.isArrival] at once
      | handedOut again other =>
          obtain ⟨before, earlierPresent, due, -⟩ := lawful.allowed.2.2 again other rfl
          obtain ⟨deadline, ends, le⟩ := hypothesis lawfulBefore unrefusedBefore earlierPresent
          have passed := HeldMessage.isDue_eq_true_iff.mp due deadline ends
          obtain ⟨-, -, rfl⟩ := Option.map_eq_some_iff.mp present
          exact ⟨again + span.nanos, rfl, by omega⟩
      | refused => simp at unrefused
      | acknowledged => simp [Occurrence.apply] at present

/-- The deadline of a message is that of a time at which it was handed out, not refused and not
handed out again since. -/
theorem exists_handedOut_of_deadline
    {held : HeldMessage}
    {deadline : Nat}
    (present : standing span history = some held)
    (ends : held.deadline = some deadline) :
    ∃ earlier time envelope later, history = earlier ++ .handedOut time envelope :: later ∧
      (∀ occurrence ∈ later, occurrence.isHandOut = false) ∧ .refused ∉ later ∧
      deadline = time + span.nanos := by
  induction history using List.reverseRecOn generalizing held with
  | nil => simp at present
  | append_singleton history occurrence hypothesis =>
      rw [standing_append_singleton] at present
      cases occurrence with
      | arrived envelope =>
          simp only [Occurrence.apply, Option.some.injEq] at present
          simp [← present] at ends
      | handedOut time envelope =>
          obtain ⟨before, -, rfl⟩ := Option.map_eq_some_iff.mp present
          exact ⟨history, time, envelope, [], rfl, by simp, by simp, (Option.some.inj ends).symm⟩
      | refused =>
          obtain ⟨before, -, rfl⟩ := Option.map_eq_some_iff.mp present
          simp at ends
      | acknowledged => simp [Occurrence.apply] at present

/-! ## Laws of redelivery -/

/-- A message is not handed out again before its deadline has passed or it was refused. -/
theorem refused_or_le_of_handedOut_twice
    {time again : Nat}
    {envelope other : Envelope}
    {between : List Occurrence}
    (lawful : Lawful span number
      (earlier ++ .handedOut time envelope :: between ++ .handedOut again other :: later)) :
    .refused ∈ between ∨ time + span.nanos ≤ again := by
  by_cases refused : Occurrence.refused ∈ between
  · exact .inl refused
  · right
    obtain ⟨held, present, due, -⟩ := lawful.exists_of_handedOut
    obtain ⟨deadline, ends, le⟩ := deadline_of_handedOut lawful.of_append refused present
    exact Nat.le_trans le (HeldMessage.isDue_eq_true_iff.mp due deadline ends)

/-- A message that was acknowledged is not handed out again. -/
theorem not_isHandOut_of_acknowledged
    {envelope : Envelope}
    {between : List Occurrence}
    (lawful : Lawful span number
      (earlier ++ .arrived envelope :: between ++ .acknowledged :: later)) :
    ∀ occurrence ∈ later, occurrence.isHandOut = false := by
  rintro (_ | ⟨time, other⟩ | _ | _) member
  case handedOut =>
    obtain ⟨before, after, rfl⟩ := List.append_of_mem member
    have regrouped : earlier ++ .arrived envelope :: between ++
        .acknowledged :: (before ++ .handedOut time other :: after) =
        (earlier ++ .arrived envelope :: (between ++ .acknowledged :: before)) ++
          .handedOut time other :: after := by
      simp
    rw [regrouped] at lawful
    obtain ⟨held, present, -⟩ := lawful.exists_of_handedOut
    rw [standing_eq_none_of_acknowledged lawful.of_append (by simp)] at present
    cases present
  all_goals rfl

/-- A message that is held is due exactly if it was refused since it was last handed out, or its
deadline has passed. -/
theorem isDue_iff_of_standing
    {held : HeldMessage}
    (lawful : Lawful span number history)
    (present : standing span history = some held)
    (now : Nat) :
    held.isDue now = true ↔
      ∀ earlier time envelope later, history = earlier ++ .handedOut time envelope :: later →
        (∀ occurrence ∈ later, occurrence.isHandOut = false) →
        .refused ∈ later ∨ time + span.nanos ≤ now := by
  constructor
  · rintro due earlier time envelope later rfl -
    by_cases refused : Occurrence.refused ∈ later
    · exact .inl refused
    · right
      obtain ⟨deadline, ends, le⟩ := deadline_of_handedOut lawful refused present
      exact Nat.le_trans le (HeldMessage.isDue_eq_true_iff.mp due deadline ends)
  · intro passed
    rw [HeldMessage.isDue_eq_true_iff]
    intro deadline ends
    obtain ⟨earlier, time, envelope, later, split, last, unrefused, rfl⟩ :=
      exists_handedOut_of_deadline present ends
    exact (passed earlier time envelope later split last).resolve_left unrefused

end Broker
end PubSub
