import BpkMessenger.Server.Requests

namespace BpkMessenger.Server

open Text

/-! Runs of the server: payloads of any clients in the order in which they are
handled, one at a time. -/

structure Frame (pg : Postgres) where
  payload : Bytes
  opcode : Opcode
  chances : List pg.Chance

/-- A handled message, with the committed states around it. -/
structure Entry where
  payload : Bytes
  before : Store
  sent : List Message
  after : Store

variable {pg : Postgres}

def Frame.entry (frame : Frame pg) (store : Store) : Entry :=
  let (sent, after) := onMessage frame.chances store frame.payload frame.opcode
  ⟨frame.payload, store, sent, after⟩

def onMessages (store : Store) : List (Frame pg) → List Entry × Store
  | [] => ([], store)
  | frame :: later =>
      let entry := frame.entry store
      let (entries, final) := onMessages entry.after later
      (entry :: entries, final)

/-- The message was taken for a call, and this reply went back. -/
def Entry.Answered (entry : Entry) (call : Call) (reply : Reply) : Prop :=
  Spelled entry.payload call ∧ ∃ opcode, entry.sent = [⟨opcode, .reply reply⟩]

theorem Spelled.unique {payload : Bytes} {first second : Call}
    (one : Spelled payload first) (other : Spelled payload second) : first = second := by
  have same := (dispatch_of_spelled one).symm.trans (dispatch_of_spelled other)
  cases same
  rfl

/-- What a message does: nothing to the store, or what its call does. -/
def Entry.Lawful (entry : Entry) : Prop :=
  (∀ call, ¬ Spelled entry.payload call) ∧ entry.after = entry.before ∨
    ∃ call reply, entry.Answered call reply ∧ Served entry.before call reply entry.after

theorem Frame.entry_payload (frame : Frame pg) (store : Store) :
    (frame.entry store).payload = frame.payload := rfl

theorem Frame.entry_answered (frame : Frame pg) {call : Call}
    (spelled : Spelled frame.payload call) (store : Store) :
    (frame.entry store).Answered call (call.run frame.chances store).1 := by
  refine ⟨spelled, frame.opcode, ?_⟩
  rw [Frame.entry, onMessage_call (dispatch_of_spelled spelled)]

theorem Frame.entry_lawful (frame : Frame pg) (store : Store) :
    (frame.entry store).Lawful := by
  obtain ⟨payload, opcode, chances⟩ := frame
  by_cases unspelled : ∀ call, ¬ Spelled payload call
  · refine .inl ⟨unspelled, ?_⟩
    apply onMessage_undispatched
    intro call dispatched
    exact unspelled call (spelled_of_dispatch dispatched)
  · simp only [not_forall, not_not] at unspelled
    obtain ⟨call, spelled⟩ := unspelled
    right
    rw [Frame.entry, onMessage_call (dispatch_of_spelled spelled)]
    exact ⟨call, _, ⟨spelled, opcode, rfl⟩, Call.run_served rfl⟩

namespace Entry

variable {entry : Entry} {call : Call} {reply : Reply}

theorem Lawful.served (lawful : entry.Lawful) (answered : entry.Answered call reply) :
    Served entry.before call reply entry.after := by
  obtain ⟨spelled, opcode, sent⟩ := answered
  rcases lawful with ⟨unspelled, -⟩ | ⟨other, given, ⟨otherSpelled, _, otherSent⟩, served⟩
  · exact absurd spelled (unspelled call)
  · cases otherSpelled.unique spelled
    rw [sent] at otherSent
    cases otherSent
    exact served

theorem Lawful.grows (lawful : entry.Lawful) : entry.before.Grows entry.after := by
  rcases lawful with ⟨-, same⟩ | ⟨call, reply, -, served⟩
  · rw [same]
    exact Store.Grows.refl entry.before
  · exact served.grows

end Entry

/-! What every run keeps. -/

theorem onMessages_lawful {store : Store} {frames : List (Frame pg)} {entry : Entry}
    (member : entry ∈ (onMessages store frames).1) : entry.Lawful := by
  induction frames generalizing store with
  | nil => exact absurd member List.not_mem_nil
  | cons frame later induction =>
      rcases List.mem_cons.mp member with rfl | member
      · exact frame.entry_lawful store
      · exact induction member

theorem onMessages_grows {store : Store} {frames : List (Frame pg)} {entry : Entry}
    (member : entry ∈ (onMessages store frames).1) : store.Grows entry.before := by
  induction frames generalizing store with
  | nil => exact absurd member List.not_mem_nil
  | cons frame later induction =>
      have grown : store.Grows (frame.entry store).after :=
        (frame.entry_lawful store).grows
      rcases List.mem_cons.mp member with rfl | member
      · exact Store.Grows.refl store
      · exact grown.trans (induction member)

/-- A later message meets the store that an earlier one left, grown. -/
theorem onMessages_ordered {store : Store} {frames : List (Frame pg)} :
    (onMessages store frames).1.Pairwise fun first second =>
      first.after.Grows second.before := by
  induction frames generalizing store with
  | nil => exact List.Pairwise.nil
  | cons frame later induction =>
      refine List.pairwise_cons.mpr ⟨?_, induction⟩
      intro entry member
      exact onMessages_grows member

theorem onMessages_split {store : Store} {frames : List (Frame pg)}
    {earlier later : List Entry} {entry : Entry}
    (ran : (onMessages store frames).1 = earlier ++ entry :: later) :
    entry.Lawful ∧ ∀ other ∈ later, other.Lawful ∧ entry.after.Grows other.before := by
  have lawful : ∀ other ∈ earlier ++ entry :: later, other.Lawful := by
    rw [← ran]
    exact fun other member => onMessages_lawful member
  have ordered := @onMessages_ordered pg store frames
  rw [ran] at ordered
  have past := (List.pairwise_cons.mp (List.pairwise_append.mp ordered).2.1).1
  refine ⟨lawful entry (by simp), fun other member => ⟨lawful other ?_, past other member⟩⟩
  exact List.mem_append_right earlier (List.mem_cons_of_mem entry member)

/-- An invariant of the committed state, and of what has been handled so far. -/
theorem onMessages_invariant {holds : List Entry → Store → Prop} {store : Store}
    (first : holds [] store)
    (kept : ∀ {handled entry}, Entry.Lawful entry → holds handled entry.before →
      holds (handled ++ [entry]) entry.after)
    (frames : List (Frame pg)) :
    holds (onMessages store frames).1 (onMessages store frames).2 := by
  have general : ∀ (frames : List (Frame pg)) handled store, holds handled store →
      holds (handled ++ (onMessages store frames).1) (onMessages store frames).2 := by
    intro frames
    induction frames with
    | nil =>
        intro handled store held
        rw [onMessages, List.append_nil]
        exact held
    | cons frame later induction =>
        intro handled store held
        have rest := induction _ _ (kept (frame.entry_lawful store) held)
        rwa [List.append_assoc] at rest
  exact general frames [] store first

end BpkMessenger.Server
