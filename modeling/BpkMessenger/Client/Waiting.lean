import BpkMessenger.Client.Socket

namespace BpkMessenger.Client.Socket

open Text Interaction

/-! A UI thread that waits, and whether anybody is going to answer it.  `send` drops
the error code, while the destructor of the endpoint looks at the one of `close` and
returns. -/

variable {ι σ Chance : Type}

def Expected (connection : Connection) : Prop :=
  (∃ parcel ∈ connection.toServer, parcel.call = connection.calls) ∨
    (∃ parcel ∈ connection.toClient, parcel.call = connection.calls) ∨
      connection.p.value.isSome

/-- The UI thread is behind `send`, and inside `send_blocking`. -/
def Thread.Committed (thread : Thread) : Prop :=
  thread = .sent ∨ thread = .waiting

/-- Requests are sent on an open connection and in UTF-8, and the connection does not
close before their replies are there. -/
def Attended (connection : Connection) : Action Chance → Prop
  | .send => ∀ request, connection.thread = .assigned request →
      connection.status = .opened ∧ validUtf8 request = true
  | .onClose _ => connection.thread.Committed → connection.p.value ≠ none
  | _ => True

/-- An open question has an open connection, and something under way. -/
def Unlost (connection : Connection) : Prop :=
  connection.thread.Committed → connection.p.value = none →
    connection.status = .opened ∧
      (connection.toServer ≠ [] ∨ connection.toClient ≠ [])

theorem Flight.expected {log : List Record} {call : Nat} {toServer toClient : List Parcel}
    {value : Option Bytes} (flight : Flight log call toServer toClient value)
    (underway : value = none → toServer ≠ [] ∨ toClient ≠ []) :
    (∃ parcel ∈ toServer, parcel.call = call) ∨ (∃ parcel ∈ toClient, parcel.call = call) ∨
      value.isSome := by
  cases flight with
  | request asked => exact .inl ⟨_, List.mem_singleton_self _, rfl⟩
  | reply asked handled => exact .inr (.inl ⟨_, List.mem_singleton_self _, rfl⟩)
  | arrived asked handled => exact .inr (.inr rfl)
  | lost =>
      rcases underway rfl with nonempty | nonempty
      · exact absurd rfl nonempty
      · exact absurd rfl nonempty

theorem expected_of_unlost {connection : Connection} (paired : Paired connection)
    (unlost : Unlost connection) (waiting : connection.thread = .waiting) :
    Expected connection := by
  obtain ⟨threaded, returned⟩ := paired
  have underway := fun value => (unlost (.inr waiting) value).2
  obtain ⟨status, p, thread, calls, toServer, toClient, log⟩ := connection
  dsimp only at waiting threaded underway
  subst waiting
  cases threaded with
  | waiting flight => exact flight.expected underway

theorem not_committed_idle : ¬ Thread.idle.Committed := by
  rintro (same | same) <;> contradiction

theorem not_committed_assigned (request : Bytes) : ¬ (Thread.assigned request).Committed := by
  rintro (same | same) <;> contradiction

section Actions

variable {handler : Chance → σ → Bytes → List Bytes × σ}
  {connection after : Connection} {store stored : σ}

theorem Unlost.initial : Unlost .initial :=
  fun committed => absurd committed not_committed_idle

theorem Unlost.act (once : ∀ chance store request,
      (handler chance store request).1.length = 1) {action : Action Chance}
    (unlost : Unlost connection) (attended : Attended connection action)
    (acts : connection.act handler store action = some (after, stored)) : Unlost after := by
  cases Connection.acted acts with
  | onOpen connecting =>
      intro committed value
      exact ⟨rfl, (unlost committed value).2⟩
  | onFail connecting =>
      intro committed value
      have opened := (unlost committed value).1.symm.trans connecting
      contradiction
  | onClose opened =>
      intro committed value
      exact absurd value (attended committed)
  | assign idle => exact fun committed => absurd committed (not_committed_assigned _)
  | @send request assigned =>
      obtain ⟨opened, valid⟩ := attended request assigned
      intro committed value
      refine ⟨opened, .inl ?_⟩
      simp [Connection.posts, opened, valid]
  | wait sent => exact fun _ value => unlost (.inl sent) value
  | get waiting value => exact fun committed => absurd committed not_committed_idle
  | @handle chance parcel rest arriving =>
      intro committed value
      have opened := (unlost committed value).1
      refine ⟨opened, .inr ?_⟩
      obtain ⟨reply, single⟩ := List.length_eq_one_iff.mp (once chance store parcel.payload)
      simp [Connection.answers, opened, single]
  | onMessage arriving =>
      exact fun _ missing => absurd missing (Promise.setValue_ne_none _ _)

end Actions

/-- Whoever waits is answered by what is under way, in every run whose requests are
sent on an open connection that stays open for the reply. -/
theorem waiting_expected [DecidableEq ι] {handler : Chance → σ → Bytes → List Bytes × σ}
    (once : ∀ chance store request, (handler chance store request).1.length = 1)
    {store : σ} {network : Network ι σ}
    (reached : Reached (Network.step handler)
      (fun network move => Attended (network.connections move.client) move.action)
      (Network.initial store) network) {client : ι}
    (waiting : (network.connections client).thread = .waiting) :
    Expected (network.connections client) := by
  have kept : Paired (network.connections client) ∧
      Unlost (network.connections client) := by
    apply @Network.reached_connection ι σ Chance _ handler Attended
      (fun connection => Paired connection ∧ Unlost connection)
      ⟨.initial, .initial⟩ _ store network reached client
    intro connection store action after stored kept attended acted
    have atMostOne := fun chance store request => (once chance store request).le
    exact ⟨kept.1.act atMostOne acted, kept.2.act once attended acted⟩
  exact expected_of_unlost kept.1 kept.2 waiting

/-! With a server that answers every message by its own text. -/

def echoing (_ : Unit) (store : Unit) (request : Bytes) : List Bytes × Unit :=
  ([request], store)

def attends (connection : Connection) : Action Unit → Bool
  | .send =>
      match connection.thread with
      | .assigned request => connection.status = .opened && validUtf8 request
      | _ => true
  | .onClose _ => false
  | _ => true

theorem attended_of_attends {connection : Connection} {action : Action Unit}
    (attending : attends connection action = true) : Attended connection action := by
  cases action with
  | send =>
      intro request assigned
      simp only [attends, assigned] at attending
      simpa using attending
  | onClose arrived => contradiction
  | _ => exact trivial

theorem waiting_expected_echoing :
    ∃ network : Network Unit Unit, (network.connections ()).thread = .waiting ∧
      Expected (network.connections ()) := by
  have ran : (run (Network.step echoing)
      (fun network _ move => attends (network.connections move.client) move.action)
      (Network.initial ())
      [⟨(), .onOpen⟩, ⟨(), .assign (ascii "find_user ann")⟩, ⟨(), .send⟩,
        ⟨(), .wait⟩]).map (fun network => (network.connections ()).thread) =
          some .waiting := by
    decide
  obtain ⟨network, found, waiting⟩ := Option.map_eq_some_iff.mp ran
  have reached : Reached (Network.step echoing)
      (fun network move => Attended (network.connections move.client) move.action)
      (Network.initial ()) network :=
    Reached.of_run (fun _ attending => attended_of_attends attending) .start found
  exact ⟨network, waiting, waiting_expected (fun _ _ _ => rfl) reached waiting⟩

/-- A request before the connection is open is lost, and waited for. -/
theorem waiting_unexpected :
    ∃ network : Network Unit Unit,
      Reached (Network.step echoing) (fun _ _ => True) (Network.initial ()) network ∧
        (network.connections ()).thread = .waiting ∧
          ¬ Expected (network.connections ()) := by
  have ran : (run (Network.step echoing) (fun _ _ _ => true) (Network.initial ())
      [⟨(), .assign (ascii "find_user ann")⟩, ⟨(), .send⟩, ⟨(), .wait⟩, ⟨(), .onOpen⟩]).map
        (fun network => network.connections ()) =
          some ⟨.opened, ⟨1, none⟩, .waiting, 1, [], [],
            [.asked 1 (ascii "find_user ann")]⟩ := by
    decide
  obtain ⟨network, found, connection⟩ := Option.map_eq_some_iff.mp ran
  refine ⟨network, Reached.of_run (fun _ _ => trivial) .start found, ?_, ?_⟩
  · rw [connection]
  · rw [connection]
    simp [Expected]

end BpkMessenger.Client.Socket
