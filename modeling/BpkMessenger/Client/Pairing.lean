import BpkMessenger.Client.Socket
import BpkMessenger.Server.Requests
import BpkMessenger.Server.Reference

namespace BpkMessenger.Client.Socket

open Text Server Interaction

/-! Requests and replies of the clients, at the server's `on_message`. -/

variable {ι σ Chance : Type} {pg : Postgres}

inductive Adds (handler : Chance → σ → Bytes → List Bytes × σ) (calls : Nat) :
    List Record → Nat → Prop
  | nothing : Adds handler calls [] calls
  | asked {request : Bytes} : Adds handler calls [.asked (calls + 1) request] (calls + 1)
  | handled {chance : Chance} {store : σ} {call : Nat} {request : Bytes} :
      Adds handler calls [.handled call request (handler chance store request).1] calls
  | returned {reply : Bytes} : Adds handler calls [.returned calls reply] calls

section Log

variable {handler : Chance → σ → Bytes → List Bytes × σ}
  {connection after : Connection} {store stored : σ}

theorem adds_of_act {action : Action Chance}
    (acts : connection.act handler store action = some (after, stored)) :
    ∃ records, after.log = connection.log ++ records ∧
      Adds handler connection.calls records after.calls := by
  cases Connection.acted acts with
  | assign idle => exact ⟨_, rfl, .asked⟩
  | get waiting value => exact ⟨_, rfl, .returned⟩
  | handle arriving => exact ⟨_, rfl, .handled⟩
  | _ => exact ⟨[], (List.append_nil connection.log).symm, .nothing⟩

/-- No two calls have a number, and what is sent back is what the handler computes. -/
structure Recorded (handler : Chance → σ → Bytes → List Bytes × σ)
    (connection : Connection) : Prop where
  numbered : ∀ call request, .asked call request ∈ connection.log → call ≤ connection.calls
  distinct : ∀ call first second, .asked call first ∈ connection.log →
    .asked call second ∈ connection.log → first = second
  computed : ∀ call request sent, .handled call request sent ∈ connection.log →
    ∃ chance store, (handler chance store request).1 = sent

theorem Recorded.initial : Recorded handler .initial :=
  ⟨fun _ _ member => absurd member List.not_mem_nil,
    fun _ _ _ member => absurd member List.not_mem_nil,
    fun _ _ _ member => absurd member List.not_mem_nil⟩

private theorem asked_cases {calls later call : Nat} {request : Bytes}
    {log records : List Record} (adds : Adds handler calls records later)
    (member : .asked call request ∈ log ++ records) :
    .asked call request ∈ log ∧ calls ≤ later ∨
      records = [.asked call request] ∧ call = calls + 1 ∧ later = calls + 1 := by
  rcases List.mem_append.mp member with earlier | new
  · left
    refine ⟨earlier, ?_⟩
    cases adds <;> omega
  · right
    cases adds with
    | nothing => exact absurd new List.not_mem_nil
    | asked =>
        cases List.mem_singleton.mp new
        exact ⟨rfl, rfl, rfl⟩
    | handled => cases List.mem_singleton.mp new
    | returned => cases List.mem_singleton.mp new

theorem Recorded.act {action : Action Chance} (recorded : Recorded handler connection)
    (acted : connection.act handler store action = some (after, stored)) :
    Recorded handler after := by
  obtain ⟨numbered, distinct, computed⟩ := recorded
  obtain ⟨records, log, adds⟩ := adds_of_act acted
  refine ⟨?_, ?_, ?_⟩
  · intro call request member
    rw [log] at member
    rcases asked_cases adds member with ⟨earlier, more⟩ | ⟨-, same, later⟩
    · exact (numbered call request earlier).trans more
    · omega
  · intro call first second firstMember secondMember
    rw [log] at firstMember secondMember
    rcases asked_cases adds firstMember with ⟨firstEarlier, -⟩ | ⟨firstNew, firstCall, -⟩
    · rcases asked_cases adds secondMember with ⟨secondEarlier, -⟩ | ⟨-, secondCall, -⟩
      · exact distinct call first second firstEarlier secondEarlier
      · have bound := numbered call first firstEarlier
        omega
    · rcases asked_cases adds secondMember with ⟨secondEarlier, -⟩ | ⟨secondNew, -, -⟩
      · have bound := numbered call second secondEarlier
        omega
      · rw [firstNew] at secondNew
        cases secondNew
        rfl
  · intro call request sent member
    rw [log] at member
    rcases List.mem_append.mp member with earlier | new
    · exact computed call request sent earlier
    · generalize after.calls = later at adds
      cases adds with
      | nothing => exact absurd new List.not_mem_nil
      | @handled chance store =>
          cases List.mem_singleton.mp new
          exact ⟨chance, store, rfl⟩
      | asked => cases List.mem_singleton.mp new
      | returned => cases List.mem_singleton.mp new

end Log

/-- `on_message` for one request, as the connection sees it. -/
def answering (pg : Postgres) (chances : List pg.Chance) (store : Store) (request : Bytes) :
    List Bytes × Store :=
  let (sent, after) := Server.onMessage chances store request .text
  (sent.map Message.payload, after)

theorem answering_length (chances : List pg.Chance) (store : Store) (request : Bytes) :
    (answering pg chances store request).1.length ≤ 1 := by
  rw [answering, List.length_map]
  exact onMessage_length chances store request .text

/-- Replies are never mispaired: a call that returns does so with what `on_message`
computed for its own request, and a reply that arrives finds the promise of its own,
latest call, without a value. -/
theorem calls_paired [DecidableEq ι] {store : Store} {network : Network ι Store}
    (reached : Reached (Network.step (answering pg)) (fun _ _ => True)
      (Network.initial store) network) (client : ι) :
    (∀ call reply, .returned call reply ∈ (network.connections client).log →
      ∃ request, .asked call request ∈ (network.connections client).log ∧
        (∀ other, .asked call other ∈ (network.connections client).log →
          other = request) ∧
        .handled call request [reply] ∈ (network.connections client).log ∧
          ∃ chances before, (answering pg chances before request).1 = [reply]) ∧
    ∀ parcel rest, (network.connections client).toClient = parcel :: rest →
      (network.connections client).p = ⟨parcel.call, none⟩ ∧
        parcel.call = (network.connections client).calls := by
  have kept : Paired (network.connections client) ∧
      Recorded (answering pg) (network.connections client) := by
    apply @Network.reached_connection ι Store _ _ (answering pg) (fun _ _ => True)
      (fun connection => Paired connection ∧ Recorded (answering pg) connection)
      ⟨.initial, .initial⟩ _ store network reached client
    intro connection store action after stored kept _ acted
    exact ⟨kept.1.act answering_length acted, kept.2.act acted⟩
  obtain ⟨⟨threaded, returned⟩, numbered, distinct, computed⟩ := kept
  refine ⟨?_, ?_⟩
  · intro call reply member
    obtain ⟨request, asked, handled⟩ := returned call reply member
    exact ⟨request, asked, fun other again => distinct call other request again asked,
      handled, computed call request [reply] handled⟩
  · intro parcel rest arriving
    rw [arriving] at threaded
    exact threaded.arriving

def callMoves (client : ι) (request : Bytes) (chance : Chance) : List (Move ι Chance) :=
  [.assign request, .send, .wait, .handle chance, .onMessage, .get].map fun action =>
    ⟨client, action⟩

theorem calls_paired_echo :
    ∃ network : Network Unit Store,
      .returned 1 (ascii "hi") ∈ (network.connections ()).log ∧
        ∃ request, .asked 1 request ∈ (network.connections ()).log ∧
          .handled 1 request [ascii "hi"] ∈ (network.connections ()).log := by
  have ran : (run (Network.step (answering Reference.postgres)) (fun _ _ _ => true)
      (Network.initial Store.empty)
      (⟨(), .onOpen⟩ :: callMoves () (ascii "echo hi") [])).map (fun network =>
        (network.connections ()).log.contains (.returned 1 (ascii "hi"))) = some true := by
    decide +kernel
  obtain ⟨network, found, contained⟩ := Option.map_eq_some_iff.mp ran
  have member := List.contains_iff_mem.mp contained
  obtain ⟨request, asked, -, handled, -⟩ :=
    (calls_paired (Reached.of_run (fun _ _ => trivial) .start found) ()).1 1 _ member
  exact ⟨network, member, request, asked, handled⟩

end BpkMessenger.Client.Socket
