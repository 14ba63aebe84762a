import BpkMessenger.Client.Received
import BpkMessenger.Client.Socket
import BpkMessenger.Interaction.Lasting

namespace BpkMessenger.Client

open Text Server Interaction

/-! The clients with their windows and their connections: a handler that sends blocks in
`send_blocking`, and goes on with what it reads of the text that its promise got. -/

variable {ι σ W Event Request Reply Output Chance : Type}

/-- How a machine's requests and replies travel as texts. -/
structure Wiring (machine : Machine σ W Event Request Reply Output Chance) where
  payload : Request → Bytes
  receive : Chance → σ → Bytes → List Bytes × σ
  read : Bytes → Option Reply
  served : ∀ chance store request,
    (∃ after, machine.serve chance store request = (none, after) ∧
      receive chance store (payload request) = ([], after)) ∨
    ∃ reply text after, machine.serve chance store request = (some reply, after) ∧
      receive chance store (payload request) = ([text], after) ∧ read text = some reply

structure Peer (W Event Request Reply Output : Type) where
  activity : Activity W Event Request Reply Output
  connection : Socket.Connection

structure Network (ι σ W Event Request Reply Output : Type) where
  store : σ
  peers : ι → Peer W Event Request Reply Output

namespace Network

inductive Move (ι Event Chance : Type) where
  | start (client : ι) (event : Event)
  | act (client : ι) (action : Socket.Action Chance)

end Network

section Steps

variable {machine : Machine σ W Event Request Reply Output Chance}

/-- `send_blocking` is called by a handler that sends, with the text of its request;
what it returns is read, and the handler goes on. -/
def Peer.act (wiring : Wiring machine) (store : σ)
    (peer : Peer W Event Request Reply Output) (action : Socket.Action Chance) :
    Option (Peer W Event Request Reply Output × σ) :=
  match action, peer.activity with
  | .assign text, .running _ _ (.ask request _ _) =>
      if text = wiring.payload request then
        (peer.connection.act wiring.receive store action).map fun (connection, after) =>
          ({ peer with connection := connection }, after)
      else none
  | .get, .running window event (.ask request again next) => do
      let (connection, after) ← peer.connection.act wiring.receive store action
      let text ← peer.connection.p.value
      let reply ← wiring.read text
      let program := if again reply then .ask request again next else next reply
      return (⟨settle window event program, connection⟩, after)
  | .assign _, _ => none
  | .get, _ => none
  | _, _ =>
      (peer.connection.act wiring.receive store action).map fun (connection, after) =>
        ({ peer with connection := connection }, after)

/-- What an action makes of the handler. -/
inductive Peer.Proceeds (wiring : Wiring machine) (peer : Peer W Event Request Reply Output) :
    Socket.Action Chance → Activity W Event Request Reply Output → Prop
  | assigns {window : W} {event : Event} {request : Request} {again : Reply → Bool}
      {next : Reply → Program Request Reply Output W}
      (running : peer.activity = .running window event (.ask request again next)) :
      Proceeds wiring peer (.assign (wiring.payload request)) peer.activity
  | reads {window : W} {event : Event} {request : Request} {again : Reply → Bool}
      {next : Reply → Program Request Reply Output W} {text : Bytes} {reply : Reply}
      (running : peer.activity = .running window event (.ask request again next))
      (arrived : peer.connection.p.value = some text)
      (read : wiring.read text = some reply) :
      Proceeds wiring peer .get
        (settle window event (if again reply then .ask request again next else next reply))
  | stays {action : Socket.Action Chance} (other : ∀ text, action ≠ .assign text)
      (blocked : action ≠ .get) : Proceeds wiring peer action peer.activity

theorem Peer.Proceeds.kept {wiring : Wiring machine} {peer : Peer W Event Request Reply Output}
    {action : Socket.Action Chance} {after : Activity W Event Request Reply Output}
    (proceeds : peer.Proceeds wiring action after) (unread : action ≠ .get) :
    after = peer.activity := by
  cases proceeds with
  | reads running arrived read => contradiction
  | _ => rfl

theorem Peer.acted {wiring : Wiring machine} {store stored : σ}
    {peer after : Peer W Event Request Reply Output} {action : Socket.Action Chance}
    (acts : peer.act wiring store action = some (after, stored)) :
    Socket.Connection.Acted wiring.receive store peer.connection action after.connection
        stored ∧ peer.Proceeds wiring action after.activity := by
  unfold Peer.act at acts
  split at acts
  · next text window event request again next running =>
      split_ifs at acts with same
      subst same
      obtain ⟨⟨connection, last⟩, acted, same⟩ := Option.map_eq_some_iff.mp acts
      cases same
      exact ⟨Socket.Connection.acted acted, .assigns running⟩
  · next window event request again next running =>
      simp only [Option.bind_eq_bind, Option.bind_eq_some_iff] at acts
      obtain ⟨⟨connection, stored⟩, acted, text, arrived, reply, read, same⟩ := acts
      cases same
      exact ⟨Socket.Connection.acted acted, .reads running arrived read⟩
  · contradiction
  · contradiction
  · next unassigned unread _ _ =>
      obtain ⟨⟨connection, last⟩, acted, same⟩ := Option.map_eq_some_iff.mp acts
      cases same
      exact ⟨Socket.Connection.acted acted, .stays unassigned unread⟩

variable [DecidableEq ι]

def Network.put (network : Network ι σ W Event Request Reply Output) (store : σ) (client : ι)
    (peer : Peer W Event Request Reply Output) : Network ι σ W Event Request Reply Output :=
  ⟨store, Function.update network.peers client peer⟩

def Network.step (wiring : Wiring machine)
    (network : Network ι σ W Event Request Reply Output) :
    Network.Move ι Event Chance → Option (Network ι σ W Event Request Reply Output)
  | .start client event =>
      match (network.peers client).activity with
      | .idle window =>
          (machine.handler window event).map fun program =>
            network.put network.store client
              { network.peers client with activity := settle window event program }
      | _ => none
  | .act client action =>
      ((network.peers client).act wiring network.store action).map fun (peer, after) =>
        network.put after client peer

end Steps

/-! How far the latest call of a connection has got. -/

namespace Socket

inductive Stage
  | quiet
  | asks (request : Bytes)
  | answered (reply : Bytes)
  | lost

/-- Behind `send`, before the future is there. -/
inductive Thread.Blocked : Thread → Prop
  | sent : Blocked .sent
  | waiting : Blocked .waiting

inductive Stands : Thread → Option Bytes → List Parcel → List Parcel → Stage → Prop
  | quiet {value : Option Bytes} : Stands .idle value [] [] .quiet
  | assigned {request : Bytes} : Stands (.assigned request) none [] [] (.asks request)
  | asks {thread : Thread} {parcel : Parcel} (blocked : thread.Blocked) :
      Stands thread none [parcel] [] (.asks parcel.payload)
  | replied {thread : Thread} {parcel : Parcel} (blocked : thread.Blocked) :
      Stands thread none [] [parcel] (.answered parcel.payload)
  | arrived {thread : Thread} {reply : Bytes} (blocked : thread.Blocked) :
      Stands thread (some reply) [] [] (.answered reply)
  | lost {thread : Thread} (blocked : thread.Blocked) : Stands thread none [] [] .lost

def Connection.Stands (connection : Connection) : Stage → Prop :=
  Socket.Stands connection.thread connection.p.value connection.toServer connection.toClient

/-- Neither the UI thread calls or returns, nor the server answers. -/
def Action.passive : Action Chance → Bool
  | .assign _ | .get | .handle _ => false
  | _ => true

theorem Action.unread {action : Action Chance} (passive : action.passive = true) :
    action ≠ .get := by
  rintro rfl
  contradiction

/-- What an action makes of the stage. -/
inductive Stage.Moves (handler : Chance → σ → Bytes → List Bytes × σ) (store : σ) :
    Stage → Action Chance → Stage → σ → Prop
  | stays {stage : Stage} {action : Action Chance} (passive : action.passive = true) :
      Moves handler store stage action stage store
  | loses {stage : Stage} {action : Action Chance} (begun : stage ≠ .quiet)
      (passive : action.passive = true) : Moves handler store stage action .lost store
  | assigns {request : Bytes} :
      Moves handler store .quiet (.assign request) (.asks request) store
  | gets {reply : Bytes} : Moves handler store (.answered reply) .get .quiet store
  | answers {request reply : Bytes} {chance : Chance}
      (sent : (handler chance store request).1 = [reply]) :
      Moves handler store (.asks request) (.handle chance) (.answered reply)
        (handler chance store request).2
  | drops {request : Bytes} {chance : Chance} :
      Moves handler store (.asks request) (.handle chance) .lost
        (handler chance store request).2

theorem Stands.close {thread : Thread} {value : Option Bytes} {toServer toClient : List Parcel}
    {stage : Stage} (stands : Stands thread value toServer toClient stage) (arrived : Nat) :
    Stands thread value (toServer.take arrived) [] stage ∨
      stage ≠ .quiet ∧ Stands thread value (toServer.take arrived) [] .lost := by
  cases stands with
  | quiet =>
      rw [List.take_nil]
      exact .inl .quiet
  | assigned =>
      rw [List.take_nil]
      exact .inl .assigned
  | asks blocked =>
      cases arrived with
      | zero => exact .inr ⟨by simp, .lost blocked⟩
      | succ arrived =>
          rw [List.take_succ_cons, List.take_nil]
          exact .inl (.asks blocked)
  | replied blocked =>
      rw [List.take_nil]
      exact .inr ⟨by simp, .lost blocked⟩
  | arrived blocked =>
      rw [List.take_nil]
      exact .inl (.arrived blocked)
  | lost blocked =>
      rw [List.take_nil]
      exact .inl (.lost blocked)

section Stands

variable {thread : Thread} {value : Option Bytes} {toServer toClient rest : List Parcel}
  {stage : Stage}

theorem Stands.assign (stands : Stands .idle value toServer toClient stage) :
    stage = .quiet ∧ toServer = [] ∧ toClient = [] := by
  cases stands with
  | quiet => exact ⟨rfl, rfl, rfl⟩
  | asks blocked => cases blocked
  | replied blocked => cases blocked
  | arrived blocked => cases blocked
  | lost blocked => cases blocked

theorem Stands.send {request : Bytes}
    (stands : Stands (.assigned request) value toServer toClient stage) :
    stage = .asks request ∧ value = none ∧ toServer = [] ∧ toClient = [] := by
  cases stands with
  | assigned => exact ⟨rfl, rfl, rfl, rfl⟩
  | asks blocked => cases blocked
  | replied blocked => cases blocked
  | arrived blocked => cases blocked
  | lost blocked => cases blocked

theorem Stands.wait (stands : Stands .sent value toServer toClient stage) :
    Stands .waiting value toServer toClient stage := by
  cases stands with
  | asks blocked => exact .asks .waiting
  | replied blocked => exact .replied .waiting
  | arrived blocked => exact .arrived .waiting
  | lost blocked => exact .lost .waiting

theorem Stands.get {reply : Bytes}
    (stands : Stands .waiting (some reply) toServer toClient stage) :
    stage = .answered reply ∧ toServer = [] ∧ toClient = [] := by
  cases stands with
  | arrived blocked => exact ⟨rfl, rfl, rfl⟩

theorem Stands.handle {parcel : Parcel}
    (stands : Stands thread value (parcel :: rest) toClient stage) :
    stage = .asks parcel.payload ∧ thread.Blocked ∧ value = none ∧ rest = [] ∧
      toClient = [] := by
  cases stands with
  | asks blocked => exact ⟨rfl, blocked, rfl, rfl, rfl⟩

theorem Stands.onMessage {parcel : Parcel}
    (stands : Stands thread value toServer (parcel :: rest) stage) :
    stage = .answered parcel.payload ∧ thread.Blocked ∧ value = none ∧ toServer = [] ∧
      rest = [] := by
  cases stands with
  | replied blocked => exact ⟨rfl, blocked, rfl, rfl, rfl⟩

theorem Stands.unique {other : Stage} (left : Stands thread value toServer toClient stage)
    (right : Stands thread value toServer toClient other) : stage = other := by
  cases left with
  | quiet => exact right.assign.1.symm
  | assigned => exact right.send.1.symm
  | asks blocked => exact right.handle.1.symm
  | replied blocked => exact right.onMessage.1.symm
  | arrived blocked =>
      cases right with
      | quiet => cases blocked
      | arrived blocked => rfl
  | lost blocked =>
      cases right with
      | quiet => cases blocked
      | assigned => cases blocked
      | lost blocked => rfl

end Stands

/-- A call returns what it was answered. -/
theorem Connection.Stands.returned {handler : Chance → σ → Bytes → List Bytes × σ}
    {store stored : σ} {connection after : Connection} {reply text : Bytes}
    (stands : connection.Stands (.answered reply))
    (acted : Connection.Acted handler store connection .get after stored)
    (arrived : connection.p.value = some text) : reply = text := by
  cases acted with
  | get waiting value =>
      have here := stands
      simp only [Connection.Stands, waiting, arrived] at here
      obtain ⟨same, -⟩ := here.get
      cases same
      rfl

theorem Connection.Stands.act {handler : Chance → σ → Bytes → List Bytes × σ}
    {store stored : σ} {connection after : Connection} {action : Action Chance} {stage : Stage}
    (single : ∀ chance request, stage = .asks request →
      (handler chance store request).1.length ≤ 1)
    (stands : connection.Stands stage)
    (acted : Connection.Acted handler store connection action after stored) :
    ∃ next, after.Stands next ∧ stage.Moves handler store action next stored := by
  obtain ⟨status, ⟨call, value⟩, thread, calls, toServer, toClient, log⟩ := connection
  change Socket.Stands thread value toServer toClient stage at stands
  cases acted with
  | onOpen connecting => exact ⟨stage, stands, .stays rfl⟩
  | onFail connecting => exact ⟨stage, stands, .stays rfl⟩
  | @onClose arrived opened =>
      rcases stands.close arrived with same | ⟨begun, lost⟩
      · exact ⟨stage, same, .stays rfl⟩
      · exact ⟨.lost, lost, .loses begun rfl⟩
  | assign idle =>
      cases idle
      obtain ⟨rfl, rfl, rfl⟩ := stands.assign
      exact ⟨_, .assigned, .assigns⟩
  | send assigned =>
      cases assigned
      obtain ⟨rfl, rfl, rfl, rfl⟩ := stands.send
      simp only [Connection.posts, List.nil_append]
      split
      · exact ⟨_, .asks .sent, .stays rfl⟩
      · exact ⟨_, .lost .sent, .loses (by simp) rfl⟩
  | wait sent =>
      cases sent
      exact ⟨stage, stands.wait, .stays rfl⟩
  | get waiting arrived =>
      cases waiting
      cases arrived
      obtain ⟨rfl, rfl, rfl⟩ := stands.get
      exact ⟨_, .quiet, .gets⟩
  | @handle chance parcel rest arriving =>
      cases arriving
      obtain ⟨rfl, blocked, rfl, rfl, rfl⟩ := stands.handle
      have short := single chance parcel.payload rfl
      simp only [Connection.answers, List.nil_append]
      split
      · generalize sent : (handler chance store parcel.payload).1 = replies at short ⊢
        rcases replies with _ | ⟨reply, _ | ⟨second, others⟩⟩
        · exact ⟨_, .lost blocked, .drops⟩
        · exact ⟨_, .replied blocked, .answers sent⟩
        · simp at short
      · exact ⟨_, .lost blocked, .drops⟩
  | onMessage arriving =>
      cases arriving
      obtain ⟨rfl, blocked, rfl, rfl, rfl⟩ := stands.onMessage
      exact ⟨_, .arrived blocked, .stays rfl⟩

end Socket

/-! Over the texts, the machine. -/

section Refinement

variable {machine : Machine σ W Event Request Reply Output Chance}

/-- A handler over its connection, and a client of the machine.  While a reply is under
way the client has it already; behind a call that is lost it may be anywhere. -/
inductive Shadowed (wiring : Wiring machine) : Activity W Event Request Reply Output →
    Socket.Stage → Interaction.Client σ W Event Request Reply Output → Prop
  | quiet {activity : Activity W Event Request Reply Output}
      {trace : List (Exchange σ Request Reply)} :
      Shadowed wiring activity .quiet ⟨activity, trace⟩
  | asks {window : W} {event : Event} {request : Request} {again : Reply → Bool}
      {next : Reply → Program Request Reply Output W}
      {trace : List (Exchange σ Request Reply)} :
      Shadowed wiring (.running window event (.ask request again next))
        (.asks (wiring.payload request)) ⟨.running window event (.ask request again next), trace⟩
  | answered {window : W} {event : Event} {request : Request} {again : Reply → Bool}
      {next : Reply → Program Request Reply Output W}
      {trace : List (Exchange σ Request Reply)} {exchange : Exchange σ Request Reply}
      {text : Bytes} (same : exchange.request = request)
      (read : wiring.read text = some exchange.reply) :
      Shadowed wiring (.running window event (.ask request again next)) (.answered text)
        ⟨settle window event
          (if again exchange.reply then .ask request again next else next exchange.reply),
          trace ++ [exchange]⟩
  | lost {window : W} {event : Event} {program : Program Request Reply Output W}
      {client : Interaction.Client σ W Event Request Reply Output} :
      Shadowed wiring (.running window event program) .lost client

/-- The network, and the machine's clients around the same store. -/
structure Refines (wiring : Wiring machine)
    (network : Network ι σ W Event Request Reply Output)
    (state : State ι σ W Event Request Reply Output) : Prop where
  store : network.store = state.store
  peers : ∀ client, ∃ stage, (network.peers client).connection.Stands stage ∧
    Shadowed wiring (network.peers client).activity stage (state.clients client)

variable {wiring : Wiring machine} [DecidableEq ι]

theorem Shadowed.lose {activity : Activity W Event Request Reply Output}
    {stage : Socket.Stage} {client : Interaction.Client σ W Event Request Reply Output}
    (shadowed : Shadowed wiring activity stage client) (begun : stage ≠ .quiet) :
    Shadowed wiring activity .lost client := by
  cases shadowed with
  | quiet => contradiction
  | asks => exact .lost
  | answered same read => exact .lost
  | lost => exact .lost

/-- One peer has moved, and the client with it or not. -/
theorem Refines.put {network : Network ι σ W Event Request Reply Output}
    {state : State ι σ W Event Request Reply Output} (refines : Refines wiring network state)
    {client : ι} {store : σ} {peer : Peer W Event Request Reply Output}
    {value : Interaction.Client σ W Event Request Reply Output} {stage : Socket.Stage}
    (stands : peer.connection.Stands stage)
    (shadowed : Shadowed wiring peer.activity stage value) :
    Refines wiring (network.put store client peer) (state.put store client value) := by
  refine ⟨rfl, fun other => ?_⟩
  by_cases same : other = client
  · subst same
    refine ⟨stage, ?_, ?_⟩
    · simpa [Network.put] using stands
    · simpa [Network.put, State.put] using shadowed
  · simpa [Network.put, State.put, same] using refines.peers other

theorem Refines.put_peer {network : Network ι σ W Event Request Reply Output}
    {state : State ι σ W Event Request Reply Output} (refines : Refines wiring network state)
    {client : ι} {peer : Peer W Event Request Reply Output} {stage : Socket.Stage}
    (stands : peer.connection.Stands stage)
    (shadowed : Shadowed wiring peer.activity stage (state.clients client)) :
    Refines wiring (network.put network.store client peer) state := by
  have both := @Refines.put _ _ _ _ _ _ _ _ _ wiring _ network state refines client network.store
    peer _ stage stands shadowed
  have same : state.put network.store client (state.clients client) = state := by
    rw [refines.store, State.put, Function.update_eq_self]
  rwa [same] at both

theorem Wiring.single (wiring : Wiring machine) (chance : Chance) (store : σ)
    (request : Request) :
    (wiring.receive chance store (wiring.payload request)).1.length ≤ 1 := by
  rcases wiring.served chance store request with
    ⟨after, -, received⟩ | ⟨reply, text, after, -, received, -⟩
  · rw [received]
    exact Nat.zero_le 1
  · rw [received]
    exact Nat.le_refl 1

theorem Shadowed.single {activity : Activity W Event Request Reply Output}
    {stage : Socket.Stage} {client : Interaction.Client σ W Event Request Reply Output}
    (shadowed : Shadowed wiring activity stage client) (chance : Chance) (store : σ)
    {text : Bytes} (asks : stage = .asks text) :
    (wiring.receive chance store text).1.length ≤ 1 := by
  cases shadowed with
  | asks =>
      cases asks
      exact wiring.single chance store _
  | _ => contradiction

/-- No condition on the exchanges. -/
def free : Condition ι σ W Event Request Reply := fun _ _ _ _ _ => True

omit [DecidableEq ι] in
theorem meets_free (state : State ι σ W Event Request Reply Output)
    (move : Move ι Event Chance) : Meets machine free state move := by
  cases move with
  | start client event => exact trivial
  | exchange client chance => exact fun _ _ _ _ _ _ _ _ _ => trivial

/-- A request that the server takes up is an exchange of the machine. -/
theorem Refines.handle {network : Network ι σ W Event Request Reply Output}
    {state : State ι σ W Event Request Reply Output} (refines : Refines wiring network state)
    {client : ι} {chance : Chance} {window : W} {event : Event} {request : Request}
    {again : Reply → Bool} {next : Reply → Program Request Reply Output W}
    {peer : Peer W Event Request Reply Output} {stage : Socket.Stage}
    (stands : peer.connection.Stands stage)
    (waits : peer.activity = .running window event (.ask request again next))
    (asks : (state.clients client).activity = .running window event (.ask request again next))
    (came : stage = .lost ∨ ∃ text, stage = .answered text ∧
      (wiring.receive chance network.store (wiring.payload request)).1 = [text]) :
    ∃ shadow, Reaches machine free state shadow ∧
      Refines wiring (network.put
        (wiring.receive chance network.store (wiring.payload request)).2 client peer) shadow := by
  rw [refines.store] at came ⊢
  rcases wiring.served chance state.store request with
    ⟨after, served, received⟩ | ⟨reply, text, after, served, received, read⟩
  · have step : state.step machine (.exchange client chance) =
        some (state.put after client ⟨.halted, (state.clients client).trace⟩) := by
      simp only [State.step, asks, served]
    refine ⟨_, .step .start (meets_free _ _) step, ?_⟩
    rw [received] at came ⊢
    rcases came with rfl | ⟨text, -, sent⟩
    · refine refines.put stands ?_
      rw [waits]
      exact .lost
    · contradiction
  · have step : state.step machine (.exchange client chance) =
        some (state.put after client
          ⟨settle window event (if again reply then .ask request again next else next reply),
            (state.clients client).trace ++ [⟨state.store, request, reply, after⟩]⟩) := by
      simp only [State.step, asks, served]
    refine ⟨_, .step .start (meets_free _ _) step, ?_⟩
    rw [received] at came ⊢
    refine refines.put stands ?_
    rw [waits]
    rcases came with rfl | ⟨other, rfl, sent⟩
    · exact .lost
    · cases sent
      exact @Shadowed.answered _ _ _ _ _ _ _ _ wiring window event request again next _
        ⟨state.store, request, reply, after⟩ text rfl read

theorem Refines.act {network : Network ι σ W Event Request Reply Output}
    {state : State ι σ W Event Request Reply Output} (refines : Refines wiring network state)
    {client : ι} {action : Socket.Action Chance} {peer : Peer W Event Request Reply Output}
    {stored : σ}
    (acts : (network.peers client).act wiring network.store action = some (peer, stored)) :
    ∃ shadow, Reaches machine free state shadow ∧
      Refines wiring (network.put stored client peer) shadow := by
  obtain ⟨stage, stands, shadowed⟩ := refines.peers client
  obtain ⟨acted, proceeds⟩ := Peer.acted acts
  obtain ⟨next, standsAfter, moves⟩ := stands.act
    (fun chance _ asks => shadowed.single chance network.store asks) acted
  cases moves with
  | stays passive =>
      rw [← proceeds.kept (Socket.Action.unread passive)] at shadowed
      exact ⟨state, .start, refines.put_peer standsAfter shadowed⟩
  | loses begun passive =>
      rw [← proceeds.kept (Socket.Action.unread passive)] at shadowed
      exact ⟨state, .start, refines.put_peer standsAfter (shadowed.lose begun)⟩
  | assigns =>
      refine ⟨state, .start, refines.put_peer standsAfter ?_⟩
      generalize peer.activity = final at proceeds ⊢
      generalize state.clients client = value at shadowed ⊢
      cases proceeds with
      | assigns running =>
          rw [running] at shadowed ⊢
          cases shadowed
          exact .asks
      | stays unassigned unread => exact absurd rfl (unassigned _)
  | gets =>
      refine ⟨state, .start, refines.put_peer standsAfter ?_⟩
      generalize peer.activity = final at proceeds ⊢
      cases proceeds with
      | reads running arrived read =>
          have same := stands.returned acted arrived
          subst same
          rw [running] at shadowed
          generalize state.clients client = value at shadowed ⊢
          cases shadowed with
          | @answered _ _ _ _ _ trace exchange _ asked known =>
              rw [known] at read
              cases read
              exact .quiet
      | stays unassigned unread => contradiction
  | answers sent =>
      generalize value : state.clients client = shadow at shadowed
      generalize doing : (network.peers client).activity = activity at shadowed
      cases shadowed with
      | asks =>
          refine refines.handle standsAfter ((proceeds.kept (by simp)).trans doing) ?_ ?_
          · rw [value]
          · exact .inr ⟨_, rfl, sent⟩
  | drops =>
      generalize value : state.clients client = shadow at shadowed
      generalize doing : (network.peers client).activity = activity at shadowed
      cases shadowed with
      | asks =>
          refine refines.handle standsAfter ((proceeds.kept (by simp)).trans doing) ?_ (.inl rfl)
          rw [value]

theorem Refines.start {network : Network ι σ W Event Request Reply Output}
    {state : State ι σ W Event Request Reply Output} (refines : Refines wiring network state)
    {client : ι} {event : Event} {window : W} {program : Program Request Reply Output W}
    (idle : (network.peers client).activity = .idle window)
    (handled : machine.handler window event = some program) :
    ∃ shadow, Reaches machine free state shadow ∧
      Refines wiring (network.put network.store client
        { network.peers client with activity := settle window event program }) shadow := by
  obtain ⟨stage, stands, shadowed⟩ := refines.peers client
  rw [idle] at shadowed
  generalize value : state.clients client = shadow at shadowed
  cases shadowed with
  | quiet =>
      have step : state.step machine (.start client event) =
          some (state.put state.store client ⟨settle window event program, []⟩) := by
        simp only [State.step, value, handled, Option.map_some]
      refine ⟨_, .step .start (meets_free _ _) step, ?_⟩
      rw [refines.store]
      exact refines.put stands .quiet

theorem Refines.step {network after : Network ι σ W Event Request Reply Output}
    {state : State ι σ W Event Request Reply Output} (refines : Refines wiring network state)
    {move : Network.Move ι Event Chance} (stepped : network.step wiring move = some after) :
    ∃ shadow, Reaches machine free state shadow ∧ Refines wiring after shadow := by
  cases move with
  | start client event =>
      simp only [Network.step] at stepped
      split at stepped
      · next window idle =>
          obtain ⟨program, handled, rfl⟩ := Option.map_eq_some_iff.mp stepped
          exact refines.start idle handled
      · contradiction
  | act client action =>
      obtain ⟨⟨peer, stored⟩, acts, rfl⟩ := Option.map_eq_some_iff.mp stepped
      exact refines.act acts

/-- Every run over the texts is, of the stores and of the handlers, one of the machine. -/
theorem Network.refined {start network : Network ι σ W Event Request Reply Output}
    {origin : State ι σ W Event Request Reply Output} (first : Refines wiring start origin)
    (reached : Reached (Network.step wiring) (fun _ _ => True) start network) :
    ∃ state, Reaches machine free origin state ∧ Refines wiring network state :=
  reached.simulated first fun refines _ stepped => refines.step stepped

end Refinement

/-! And over the texts, every run of the machine whose requests can be sent. -/

section Realization

variable {machine : Machine σ W Event Request Reply Output Chance} {wiring : Wiring machine}

/-- A connection between two calls, that opens or is open. -/
structure Socket.Connection.Ready (connection : Socket.Connection) : Prop where
  quiet : connection.Stands .quiet
  live : connection.status = .connecting ∨ connection.status = .opened

/-- A connection behind one more call that was answered. -/
def Socket.Connection.called (connection : Socket.Connection) (request reply : Bytes) :
    Socket.Connection where
  status := .opened
  p := ⟨connection.calls + 1, some reply⟩
  thread := .idle
  calls := connection.calls + 1
  toServer := []
  toClient := []
  log := connection.log ++ [.asked (connection.calls + 1) request] ++
    [.handled (connection.calls + 1) request [reply]] ++
    [.returned (connection.calls + 1) reply]

variable [DecidableEq ι]

abbrev Network.Runs (wiring : Wiring machine) :
    Network ι σ W Event Request Reply Output → Network ι σ W Event Request Reply Output →
      Prop :=
  Reached (Network.step wiring) fun _ _ => True

theorem Network.put_put (network : Network ι σ W Event Request Reply Output)
    (first second : σ) (client : ι) (before after : Peer W Event Request Reply Output) :
    (network.put first client before).put second client after =
      network.put second client after := by
  simp [Network.put]

/-- One more action of the peer that moved last. -/
theorem Network.Runs.act {start network : Network ι σ W Event Request Reply Output}
    {client : ι} {store stored : σ} {peer after : Peer W Event Request Reply Output}
    (runs : Network.Runs wiring start (network.put store client peer))
    (action : Socket.Action Chance)
    (acts : peer.act wiring store action = some (after, stored)) :
    Network.Runs wiring start (network.put stored client after) := by
  have own : (network.put store client peer).peers client = peer := Function.update_self ..
  have held : (network.put store client peer).store = store := rfl
  have stepped : (network.put store client peer).step wiring (.act client action) =
      some (network.put stored client after) := by
    simp only [Network.step, own, held, acts, Option.map_some, Network.put_put]
  exact runs.step trivial stepped

/-- A call that is answered: from an open connection between two calls to the next. -/
theorem Network.Runs.call {start network : Network ι σ W Event Request Reply Output}
    {client : ι} {store after : σ}
    {chance : Chance} {window : W} {event : Event} {request : Request} {again : Reply → Bool}
    {next : Reply → Program Request Reply Output W} {reply : Reply} {text : Bytes}
    {connection : Socket.Connection}
    (runs : Network.Runs wiring start (network.put store client
      ⟨.running window event (.ask request again next), connection⟩))
    (quiet : connection.Stands .quiet) (opened : connection.status = .opened)
    (valid : validUtf8 (wiring.payload request) = true)
    (received : wiring.receive chance store (wiring.payload request) = ([text], after))
    (read : wiring.read text = some reply) :
    Network.Runs wiring start (network.put after client
      ⟨settle window event (if again reply then .ask request again next else next reply),
        connection.called (wiring.payload request) text⟩) := by
  obtain ⟨status, ⟨call, value⟩, thread, calls, toServer, toClient, log⟩ := connection
  cases opened
  cases quiet
  have assigned := runs.act (.assign (wiring.payload request)) (by
    simp only [Peer.act, if_true, Socket.Connection.act, Option.map_some]
    rfl)
  have sent := assigned.act .send (by
    simp only [Peer.act, Socket.Connection.act, Socket.Connection.posts, valid, and_self,
      if_true, Option.map_some]
    rfl)
  have waited := sent.act .wait (by
    simp only [Peer.act, Socket.Connection.act, Option.map_some]
    rfl)
  have handled := waited.act (.handle chance) (by
    simp only [Peer.act, Socket.Connection.act, List.nil_append, received,
      Socket.Connection.answers, if_true, Option.map_some]
    rfl)
  have arrived := handled.act .onMessage (by
    simp only [Peer.act, Socket.Connection.act, List.map_cons, List.map_nil, Option.map_some]
    rfl)
  exact arrived.act .get (by
    simp [Peer.act, Socket.Connection.act, Socket.Promise.setValue, read,
      Socket.Connection.called])

/-- The requests that a websocket carries. -/
def sendable (wiring : Wiring machine) : Condition ι σ W Event Request Reply :=
  fun _ _ _ _ exchange => validUtf8 (wiring.payload exchange.request) = true

/-- The machine's clients that go on, as peers between two calls. -/
structure Realizes (state : State ι σ W Event Request Reply Output)
    (network : Network ι σ W Event Request Reply Output) : Prop where
  store : network.store = state.store
  peers : ∀ client, (state.clients client).activity = .halted ∨
    (network.peers client).activity = (state.clients client).activity ∧
      (network.peers client).connection.Ready

theorem Realizes.put {state : State ι σ W Event Request Reply Output}
    {network : Network ι σ W Event Request Reply Output} (realizes : Realizes state network)
    {client : ι} {store : σ} {peer : Peer W Event Request Reply Output}
    {value : Interaction.Client σ W Event Request Reply Output}
    (same : value.activity = .halted ∨
      peer.activity = value.activity ∧ peer.connection.Ready) :
    Realizes (state.put store client value) (network.put store client peer) := by
  refine ⟨rfl, fun other => ?_⟩
  by_cases own : other = client
  · subst own
    simpa [Network.put, State.put] using same
  · simpa [Network.put, State.put, own] using realizes.peers other

theorem Socket.Connection.ready_called (connection : Socket.Connection) (request reply : Bytes) :
    (connection.called request reply).Ready :=
  ⟨.quiet, .inr rfl⟩

/-- A connection that opens has opened. -/
theorem Network.Runs.opened {start network : Network ι σ W Event Request Reply Output}
    {client : ι} {activity : Activity W Event Request Reply Output}
    {connection : Socket.Connection} (runs : Network.Runs wiring start network)
    (own : network.peers client = ⟨activity, connection⟩) (ready : connection.Ready) :
    ∃ live : Socket.Connection, live.Stands .quiet ∧ live.status = .opened ∧
      Network.Runs wiring start (network.put network.store client ⟨activity, live⟩) := by
  have unmoved : network.put network.store client ⟨activity, connection⟩ = network := by
    rw [← own, Network.put, Function.update_eq_self]
  rcases ready.live with connecting | opened
  · refine ⟨{ connection with status := .opened }, ready.quiet, rfl, ?_⟩
    rw [← unmoved] at runs
    refine runs.act .onOpen ?_
    simp only [Peer.act, Socket.Connection.act, connecting, if_true, Option.map_some]
  · refine ⟨connection, ready.quiet, opened, ?_⟩
    rwa [unmoved]

theorem Realizes.step (quietly : ∀ {chance store request after},
      machine.serve chance store request = (none, after) → after = store)
    {state after : State ι σ W Event Request Reply Output}
    {network : Network ι σ W Event Request Reply Output} (realizes : Realizes state network)
    {move : Move ι Event Chance} (meets : Meets machine (sendable wiring) state move)
    (stepped : state.step machine move = some after) :
    ∃ final, Network.Runs wiring network final ∧ Realizes after final := by
  cases State.stepped stepped with
  | @start client event window program idle handled =>
      rcases realizes.peers client with halted | ⟨same, ready⟩
      · rw [idle] at halted
        contradiction
      · have step : network.step wiring (.start client event) =
            some (network.put network.store client
              { network.peers client with activity := settle window event program }) := by
          simp only [Network.step, same.trans idle, handled, Option.map_some]
        refine ⟨_, .step .start trivial step, ?_⟩
        rw [realizes.store]
        exact realizes.put (.inr ⟨rfl, ready⟩)
  | @unanswered client chance event window request again next store running served =>
      have same := quietly served
      subst same
      refine ⟨network, .start, ?_⟩
      have kept := @Realizes.put _ _ _ _ _ _ _ _ state network realizes client state.store
        (network.peers client) ⟨.halted, (state.clients client).trace⟩ (.inl rfl)
      have unmoved : network.put state.store client (network.peers client) = network := by
        rw [← realizes.store, Network.put, Function.update_eq_self]
      rwa [unmoved] at kept
  | @answered client chance event window request again next reply store running served =>
      rcases realizes.peers client with halted | ⟨same, ready⟩
      · rw [running] at halted
        contradiction
      · have valid := meets window event request again next reply store running served
        rcases wiring.served chance state.store request with
          ⟨after, missing, -⟩ | ⟨other, text, after, again', received, read⟩
        · rw [served] at missing
          cases missing
        · rw [served] at again'
          cases again'
          have own : network.peers client =
              ⟨.running window event (.ask request again next),
                (network.peers client).connection⟩ := by
            rw [← running, ← same]
          obtain ⟨live, quiet, opened, runs⟩ := Network.Runs.opened .start own ready
          rw [realizes.store] at runs
          exact ⟨_, runs.call quiet opened valid received read,
            realizes.put (.inr ⟨rfl, live.ready_called _ _⟩)⟩

theorem Network.realized (quietly : ∀ {chance store request after},
      machine.serve chance store request = (none, after) → after = store)
    {origin state : State ι σ W Event Request Reply Output}
    {start : Network ι σ W Event Request Reply Output} (first : Realizes origin start)
    (reached : Reaches machine (sendable wiring) origin state) :
    ∃ network, Network.Runs wiring start network ∧ Realizes state network :=
  reached.simulated first fun realizes meets stepped => realizes.step quietly meets stepped

end Realization

/-! A reply under way was computed when the server took up its request; what others do
then may change the store again before the handler reads it. -/

section InFlight

variable {machine : Machine σ W Event Request Reply Output Chance} {wiring : Wiring machine}
  [DecidableEq ι]

/-- What a move makes of one peer. -/
inductive Network.Moved (wiring : Wiring machine)
    (network after : Network ι σ W Event Request Reply Output) (client : ι) :
    Network.Move ι Event Chance → Prop
  | rests {move : Network.Move ι Event Chance}
      (others : ∀ action, move ≠ .act client action)
      (same : after.peers client = network.peers client) : Moved wiring network after client move
  | starts {event : Event} {window : W}
      (idle : (network.peers client).activity = .idle window)
      (same : (after.peers client).connection = (network.peers client).connection) :
      Moved wiring network after client (.start client event)
  | acts {action : Socket.Action Chance}
      (acted : (network.peers client).act wiring network.store action =
        some (after.peers client, after.store)) :
      Moved wiring network after client (.act client action)

theorem Network.moved {network after : Network ι σ W Event Request Reply Output}
    {move : Network.Move ι Event Chance} (stepped : network.step wiring move = some after)
    (client : ι) : Network.Moved wiring network after client move := by
  cases move with
  | start other event =>
      simp only [Network.step] at stepped
      split at stepped
      · next window idle =>
          obtain ⟨program, handled, rfl⟩ := Option.map_eq_some_iff.mp stepped
          by_cases same : client = other
          · subst same
            refine .starts idle ?_
            simp [Network.put]
          · exact .rests (by simp) (Function.update_of_ne same _ _)
      · contradiction
  | act other action =>
      obtain ⟨⟨peer, stored⟩, acted, rfl⟩ := Option.map_eq_some_iff.mp stepped
      by_cases same : client = other
      · subst same
        refine .acts ?_
        simpa [Network.put] using acted
      · refine .rests (fun _ own => same ?_) (Function.update_of_ne same _ _)
        cases own
        rfl

/-- What a handler goes on from when it reads its reply. -/
theorem Network.reads_of_step {network after : Network ι σ W Event Request Reply Output}
    {client : ι} (stepped : network.step wiring (.act client .get) = some after)
    {window : W} {event : Event} {program : Program Request Reply Output W}
    (goes : (after.peers client).activity = .running window event program) :
    ∃ request again next text reply,
      (network.peers client).activity = .running window event (.ask request again next) ∧
      (network.peers client).connection.thread = .waiting ∧
      (network.peers client).connection.p.value = some text ∧
      wiring.read text = some reply ∧
      settle window event (if again reply then .ask request again next else next reply) =
        .running window event program := by
  obtain ⟨⟨peer, stored⟩, acts, rfl⟩ := Option.map_eq_some_iff.mp stepped
  simp only [Network.put, Function.update_self] at goes
  obtain ⟨acted, proceeds⟩ := Peer.acted acts
  generalize peer.activity = final, peer.connection = connection at proceeds goes acted
  cases proceeds with
  | reads running arrived read =>
      obtain ⟨rfl, rfl⟩ := running_of_settle goes
      cases acted with
      | get waiting value => exact ⟨_, _, _, _, _, running, waiting, arrived, read, goes⟩
  | stays unassigned unread => contradiction

theorem Network.Runs.stands_answered {start network : Network ι σ W Event Request Reply Output}
    {origin : State ι σ W Event Request Reply Output} (first : Refines wiring start origin)
    (runs : Network.Runs wiring start network) {client : ι} {text : Bytes}
    (waiting : (network.peers client).connection.thread = .waiting)
    (arrived : (network.peers client).connection.p.value = some text) :
    (network.peers client).connection.Stands (.answered text) := by
  obtain ⟨state, -, refines⟩ := Network.refined first runs
  obtain ⟨stage, stands, -⟩ := refines.peers client
  have here := stands
  simp only [Socket.Connection.Stands, waiting, arrived] at here
  obtain ⟨rfl, -⟩ := here.get
  exact stands

/-- The moment when the server took up a request, before and after it answered this. Since
then the client has read no reply. -/
structure Network.TakesUp (wiring : Wiring machine)
    (start asked answered network : Network ι σ W Event Request Reply Output) (client : ι)
    (chance : Chance) (request : Request) (text : Bytes) : Prop where
  before : Network.Runs wiring start asked
  asks : (asked.peers client).connection.Stands (.asks (wiring.payload request))
  handled : asked.step wiring (.act client (.handle chance)) = some answered
  sent : (wiring.receive chance asked.store (wiring.payload request)).1 = [text]
  since : Reached (Network.step wiring) (fun _ move => move ≠ .act client .get) answered network
  activity : (asked.peers client).activity = (network.peers client).activity

/-- Every reply under way has such a moment. -/
theorem Network.Runs.takes_up {start network : Network ι σ W Event Request Reply Output}
    {origin : State ι σ W Event Request Reply Output} (first : Refines wiring start origin)
    (quiet : ∀ client, (start.peers client).connection.Stands .quiet)
    (runs : Network.Runs wiring start network) {client : ι} {window : W} {event : Event}
    {request : Request} {again : Reply → Bool} {next : Reply → Program Request Reply Output W}
    {text : Bytes}
    (running : (network.peers client).activity = .running window event (.ask request again next))
    (stands : (network.peers client).connection.Stands (.answered text)) :
    ∃ asked answered chance,
      Network.TakesUp wiring start asked answered network client chance request text := by
  induction runs with
  | start =>
      have same := (quiet client).unique stands
      contradiction
  | @step network after move runs allows stepped induction =>
      have later : move ≠ .act client .get →
          (after.peers client).activity = (network.peers client).activity →
          (network.peers client).connection.Stands (.answered text) →
          ∃ asked answered chance,
            Network.TakesUp wiring start asked answered after client chance request text := by
        intro unread same stood
        obtain ⟨asked, answered, chance, taken⟩ := induction (same.symm.trans running) stood
        exact ⟨asked, answered, chance, taken.before, taken.asks, taken.handled, taken.sent,
          taken.since.step unread stepped, taken.activity.trans same.symm⟩
      obtain ⟨state, -, refines⟩ := Network.refined first runs
      obtain ⟨stage, stood, shadowed⟩ := refines.peers client
      cases Network.moved stepped client with
      | rests others same =>
          rw [same] at stands
          exact later (others .get) (congrArg Peer.activity same) stands
      | starts idle same =>
          rw [same] at stands
          obtain rfl := stood.unique stands
          rw [idle] at shadowed
          cases shadowed
      | acts acted =>
          obtain ⟨moved, proceeds⟩ := Peer.acted acted
          obtain ⟨next, standsAfter, moves⟩ := stood.act
            (fun chance _ asks => shadowed.single chance network.store asks) moved
          obtain rfl := standsAfter.unique stands
          generalize after.store = stored at moves
          cases moves with
          | stays passive =>
              have unread := Socket.Action.unread passive
              exact later (fun own => unread (Network.Move.act.inj own).2) (proceeds.kept unread)
                stood
          | @answers payload _ chance sent =>
              have same := proceeds.kept (by simp)
              have asks : payload = wiring.payload request := by
                rw [← same, running] at shadowed
                generalize state.clients client = shadow at shadowed
                cases shadowed with
                | asks => rfl
              subst asks
              exact ⟨network, after, chance, runs, stood, stepped, sent, .start, same.symm⟩

theorem Network.TakesUp.runs
    {start asked answered network : Network ι σ W Event Request Reply Output} {client : ι}
    {chance : Chance} {request : Request} {text : Bytes}
    (taken : Network.TakesUp wiring start asked answered network client chance request text) :
    Network.Runs wiring answered network :=
  taken.since.invariant .start fun runs _ stepped => runs.step trivial stepped

theorem Network.TakesUp.stored
    {start asked answered network : Network ι σ W Event Request Reply Output} {client : ι}
    {chance : Chance} {request : Request} {text : Bytes}
    (taken : Network.TakesUp wiring start asked answered network client chance request text) :
    answered.store = (wiring.receive chance asked.store (wiring.payload request)).2 := by
  obtain ⟨⟨peer, stored⟩, acts, same⟩ := Option.map_eq_some_iff.mp taken.handled
  rw [← same]
  obtain ⟨moved, -⟩ := Peer.acted acts
  have asks := taken.asks
  generalize (asked.peers client).connection = connection,
    peer.connection = final at moved asks
  cases moved with
  | @handle _ parcel rest arriving =>
      rw [Socket.Connection.Stands, arriving] at asks
      obtain ⟨payload, -⟩ := asks.handle
      rw [Socket.Stage.asks.inj payload]
      rfl

/-- At that moment the machine has made the exchange. -/
theorem Network.TakesUp.exchange
    {start asked answered network : Network ι σ W Event Request Reply Output}
    {origin : State ι σ W Event Request Reply Output} (first : Refines wiring start origin)
    {client : ι} {chance : Chance} {window : W} {event : Event} {request : Request}
    {again : Reply → Bool} {next : Reply → Program Request Reply Output W} {text : Bytes}
    (taken : Network.TakesUp wiring start asked answered network client chance request text)
    (running : (network.peers client).activity = .running window event (.ask request again next))
    {reply : Reply} (read : wiring.read text = some reply) :
    ∃ state after, Reaches machine free origin state ∧
      (state.clients client).activity = .running window event (.ask request again next) ∧
      state.step machine (.exchange client chance) = some after ∧
      (after.clients client).activity =
        settle window event (if again reply then .ask request again next else next reply) ∧
      after.store = answered.store := by
  obtain ⟨state, reached, refines⟩ := Network.refined first taken.before
  have waits : (state.clients client).activity =
      .running window event (.ask request again next) := by
    obtain ⟨stage, stood, shadowed⟩ := refines.peers client
    obtain rfl := stood.unique taken.asks
    rw [taken.activity, running] at shadowed
    generalize state.clients client = shadow at shadowed
    generalize wiring.payload request = payload at shadowed
    cases shadowed with
    | asks => rfl
  have sent := taken.sent
  have stored := taken.stored
  rcases wiring.served chance asked.store request with
    ⟨after, -, received⟩ | ⟨other, spoken, after, served, received, understood⟩
  · rw [received] at sent
    contradiction
  · rw [received] at sent stored
    cases sent
    rw [read] at understood
    cases understood
    rw [refines.store] at served
    have step : state.step machine (.exchange client chance) =
        some (state.put after client
          ⟨settle window event (if again reply then .ask request again next else next reply),
            (state.clients client).trace ++ [⟨state.store, request, reply, after⟩]⟩) := by
      simp only [State.step, waits, served]
    refine ⟨state, _, reached, waits, step, ?_, stored.symm⟩
    simp only [State.put, Function.update_self]

end InFlight

end BpkMessenger.Client
