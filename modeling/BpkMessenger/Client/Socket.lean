import BpkMessenger.Text.Utf8
import BpkMessenger.Interaction.Transition
import Mathlib.Logic.Function.Basic

namespace BpkMessenger.Client

open Text Interaction

/-! The endpoints of the clients and their connections to the server.  A request
carries no number; the numbers of the calls below are for the reader only, no step
depends on them. -/

namespace Socket

inductive Status
  | connecting
  | opened
  | failed
  | closed
  deriving DecidableEq, Repr

/-- `std::promise<std::string>`, and the call it was made for. -/
structure Promise where
  call : Nat
  value : Option Bytes
  deriving DecidableEq, Repr

/-- `set_value`, which throws for a promise that already holds a value. -/
def Promise.setValue (p : Promise) (payload : Bytes) : Promise :=
  match p.value with
  | none => { p with value := some payload }
  | some _ => p

theorem Promise.setValue_ne_none (p : Promise) (payload : Bytes) :
    (p.setValue payload).value ≠ none := by
  obtain ⟨call, value⟩ := p
  cases value <;> exact Option.some_ne_none _

/-- Where the UI thread is: outside `send_blocking`, behind its assignment to `p`,
behind `send`, or waiting for the future. -/
inductive Thread
  | idle
  | assigned (request : Bytes)
  | sent
  | waiting
  deriving DecidableEq, Repr

structure Parcel where
  call : Nat
  payload : Bytes
  deriving DecidableEq, Repr

inductive Record
  | asked (call : Nat) (request : Bytes)
  | handled (call : Nat) (request : Bytes) (sent : List Bytes)
  | returned (call : Nat) (reply : Bytes)
  deriving DecidableEq, Repr

structure Connection where
  status : Status
  p : Promise
  thread : Thread
  calls : Nat
  toServer : List Parcel
  toClient : List Parcel
  log : List Record
  deriving DecidableEq, Repr

def Connection.initial : Connection :=
  ⟨.connecting, ⟨0, none⟩, .idle, 0, [], [], []⟩

/-- What happens at one connection.  `onMessage` is the client's. -/
inductive Action (Chance : Type)
  | onOpen
  | onFail
  | onClose (arrived : Nat)
  | assign (request : Bytes)
  | send
  | wait
  | get
  | handle (chance : Chance)
  | onMessage

variable {ι σ Chance : Type}

namespace Connection

/-- `m_endpoint.send` on an open connection.  The error code of a connection that is
not open, or of a text that is not UTF-8, is dropped. -/
def posts (connection : Connection) (request : Bytes) : List Parcel :=
  if connection.status = .opened ∧ validUtf8 request = true then
    [⟨connection.calls, request⟩]
  else []

/-- What the server sends back, unless the connection is gone. -/
def answers (connection : Connection) (call : Nat) (sent : List Bytes) : List Parcel :=
  if connection.status = .opened then sent.map fun reply => ⟨call, reply⟩ else []

/-- A closing connection loses the replies under way, and the requests that have not
arrived yet. -/
def act (handler : Chance → σ → Bytes → List Bytes × σ) (store : σ)
    (connection : Connection) : Action Chance → Option (Connection × σ)
  | .onOpen =>
      if connection.status = .connecting then
        some ({ connection with status := .opened }, store)
      else none
  | .onFail =>
      if connection.status = .connecting then
        some ({ connection with status := .failed }, store)
      else none
  | .onClose arrived =>
      if connection.status = .opened then
        some ({ connection with
          status := .closed
          toServer := connection.toServer.take arrived
          toClient := [] }, store)
      else none
  | .assign request =>
      match connection.thread with
      | .idle =>
          some ({ connection with
            p := ⟨connection.calls + 1, none⟩
            thread := .assigned request
            calls := connection.calls + 1
            log := connection.log ++ [.asked (connection.calls + 1) request] }, store)
      | _ => none
  | .send =>
      match connection.thread with
      | .assigned request =>
          some ({ connection with
            thread := .sent
            toServer := connection.toServer ++ connection.posts request }, store)
      | _ => none
  | .wait =>
      match connection.thread with
      | .sent => some ({ connection with thread := .waiting }, store)
      | _ => none
  | .get =>
      match connection.thread, connection.p.value with
      | .waiting, some reply =>
          some ({ connection with
            thread := .idle
            log := connection.log ++ [.returned connection.calls reply] }, store)
      | _, _ => none
  | .handle chance =>
      match connection.toServer with
      | ⟨call, request⟩ :: rest =>
          let (sent, after) := handler chance store request
          some ({ connection with
            toServer := rest
            toClient := connection.toClient ++ connection.answers call sent
            log := connection.log ++ [.handled call request sent] }, after)
      | [] => none
  | .onMessage =>
      match connection.toClient with
      | ⟨_, payload⟩ :: rest =>
          some ({ connection with
            p := connection.p.setValue payload
            toClient := rest }, store)
      | [] => none

/-- What an action needs, and what it makes of the connection. -/
inductive Acted (handler : Chance → σ → Bytes → List Bytes × σ) (store : σ) :
    Connection → Action Chance → Connection → σ → Prop
  | onOpen {connection : Connection} (connecting : connection.status = .connecting) :
      Acted handler store connection .onOpen { connection with status := .opened } store
  | onFail {connection : Connection} (connecting : connection.status = .connecting) :
      Acted handler store connection .onFail { connection with status := .failed } store
  | onClose {connection : Connection} {arrived : Nat} (opened : connection.status = .opened) :
      Acted handler store connection (.onClose arrived)
        { connection with
          status := .closed
          toServer := connection.toServer.take arrived
          toClient := [] } store
  | assign {connection : Connection} {request : Bytes} (idle : connection.thread = .idle) :
      Acted handler store connection (.assign request)
        { connection with
          p := ⟨connection.calls + 1, none⟩
          thread := .assigned request
          calls := connection.calls + 1
          log := connection.log ++ [.asked (connection.calls + 1) request] } store
  | send {connection : Connection} {request : Bytes}
      (assigned : connection.thread = .assigned request) :
      Acted handler store connection .send
        { connection with
          thread := .sent
          toServer := connection.toServer ++ connection.posts request } store
  | wait {connection : Connection} (sent : connection.thread = .sent) :
      Acted handler store connection .wait { connection with thread := .waiting } store
  | get {connection : Connection} {reply : Bytes} (waiting : connection.thread = .waiting)
      (value : connection.p.value = some reply) :
      Acted handler store connection .get
        { connection with
          thread := .idle
          log := connection.log ++ [.returned connection.calls reply] } store
  | handle {connection : Connection} {chance : Chance} {parcel : Parcel} {rest : List Parcel}
      (arriving : connection.toServer = parcel :: rest) :
      Acted handler store connection (.handle chance)
        { connection with
          toServer := rest
          toClient := connection.toClient ++
            connection.answers parcel.call (handler chance store parcel.payload).1
          log := connection.log ++
            [.handled parcel.call parcel.payload (handler chance store parcel.payload).1] }
        (handler chance store parcel.payload).2
  | onMessage {connection : Connection} {parcel : Parcel} {rest : List Parcel}
      (arriving : connection.toClient = parcel :: rest) :
      Acted handler store connection .onMessage
        { connection with p := connection.p.setValue parcel.payload, toClient := rest } store

theorem acted {handler : Chance → σ → Bytes → List Bytes × σ} {store stored : σ}
    {connection after : Connection} {action : Action Chance}
    (acts : connection.act handler store action = some (after, stored)) :
    Acted handler store connection action after stored := by
  cases action with
  | onOpen =>
      simp only [act] at acts
      split at acts
      · next connecting =>
          cases acts
          exact .onOpen connecting
      · contradiction
  | onFail =>
      simp only [act] at acts
      split at acts
      · next connecting =>
          cases acts
          exact .onFail connecting
      · contradiction
  | onClose arrived =>
      simp only [act] at acts
      split at acts
      · next opened =>
          cases acts
          exact .onClose opened
      · contradiction
  | assign request =>
      simp only [act] at acts
      split at acts
      · next idle =>
          cases acts
          exact .assign idle
      · contradiction
  | send =>
      simp only [act] at acts
      split at acts
      · next request assigned =>
          cases acts
          exact .send assigned
      · contradiction
  | wait =>
      simp only [act] at acts
      split at acts
      · next sent =>
          cases acts
          exact .wait sent
      · contradiction
  | get =>
      simp only [act] at acts
      split at acts
      · next reply waiting value =>
          cases acts
          exact .get waiting value
      · contradiction
  | handle chance =>
      simp only [act] at acts
      split at acts
      · next call request rest arriving =>
          cases acts
          exact .handle arriving
      · contradiction
  | onMessage =>
      simp only [act] at acts
      split at acts
      · next call payload rest arriving =>
          cases acts
          exact .onMessage arriving
      · contradiction

end Connection

/-- Any number of clients around one server, which handles one message at a time. -/
structure Network (ι σ : Type) where
  store : σ
  connections : ι → Connection

structure Move (ι Chance : Type) where
  client : ι
  action : Action Chance

namespace Network

def initial (store : σ) : Network ι σ := ⟨store, fun _ => .initial⟩

variable [DecidableEq ι]

def step (handler : Chance → σ → Bytes → List Bytes × σ) (network : Network ι σ)
    (move : Move ι Chance) : Option (Network ι σ) :=
  ((network.connections move.client).act handler network.store move.action).map
    fun (connection, after) =>
      ⟨after, Function.update network.connections move.client connection⟩

/-- What every action keeps of a connection holds of all of them in every run. -/
theorem reached_connection {handler : Chance → σ → Bytes → List Bytes × σ}
    {allowed : Connection → Action Chance → Prop} {holds : Connection → Prop}
    (first : holds .initial)
    (kept : ∀ {connection store action after stored}, holds connection →
      allowed connection action →
        connection.act handler store action = some (after, stored) → holds after)
    {store : σ} {network : Network ι σ}
    (reached : Reached (step handler)
      (fun network move => allowed (network.connections move.client) move.action)
      (initial store) network) (client : ι) : holds (network.connections client) := by
  have all : ∀ client, holds (network.connections client) := by
    apply reached.invariant
    · exact fun _ => first
    · intro network after move before allows stepped client
      obtain ⟨⟨connection, stored⟩, acted, rfl⟩ := Option.map_eq_some_iff.mp stepped
      by_cases same : client = move.client
      · subst same
        simpa using kept (before _) allows acted
      · simpa [same] using before client
  exact all client

end Network

/-! Pairing. -/

inductive Flight (log : List Record) (call : Nat) :
    List Parcel → List Parcel → Option Bytes → Prop
  | request {request : Bytes} (asked : .asked call request ∈ log) :
      Flight log call [⟨call, request⟩] [] none
  | reply {request reply : Bytes} (asked : .asked call request ∈ log)
      (handled : .handled call request [reply] ∈ log) :
      Flight log call [] [⟨call, reply⟩] none
  | arrived {request reply : Bytes} (asked : .asked call request ∈ log)
      (handled : .handled call request [reply] ∈ log) :
      Flight log call [] [] (some reply)
  | lost : Flight log call [] [] none

theorem Flight.close {log : List Record} {call : Nat} {toServer toClient : List Parcel}
    {value : Option Bytes} (flight : Flight log call toServer toClient value)
    (arrived : Nat) : Flight log call (toServer.take arrived) [] value := by
  cases flight with
  | request asked =>
      cases arrived with
      | zero => exact .lost
      | succ arrived =>
          rw [List.take_succ_cons, List.take_nil]
          exact .request asked
  | reply asked handled =>
      rw [List.take_nil]
      exact .lost
  | arrived asked handled =>
      rw [List.take_nil]
      exact .arrived asked handled
  | lost =>
      rw [List.take_nil]
      exact .lost

/-- The promise and the messages under way belong to the latest call. -/
inductive Threaded (log : List Record) (calls : Nat) :
    Thread → Promise → List Parcel → List Parcel → Prop
  | idle {p : Promise} : Threaded log calls .idle p [] []
  | assigned {request : Bytes} (asked : .asked calls request ∈ log) :
      Threaded log calls (.assigned request) ⟨calls, none⟩ [] []
  | sent {value : Option Bytes} {toServer toClient : List Parcel}
      (flight : Flight log calls toServer toClient value) :
      Threaded log calls .sent ⟨calls, value⟩ toServer toClient
  | waiting {value : Option Bytes} {toServer toClient : List Parcel}
      (flight : Flight log calls toServer toClient value) :
      Threaded log calls .waiting ⟨calls, value⟩ toServer toClient

/-- A reply that arrives finds the promise of its own call, without a value. -/
theorem Threaded.arriving {log : List Record} {calls : Nat} {thread : Thread} {p : Promise}
    {toServer rest : List Parcel} {parcel : Parcel}
    (threaded : Threaded log calls thread p toServer (parcel :: rest)) :
    p = ⟨parcel.call, none⟩ ∧ parcel.call = calls := by
  cases threaded with
  | sent flight =>
      cases flight with
      | reply asked handled => exact ⟨rfl, rfl⟩
  | waiting flight =>
      cases flight with
      | reply asked handled => exact ⟨rfl, rfl⟩

theorem Threaded.close {log : List Record} {calls : Nat} {thread : Thread} {p : Promise}
    {toServer toClient : List Parcel} (threaded : Threaded log calls thread p toServer toClient)
    (arrived : Nat) : Threaded log calls thread p (toServer.take arrived) [] := by
  cases threaded with
  | idle =>
      rw [List.take_nil]
      exact .idle
  | assigned asked =>
      rw [List.take_nil]
      exact .assigned asked
  | sent flight => exact .sent (flight.close arrived)
  | waiting flight => exact .waiting (flight.close arrived)

theorem Threaded.deliver {log : List Record} {calls : Nat} {thread : Thread} {p : Promise}
    {toServer rest : List Parcel} {parcel : Parcel}
    (threaded : Threaded log calls thread p toServer (parcel :: rest)) :
    Threaded log calls thread (p.setValue parcel.payload) toServer rest := by
  cases threaded with
  | sent flight =>
      cases flight with
      | reply asked handled => exact .sent (.arrived asked handled)
  | waiting flight =>
      cases flight with
      | reply asked handled => exact .waiting (.arrived asked handled)

def Returned (log : List Record) : Prop :=
  ∀ call reply, .returned call reply ∈ log →
    ∃ request, .asked call request ∈ log ∧ .handled call request [reply] ∈ log

theorem Returned.append {log : List Record} {record : Record} (returned : Returned log)
    (new : ∀ call reply, record = .returned call reply →
      ∃ request, .asked call request ∈ log ∧ .handled call request [reply] ∈ log) :
    Returned (log ++ [record]) := by
  intro call reply member
  rcases List.mem_append.mp member with earlier | last
  · obtain ⟨request, asked, handled⟩ := returned call reply earlier
    exact ⟨request, List.mem_append_left _ asked, List.mem_append_left _ handled⟩
  · obtain ⟨request, asked, handled⟩ := new call reply (List.mem_singleton.mp last).symm
    exact ⟨request, List.mem_append_left _ asked, List.mem_append_left _ handled⟩

structure Paired (connection : Connection) : Prop where
  threaded : Threaded connection.log connection.calls connection.thread connection.p
    connection.toServer connection.toClient
  returned : Returned connection.log

theorem Paired.initial : Paired .initial :=
  ⟨.idle, fun _ _ member => absurd member List.not_mem_nil⟩

section Actions

variable {handler : Chance → σ → Bytes → List Bytes × σ}
  {connection after : Connection} {store stored : σ}

theorem Flight.handle {connection : Connection} {log : List Record} {call : Nat}
    {request : Bytes} {sent : List Bytes} (asked : .asked call request ∈ log)
    (single : sent.length ≤ 1) :
    Flight (log ++ [.handled call request sent]) call []
      (connection.answers call sent) none := by
  have longer : log ⊆ log ++ [.handled call request sent] := List.subset_append_left _ _
  unfold Connection.answers
  split
  · cases sent with
    | nil => exact .lost
    | cons reply rest =>
        cases rest with
        | nil =>
            exact .reply (longer asked) (List.mem_append_right _ (List.mem_singleton_self _))
        | cons second rest => simp at single
  · exact .lost

theorem Threaded.handle {connection : Connection} {log : List Record} {calls : Nat}
    {thread : Thread} {p : Promise} {parcel : Parcel} {rest toClient : List Parcel}
    {sent : List Bytes} (threaded : Threaded log calls thread p (parcel :: rest) toClient)
    (single : sent.length ≤ 1) :
    Threaded (log ++ [.handled parcel.call parcel.payload sent]) calls thread p rest
      (toClient ++ connection.answers parcel.call sent) := by
  cases threaded with
  | sent flight =>
      cases flight with
      | request asked => exact .sent (Flight.handle asked single)
  | waiting flight =>
      cases flight with
      | request asked => exact .waiting (Flight.handle asked single)

theorem Paired.act (atMostOne : ∀ chance store request,
      (handler chance store request).1.length ≤ 1) {action : Action Chance}
    (paired : Paired connection)
    (acts : connection.act handler store action = some (after, stored)) :
    Paired after := by
  obtain ⟨status, p, thread, calls, toServer, toClient, log⟩ := connection
  obtain ⟨threaded, returned⟩ := paired
  dsimp only at threaded
  cases Connection.acted acts with
  | onOpen connecting => exact ⟨threaded, returned⟩
  | onFail connecting => exact ⟨threaded, returned⟩
  | @onClose arrived opened =>
      exact ⟨threaded.close arrived, returned⟩
  | assign idle =>
      cases idle
      cases threaded with
      | idle =>
          refine ⟨.assigned ?_, returned.append fun _ _ record => by contradiction⟩
          exact List.mem_append_right _ (List.mem_singleton_self _)
  | send assigned =>
      cases assigned
      cases threaded with
      | assigned asked =>
          refine ⟨.sent ?_, returned⟩
          simp only [Connection.posts, List.nil_append]
          split
          · exact .request asked
          · exact .lost
  | wait sent =>
      cases sent
      cases threaded with
      | sent flight => exact ⟨.waiting flight, returned⟩
  | get waiting value =>
      cases waiting
      cases threaded with
      | waiting flight =>
          cases value
          cases flight with
          | @arrived request reply asked handled =>
              refine ⟨.idle, returned.append ?_⟩
              intro call other record
              cases record
              exact ⟨request, asked, handled⟩
  | handle arriving =>
      cases arriving
      exact ⟨threaded.handle (atMostOne _ _ _),
        returned.append fun _ _ record => by contradiction⟩
  | onMessage arriving =>
      cases arriving
      exact ⟨threaded.deliver, returned⟩

end Actions

end Socket

end BpkMessenger.Client
