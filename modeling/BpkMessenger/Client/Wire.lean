import BpkMessenger.Client.Network
import BpkMessenger.Client.Views

namespace BpkMessenger.Client

open Text Server Interaction

/-! The shipped clients over their connections to the server, with the texts that they
send and receive. -/

variable {pg : Postgres} {ι : Type} [DecidableEq ι] {isfinite : Bytes → Bool}

/-- `on_message` on text frames; `send_blocking` returns a text. -/
def wire (isfinite : Bytes → Bool) (pg : Postgres) : Wiring (messenger pg) where
  payload := ClientRequest.payload
  receive chances store text :=
    let (sent, after) := onMessage chances store text .text
    (sent.map Message.payload, after)
  read := readReply isfinite
  served := by
    intro chances store request
    rcases onMessage_request chances store request with
      silent | ⟨reply, after, ⟨call, encodes, served⟩, sent⟩
    · left
      refine ⟨store, ?_, ?_⟩
      · simp [messenger, silent]
      · simp [silent]
    · right
      refine ⟨reply, reply.text, after, ?_, ?_, ?_⟩
      · simp [messenger, sent]
      · simp [sent, Message.payload, Content.text]
      · exact (readReply_iff isfinite).mpr (agrees_of_served isfinite served)

abbrev Clients (ι : Type) := Network ι Store Window Event ClientRequest Reply Output

def launched (store : Store) : Clients ι := ⟨store, fun _ => ⟨.idle .auth, .initial⟩⟩

omit [DecidableEq ι] in
theorem launched_refines (isfinite : Bytes → Bool) (pg : Postgres) (store : Store) :
    Refines (wire isfinite pg) (launched store : Clients ι) (loggedOut store) :=
  ⟨rfl, fun _ => ⟨.quiet, .quiet, .quiet⟩⟩

section Runs

/-- One client over one connection, at the reference database. -/
def wireRun (moves : List (Network.Move Unit Event (List Reference.Draw))) :
    Option (Clients Unit) :=
  Interaction.run (Network.step (wire (fun _ => true) Reference.postgres))
    (fun _ _ _ => true) (launched annAlone) moves

/-- A call whose reply has arrived. -/
def callMoves (payload : Bytes) : List (Network.Move Unit Event (List Reference.Draw)) :=
  [.act () (.assign payload), .act () .send, .act () .wait,
    .act () (.handle (List.replicate 4 ⟨true, 0⟩)), .act () .onMessage]

def annAsks : List (Network.Move Unit Event (List Reference.Draw)) :=
  [.act () .onOpen, .start () (event (.authButton (ascii "ann")))] ++
    callMoves (ascii "find_user ann")

def annSpeaks : List (Network.Move Unit Event (List Reference.Draw)) :=
  annAsks ++ [.act () .get] ++
    callMoves (ascii "get_chat_list 1") ++ [.act () .get] ++
    callMoves (ascii "get_chat_name 1") ++ [.act () .get] ++
    callMoves (ascii "get_chat_history 1") ++ [.act () .get] ++
    [.start () (event (.sendButton (ascii "hi")))] ++
    callMoves (ascii "add_message 1 1 hi") ++ [.act () .get]

theorem runs_of_wireRun {moves : List (Network.Move Unit Event (List Reference.Draw))}
    {network : Clients Unit} (ran : wireRun moves = some network) :
    Network.Runs (wire (fun _ => true) Reference.postgres) (launched annAlone) network :=
  Reached.of_run (fun _ _ => trivial) .start ran

/-- The request that a handler waits with, and what its promise holds. -/
def Network.blocked (network : Clients Unit) : Option (ClientRequest × Bytes) :=
  match (network.peers ()).activity, (network.peers ()).connection.p.value with
  | .running _ _ (.ask request _ _), some text =>
      if (network.peers ()).connection.thread = .waiting then some (request, text) else none
  | _, _ => none

theorem Network.blocked_eq_some {network : Clients Unit} {request : ClientRequest}
    {text : Bytes} (blocked : network.blocked = some (request, text)) :
    ∃ window event again next, (network.peers ()).activity =
        .running window event (.ask request again next) ∧
      (network.peers ()).connection.thread = .waiting ∧
      (network.peers ()).connection.p.value = some text := by
  unfold Network.blocked at blocked
  split at blocked
  · next window event other again next found running arrived =>
      split_ifs at blocked with waiting
      cases blocked
      exact ⟨window, event, again, next, running, waiting, arrived⟩
  · contradiction

def annFoundText : Bytes :=
  ascii "\x7b\"user_id\":1,\"user_name\":\"ann\"\x7d"

theorem annAsks_blocked : (wireRun annAsks).bind Network.blocked =
    some (.findUser (ascii "ann"), annFoundText) := by
  decide +kernel

theorem annSpeaks_messages : (wireRun annSpeaks).map (fun network => network.store.messages) =
    some [⟨1, 1, ascii "hi"⟩] := by
  decide +kernel

end Runs

/-- Whatever the connections do, stores and handlers come from a run of the messenger. -/
theorem network_refines_messenger (isfinite : Bytes → Bool) (pg : Postgres) (store : Store)
    {network : Clients ι} (runs : Network.Runs (wire isfinite pg) (launched store) network) :
    ∃ state : System ι, Reaches (messenger pg) unrestricted (loggedOut store) state ∧
      Refines (wire isfinite pg) network state :=
  Network.refined (launched_refines isfinite pg store) runs

theorem network_refines_annSpeaks : ∃ network, wireRun annSpeaks = some network ∧
    ∃ state : System Unit,
      Reaches (messenger Reference.postgres) unrestricted (loggedOut annAlone) state ∧
        Refines (wire (fun _ => true) Reference.postgres) network state ∧
        state.store.messages = [⟨1, 1, ascii "hi"⟩] := by
  obtain ⟨network, ran, messages⟩ := Option.map_eq_some_iff.mp annSpeaks_messages
  obtain ⟨state, reached, refines⟩ := network_refines_messenger (fun _ => true)
    Reference.postgres annAlone (runs_of_wireRun ran)
  refine ⟨network, ran, state, reached, refines, ?_⟩
  rw [← refines.store]
  exact messages

omit [DecidableEq ι] in
/-- A client behind a reply, as its messenger's client has it already. -/
theorem Refines.answered {isfinite : Bytes → Bool} {network : Clients ι} {state : System ι}
    (refines : Refines (wire isfinite pg) network state) {client : ι} {window : Window}
    {event : Event} {request : ClientRequest} {again : Reply → Bool} {next : Reply → Act Window}
    {text : Bytes}
    (running : (network.peers client).activity = .running window event (.ask request again next))
    (blocked : (network.peers client).connection.thread = .waiting)
    (arrived : (network.peers client).connection.p.value = some text) :
    ∃ exchange ∈ (state.clients client).trace, exchange.request = request ∧
      readReply isfinite text = some exchange.reply := by
  obtain ⟨stage, stands, shadowed⟩ := refines.peers client
  simp only [Socket.Connection.Stands, blocked, arrived] at stands
  obtain ⟨rfl, -⟩ := stands.get
  rw [running] at shadowed
  generalize state.clients client = value at shadowed ⊢
  cases shadowed with
  | @answered _ _ _ _ _ trace exchange _ same read =>
      exact ⟨exchange, List.mem_append_right _ (List.mem_singleton_self _), same, read⟩

/-- What a blocked call is handed is the server's answer to its own request, as the server
meant it, and the handler goes on with it. -/
theorem waiting_reads_answer (isfinite : Bytes → Bool) (pg : Postgres) (store : Store)
    {network : Clients ι} (runs : Network.Runs (wire isfinite pg) (launched store) network)
    {client : ι} {window : Window} {event : Event} {request : ClientRequest}
    {again : Reply → Bool} {next : Reply → Act Window} {text : Bytes}
    (running : (network.peers client).activity = .running window event (.ask request again next))
    (blocked : (network.peers client).connection.thread = .waiting)
    (arrived : (network.peers client).connection.p.value = some text) :
    ∃ reply before after, Answers before request reply after ∧
      after.Precedes network.store ∧ Agrees isfinite text reply ∧
        ∃ final, network.step (wire isfinite pg) (.act client .get) = some final ∧
          final.store = network.store ∧
          (final.peers client).activity = settle window event
            (if again reply then .ask request again next else next reply) := by
  obtain ⟨state, reached, refines⟩ := network_refines_messenger isfinite pg store runs
  obtain ⟨exchange, member, rfl, read⟩ := refines.answered running blocked arrived
  obtain ⟨answered, past⟩ := Reaches.recorded (messenger_precedes pg) (fun _ => rfl) reached
    client exchange member
  refine ⟨exchange.reply, exchange.before, exchange.after, answered, ?_,
    (readReply_iff isfinite).mp read, ?_⟩
  · rw [refines.store]
    exact past
  · have reads : (wire isfinite pg).read text = some exchange.reply := read
    have steps : ∃ connection, (network.peers client).act (wire isfinite pg) network.store .get =
        some (⟨settle window event (if again exchange.reply then
          .ask exchange.request again next else next exchange.reply), connection⟩,
          network.store) := by
      simp [Peer.act, running, Socket.Connection.act, blocked, arrived, reads]
    obtain ⟨connection, acts⟩ := steps
    refine ⟨network.put network.store client ⟨settle window event (if again exchange.reply then
      .ask exchange.request again next else next exchange.reply), connection⟩, ?_, rfl, ?_⟩
    · simp only [Network.step, acts, Option.map_some]
    · simp [Network.put]

theorem waiting_reads_annAsks : ∃ network, wireRun annAsks = some network ∧
    ∃ reply before after, Answers before (.findUser (ascii "ann")) reply after ∧
      after.Precedes network.store ∧ Agrees (fun _ => true) annFoundText reply := by
  obtain ⟨network, ran, blocked⟩ := Option.bind_eq_some_iff.mp annAsks_blocked
  obtain ⟨window, event, again, next, running, waiting, arrived⟩ :=
    Network.blocked_eq_some blocked
  obtain ⟨reply, before, after, answers, past, agrees, -⟩ := waiting_reads_answer
    (fun _ => true) Reference.postgres annAlone (runs_of_wireRun ran) running waiting arrived
  exact ⟨network, ran, reply, before, after, answers, past, agrees⟩

/-- Over the connections, too, only members speak, and the windows show what their users
are members of. -/
theorem network_members (isfinite : Bytes → Bool) (pg : Postgres) (store : Store)
    (first : MembersSpeak store) {network : Clients ι}
    (runs : Network.Runs (wire isfinite pg) (launched store) network) :
    MembersSpeak network.store ∧ ∀ client window,
      (network.peers client).activity = .idle window → window.Member network.store := by
  obtain ⟨state, reached, refines⟩ := network_refines_messenger isfinite pg store runs
  have verified := @messenger_member pg ι unrestricted
  have starts := (@loggedOut_starts ι store).member unrestricted
  rw [refines.store]
  constructor
  · apply Reaches.keeps (messenger_lawful pg) verified starts first _ reached
    intro client window event request again next trace chances store reply after underway
      served speak
    rcases serve_cases served with ⟨-, rfl⟩ | ⟨answer, -, answers⟩
    · exact speak
    · exact speak.answers underway.held underway.sending answers
  · intro client window idle
    have holds := Reaches.holds (messenger_lawful pg) verified starts reached client
    obtain ⟨stage, stands, shadowed⟩ := refines.peers client
    rw [idle] at shadowed
    generalize state.clients client = value at shadowed holds
    cases shadowed
    exact holds

theorem network_members_annSpeaks : ∃ network, wireRun annSpeaks = some network ∧
    network.store.messages = [⟨1, 1, ascii "hi"⟩] ∧ MembersSpeak network.store := by
  obtain ⟨network, ran, messages⟩ := Option.map_eq_some_iff.mp annSpeaks_messages
  refine ⟨network, ran, messages, ?_⟩
  exact (network_members (fun _ => true) Reference.postgres annAlone
    (fun _ member => absurd member List.not_mem_nil) (runs_of_wireRun ran)).1

/-- A run of the messenger whose requests are UTF-8 is one over the connections. -/
theorem messenger_realized (isfinite : Bytes → Bool) (pg : Postgres) (store : Store)
    {state : System ι}
    (reached : Reaches (messenger pg) (sendable (wire isfinite pg)) (loggedOut store) state) :
    ∃ network : Clients ι, Network.Runs (wire isfinite pg) (launched store) network ∧
      network.store = state.store ∧ ∀ client,
        (state.clients client).activity = .halted ∨
          (network.peers client).activity = (state.clients client).activity := by
  have quietly : ∀ {chances : List pg.Chance} {store after : Store} {request : ClientRequest},
      (messenger pg).serve chances store request = (none, after) → after = store := by
    intro chances store after request served
    rcases serve_cases served with ⟨-, same⟩ | ⟨answer, given, -⟩
    · exact same
    · contradiction
  have first : Realizes (loggedOut store : System ι) (launched store) :=
    ⟨rfl, fun _ => .inr ⟨rfl, .quiet, .inl rfl⟩⟩
  obtain ⟨network, runs, realizes⟩ :=
    @Network.realized _ _ _ _ _ _ _ _ _ (wire isfinite pg) _ quietly _ _ _ first reached
  exact ⟨network, runs, realizes.store, fun client => (realizes.peers client).imp_right And.left⟩

theorem messenger_realized_annAlone : ∃ network : Clients Unit,
    Network.Runs (wire (fun _ => true) Reference.postgres) (launched annAlone) network ∧
      network.store.messages = [⟨1, 1, ascii "hi"⟩] := by
  have ran : ((loggedOut annAlone).run (messenger Reference.postgres)
      (fun _ _ _ _ exchange => validUtf8 exchange.request.payload)
      (handlerRun () (.authButton (ascii "ann")) 0 4 ++
        handlerRun () (.sendButton (ascii "hi")) 0 1)).map
          (fun state => state.store.messages) = some [⟨1, 1, ascii "hi"⟩] := by
    decide +kernel
  obtain ⟨state, found, messages⟩ := Option.map_eq_some_iff.mp ran
  obtain ⟨network, runs, same, -⟩ := messenger_realized (fun _ => true) Reference.postgres
    annAlone (Reaches.of_run (fun _ _ _ _ _ valid => valid) .start found)
  exact ⟨network, runs, by rw [same]; exact messages⟩

end BpkMessenger.Client
