import BpkMessenger.Client.Wire
import BpkMessenger.Server.Links

namespace BpkMessenger.Client

open Text Server Interaction

/-! Whose boards a chat shows: the token that is asked for is the other member's. -/

variable {pg : Postgres} {ι : Type}

/-- When the token of a chatter may be asked for: the chat shown was listed with two
members, and this is the first who is not the user. -/
def Opens (window : Window) (event : Event) (trace : Trace) : ClientRequest → Prop
  | .getTrelloToken chatter =>
      event.action = .viewBoardsButton → ∃ (main : MainWindow)
        (exchange : Exchange Store ClientRequest Reply) (written : Document)
        (other : Option SizeT),
          window = .main main ∧ trace = [exchange] ∧
          exchange.request = .getChatMembers main.currentChatId ∧
          exchange.reply = .document written ∧ written.value.size = 2 ∧
          MainWindow.otherMember main.user.userId written.value.elements = .ok other ∧
          chatter = other.getD main.chatter
  | _ => True

theorem viewBoardsButton_opens {main : MainWindow} {event : Event} :
    Safe Valid (Opens (.main main) event) (fun _ _ => True)
      (main.viewBoardsButton event.trello) [] := by
  unfold MainWindow.viewBoardsButton
  apply Safe.bind_send trivial
  intro exchange same valid
  apply bind_warn
  apply Safe.bind_lift
  intro j parsed
  obtain ⟨written, replied, rfl⟩ := parse_eq_ok parsed
  by_cases pair : written.value.size = 2
  · rw [if_pos pair]
    apply Safe.bind_lift
    intro other found
    apply Safe.bind (createViewBoards_safe _ _ ?_) valid fun _ _ _ _ _ => Safe.done trivial
    intro action
    exact ⟨main, exchange, written, other, rfl, rfl, same, replied, pair, found, rfl⟩
  · rw [if_neg pair]
    exact Safe.bind_report (Safe.done trivial)

theorem handler_opens {window : Window} {event : Event} {program : Act Window}
    (handled : handler window event = some program) :
    Safe Valid (Opens window event) (fun _ _ => True) program [] := by
  by_cases action : event.action = .viewBoardsButton
  · cases window with
    | main main =>
        simp only [handler, MainWindow.handler, action, Option.map_some,
          Option.some.injEq] at handled
        subst handled
        apply Safe.bind viewBoardsButton_opens Chained.nil
        exact fun _ _ _ _ _ => Safe.done trivial
    | _ => simp [handler, action] at handled
  · apply Safe.unasked
    intro trace request
    cases request with
    | getTrelloToken chatter => exact fun pressed => absurd pressed action
    | _ => exact trivial

theorem messenger_opens (condition : Requirement ι) :
    Verified (messenger pg) Answered Store.Grows condition Opens (fun _ _ _ _ => True)
      fun _ _ _ => True :=
  ⟨handler_opens, fun _ _ => trivial, fun _ _ _ _ _ => trivial⟩

/-! Two members of a chat. -/

/-- Of two the first that is not this one. -/
theorem otherMember_pair {userId : SizeT} {members : List Nat} {other : Option SizeT}
    (distinct : members.Nodup) (two : members.length = 2) (member : userId.toNat ∈ members)
    (found : MainWindow.otherMember userId (members.map fun id =>
      .object [(.userId, .number id)]) = .ok other) :
    ∃ id, other = some (UInt64.ofNat id) ∧ id ≠ userId.toNat ∧
      ∀ value, value ∈ members ↔ value = userId.toNat ∨ value = id := by
  obtain ⟨first, second, rfl⟩ := List.length_eq_two.mp two
  have different : first ≠ second := by simpa using distinct
  change (if first = userId.toNat then
      (if second = userId.toNat then _ else _) else _) = _ at found
  by_cases own : first = userId.toNat
  · have others : second ≠ userId.toNat := fun same => different (own.trans same.symm)
    rw [if_pos own, if_neg others] at found
    cases found
    refine ⟨second, rfl, others, fun value => ?_⟩
    rw [own, List.mem_cons, List.mem_singleton]
  · rw [if_neg own] at found
    cases found
    have here : second = userId.toNat := by
      simp only [List.mem_cons, List.not_mem_nil, or_false] at member
      exact (member.resolve_left (Ne.symm own)).symm
    refine ⟨first, rfl, own, fun value => ?_⟩
    rw [here, List.mem_cons, List.mem_singleton, or_comm]

theorem answers_members {store after : Store} {chatId : SizeT} {written : Document}
    (distinct : store.userIdChatId.Nodup)
    (answers : Answers store (.getChatMembers chatId) (.document written) after) :
    after = store ∧ ∃ members : List Nat,
      written.value.elements = members.map (fun id => .object [(.userId, .number id)]) ∧
        members.Nodup ∧ ∀ userId, userId ∈ members ↔ store.Linked userId chatId.toNat := by
  obtain ⟨call, encodes, served⟩ := answers
  cases encodes
  obtain ⟨document, same, members, value, once, listed⟩ :=
    served.members_of distinct (by simp)
  cases same
  refine ⟨?_, members, by rw [value, elements_listDocument], once, listed⟩
  cases served with
  | members matching value => rfl

/-- The links of a run stay without a duplicate. -/
theorem links_nodup_of_reaches [DecidableEq ι] {start state : System ι}
    (starts : start.Starts) (distinct : start.store.userIdChatId.Nodup)
    (reached : Reaches (messenger pg) unrestricted start state) :
    state.store.userIdChatId.Nodup := by
  apply @Reaches.keeps _ _ _ _ _ _ _ _ _ _ _ _ _ _ _ _ (messenger_lawful pg)
    (messenger_member unrestricted) _ _ (starts.member unrestricted)
    (fun store : Store => store.userIdChatId.Nodup) distinct _ reached
  intro client window event request again next trace chances store reply after underway
    served once
  rcases serve_cases served with ⟨-, rfl⟩ | ⟨answer, -, call, encodes, answers⟩
  · exact once
  · exact answers.links_nodup once

/-- The exchange on which a client opens the boards of a chatter. -/
private theorem opening_exchange [DecidableEq ι] {start state after : System ι}
    (starts : start.Starts) (reached : Reaches (messenger pg) unrestricted start state)
    {client : ι} {chances : List pg.Chance}
    (stepped : state.step (messenger pg) (.exchange client chances) = some after)
    {main : MainWindow} {event : Event} (action : event.action = .viewBoardsButton)
    {chatter : SizeT} {again : Reply → Bool} {next : Reply → Act Window}
    (opens : (after.clients client).activity =
      .running (.main main) event (.ask (.getTrelloToken chatter) again next)) :
    ∃ (written : Document) (other : Option SizeT),
      Answers state.store (.getChatMembers main.currentChatId) (.document written) after.store ∧
        written.value.size = 2 ∧
        MainWindow.otherMember main.user.userId written.value.elements = .ok other ∧
        chatter = other.getD main.chatter ∧
        ∃ window event again next, (state.clients client).activity =
          .running window event (.ask (.getChatMembers main.currentChatId) again next) := by
  have asks := Reaches.underway (messenger_lawful pg) (messenger_opens unrestricted)
    (by simp [Holds, starts _]) (reached.step (meets_unrestricted state _) stepped) opens
  obtain ⟨other, exchange, written, found, same, single, asked, replied, pair, first, chosen⟩ :=
    asks.sending action
  cases same
  obtain ⟨earlier, last, trace, before, atEnd, waits⟩ := State.last_exchange stepped opens
  have alone : [] ++ [exchange] = earlier ++ [last] := by
    rw [List.nil_append, ← single, trace]
  obtain ⟨-, rfl⟩ := List.append_singleton_inj.mp alone
  have answered := asks.chained.answered exchange (by simp [single])
  rw [Answered, asked, replied, before, atEnd] at answered
  rw [asked] at waits
  exact ⟨written, found, answered, pair, first, chosen, waits⟩

/-- When a client opens the boards of a chatter, its chat has two members, its user and
the chatter, if nobody comes between the reply and the handler. -/
theorem shares_with_other [DecidableEq ι] {start state after : System ι}
    (starts : start.Starts) (distinct : start.store.userIdChatId.Nodup)
    (reached : Reaches (messenger pg) unrestricted start state) {client : ι}
    {chances : List pg.Chance}
    (stepped : state.step (messenger pg) (.exchange client chances) = some after)
    {main : MainWindow} {event : Event} (action : event.action = .viewBoardsButton)
    {chatter : SizeT} {again : Reply → Bool} {next : Reply → Act Window}
    (opens : (after.clients client).activity =
      .running (.main main) event (.ask (.getTrelloToken chatter) again next)) :
    chatter ≠ main.user.userId ∧
      ∀ userId, after.store.Linked userId main.currentChatId.toNat ↔
        userId = main.user.userId.toNat ∨ userId = chatter.toNat := by
  obtain ⟨written, other, answered, pair, first, rfl, -⟩ :=
    opening_exchange starts reached stepped action opens
  have reachedAfter := reached.step (meets_unrestricted state _) stepped
  have held := (Reaches.underway (messenger_lawful pg) (messenger_member unrestricted)
    (starts.member unrestricted) reachedAfter opens).held
  have once := links_nodup_of_reaches starts distinct reached
  obtain ⟨kept, members, elements, distinctMembers, listed⟩ := answers_members once answered
  rw [← kept] at listed
  have two : members.length = 2 := by
    rw [size_eq_length_elements, elements, List.length_map] at pair
    exact pair
  have linked : after.store.Linked main.user.userId.toNat main.currentChatId.toNat := by
    rcases held.current with zero | linked
    · obtain ⟨member, present⟩ := List.exists_mem_of_length_pos (show 0 < members.length by omega)
      have chat := Store.linked_chat ((listed member).mp present)
      rw [zero] at chat
      have positive := (Store.hasChat_pos chat).1
      contradiction
    · exact linked
  rw [elements] at first
  obtain ⟨id, rfl, different, both⟩ :=
    otherMember_pair distinctMembers two ((listed _).mpr linked) first
  have stored := (listed id).mp ((both id).mpr (.inr rfl))
  obtain ⟨user, userStored, sameUser⟩ := after.store.consistent.linkUser _ stored
  have bound := (after.store.consistent.userRange user userStored).2
  have value : (UInt64.ofNat id).toNat = id := by
    rw [UInt64.toNat_ofNat']
    have equal : user.userId = id := sameUser
    omega
  refine ⟨fun equal => different ?_, fun userId => ?_⟩
  · rw [← equal]
    exact value.symm
  · rw [← listed userId, both userId, Option.getD_some, value]

/-! Over the connections, where others may join while the reply is under way. -/

section Connected

variable [DecidableEq ι]

/-- When a client opens the boards of a chatter, its chat had two members, its user and the
chatter, as the server took up the request for them; both are members still, but others may
have joined. -/
theorem network_shares_with_other (isfinite : Bytes → Bool) (pg : Postgres) {store : Store}
    (distinct : store.userIdChatId.Nodup) {network after : Clients ι}
    (runs : Network.Runs (wire isfinite pg) (launched store) network) {client : ι}
    (stepped : network.step (wire isfinite pg) (.act client .get) = some after)
    {main : MainWindow} {event : Event} (action : event.action = .viewBoardsButton)
    {chatter : SizeT} {again : Reply → Bool} {next : Reply → Act Window}
    (opens : (after.peers client).activity =
      .running (.main main) event (.ask (.getTrelloToken chatter) again next)) :
    chatter ≠ main.user.userId ∧
      after.store.Linked main.user.userId.toNat main.currentChatId.toNat ∧
      after.store.Linked chatter.toNat main.currentChatId.toNat ∧
      ∃ asked answered chances text,
        (network.peers client).connection.p.value = some text ∧
          Network.TakesUp (wire isfinite pg) (launched store) asked answered network client chances
            (.getChatMembers main.currentChatId) text ∧
          ∀ userId, answered.store.Linked userId main.currentChatId.toNat ↔
            userId = main.user.userId.toNat ∨ userId = chatter.toNat := by
  obtain ⟨request, more, rest, text, reply, running, blocked, arrived, read, goes⟩ :=
    Network.reads_of_step stepped opens
  have first := @launched_refines ι isfinite pg store
  have stands := runs.stands_answered first blocked arrived
  obtain ⟨asked, answered, chances, taken⟩ :=
    runs.takes_up first (fun _ => .quiet) running stands
  obtain ⟨state, final, reached, waits, exchanged, settled, same⟩ :=
    taken.exchange first running read
  rw [goes] at settled
  have starts := @loggedOut_starts ι store
  obtain ⟨_, _, -, -, -, -, _, _, _, _, members⟩ :=
    opening_exchange starts reached exchanged action settled
  rw [waits] at members
  cases members
  obtain ⟨different, both⟩ := shares_with_other starts distinct reached exchanged action settled
  rw [same] at both
  have grown : answered.store.Grows after.store := by
    obtain ⟨middle, -, between⟩ := Network.refined first (taken.before.step trivial taken.handled)
    obtain ⟨last, later, atEnd⟩ := Network.refined between (taken.runs.step trivial stepped)
    rw [between.store, atEnd.store]
    exact Reaches.grows (messenger_lawful pg) later
  exact ⟨different, grown.linked ((both _).mpr (.inl rfl)), grown.linked ((both _).mpr (.inr rfl)),
    asked, answered, chances, text, arrived, taken, both⟩

end Connected

/-! Bob adds Cat while Ann's reply is under way. -/

def annBobCat : Store where
  users := [⟨1, ascii "ann"⟩, ⟨2, ascii "bob"⟩, ⟨3, ascii "cat"⟩]
  chats := [⟨1, ascii "ann and bob"⟩]
  userIdChatId := [⟨1, 1⟩, ⟨2, 1⟩]
  messages := []
  userIdTrelloToken := []
  consistent := by decide

/-- A call up to the arrival of its reply. -/
private def calls (client : Bool) (payload : Bytes) :
    List (Network.Move Bool Event (List Reference.Draw)) :=
  [.act client (.assign payload), .act client .send, .act client .wait,
    .act client (.handle (List.replicate 4 ⟨true, 0⟩)), .act client .onMessage]

private def logsIn (client : Bool) (name userId : Bytes) :
    List (Network.Move Bool Event (List Reference.Draw)) :=
  [.act client .onOpen, .start client (event (.authButton name))] ++
    calls client (ascii "find_user " ++ name) ++ [.act client .get] ++
    calls client (ascii "get_chat_list " ++ userId) ++ [.act client .get] ++
    calls client (ascii "get_chat_name 1") ++ [.act client .get] ++
    calls client (ascii "get_chat_history 1") ++ [.act client .get]

/-- Ann asks for the members, and Bob adds Cat before she reads them. -/
private def catJoins : List (Network.Move Bool Event (List Reference.Draw)) :=
  logsIn true (ascii "ann") (ascii "1") ++ logsIn false (ascii "bob") (ascii "2") ++
    [.start true (event .viewBoardsButton)] ++ calls true (ascii "get_chat_members 1") ++
    [.start false (event (.addMember (ascii "cat")))] ++
    calls false (ascii "find_user cat") ++ [.act false .get] ++
    calls false (ascii "link_user_to_chat 3 1")

/-- The user and the chatter of a client that is opening boards. -/
private def opening (network : Clients Bool) : Option (MainWindow × SizeT) :=
  match (network.peers true).activity with
  | .running (.main main) event (.ask (.getTrelloToken chatter) _ _) =>
      match event.action with
      | .viewBoardsButton => some (main, chatter)
      | _ => none
  | _ => none

private theorem opening_eq_some {network : Clients Bool} {main : MainWindow} {chatter : SizeT}
    (found : opening network = some (main, chatter)) :
    ∃ (event : Event) (again : Reply → Bool) (next : Reply → Act Window),
      event.action = .viewBoardsButton ∧ (network.peers true).activity =
        .running (.main main) event (.ask (.getTrelloToken chatter) again next) := by
  unfold opening at found
  split at found
  · next window started asked again rest running =>
      split at found
      · next action =>
          cases found
          exact ⟨started, again, rest, action, running⟩
      · contradiction
  · contradiction

private theorem annOpens :
    ((Interaction.run (Network.step (wire (fun _ => true) Reference.postgres))
      (fun _ _ _ => true) (launched annBobCat) catJoins).bind fun network =>
        (network.step (wire (fun _ => true) Reference.postgres) (.act true .get)).bind fun after =>
          (opening after).map fun found =>
            (found.1.user.userId, found.1.currentChatId, found.2, after.store.userIdChatId)) =
      some (1, 1, 2, [⟨1, 1⟩, ⟨2, 1⟩, ⟨3, 1⟩]) := by
  decide +kernel

/-- A run in which Ann opens the boards of Bob in a chat of three. -/
private theorem annOpens_run :
    ∃ (network after : Clients Bool) (main : MainWindow) (event : Event) (again : Reply → Bool)
      (next : Reply → Act Window),
      Network.Runs (wire (fun _ => true) Reference.postgres) (launched annBobCat) network ∧
        network.step (wire (fun _ => true) Reference.postgres) (.act true .get) = some after ∧
        event.action = .viewBoardsButton ∧
        (after.peers true).activity =
          .running (.main main) event (.ask (.getTrelloToken 2) again next) ∧
        main.user.userId = 1 ∧ main.currentChatId = 1 ∧
        after.store.userIdChatId = [⟨1, 1⟩, ⟨2, 1⟩, ⟨3, 1⟩] := by
  obtain ⟨network, ran, rest⟩ := Option.bind_eq_some_iff.mp annOpens
  obtain ⟨after, stepped, rest⟩ := Option.bind_eq_some_iff.mp rest
  obtain ⟨⟨main, chatter⟩, found, ids⟩ := Option.map_eq_some_iff.mp rest
  simp only [Prod.mk.injEq] at ids
  obtain ⟨user, current, rfl, links⟩ := ids
  obtain ⟨event, again, next, action, opens⟩ := opening_eq_some found
  exact ⟨network, after, main, event, again, next,
    Reached.of_run (fun _ _ => trivial) .start ran, stepped, action, opens, user, current, links⟩

theorem network_shares_with_bob :
    ∃ (network after asked answered : Clients Bool) (main : MainWindow)
      (chances : List Reference.Draw) (text : Bytes),
      main.user.userId = 1 ∧ main.currentChatId = 1 ∧
        after.store.userIdChatId = [⟨1, 1⟩, ⟨2, 1⟩, ⟨3, 1⟩] ∧
        Network.TakesUp (wire (fun _ => true) Reference.postgres) (launched annBobCat) asked
          answered network true chances (.getChatMembers main.currentChatId) text ∧
        ∀ userId, answered.store.Linked userId main.currentChatId.toNat ↔
          userId = main.user.userId.toNat ∨ userId = (2 : SizeT).toNat := by
  obtain ⟨network, after, main, event, again, next, runs, stepped, action, opens, user, current,
    links⟩ := annOpens_run
  obtain ⟨-, -, -, asked, answered, chances, text, -, taken, both⟩ :=
    network_shares_with_other (fun _ => true) Reference.postgres (by decide) runs stepped action
      opens
  exact ⟨network, after, asked, answered, main, chances, text, user, current, links, taken, both⟩

theorem opens_for_three :
    ∃ (network after : Clients Bool) (main : MainWindow) (event : Event) (again : Reply → Bool)
      (next : Reply → Act Window),
      Network.Runs (wire (fun _ => true) Reference.postgres) (launched annBobCat) network ∧
        network.step (wire (fun _ => true) Reference.postgres) (.act true .get) = some after ∧
        event.action = .viewBoardsButton ∧
        (after.peers true).activity =
          .running (.main main) event (.ask (.getTrelloToken 2) again next) ∧
        ¬ ∀ userId, after.store.Linked userId main.currentChatId.toNat ↔
          userId = main.user.userId.toNat ∨ userId = (2 : SizeT).toNat := by
  obtain ⟨network, after, main, event, again, next, runs, stepped, action, opens, user, current,
    links⟩ := annOpens_run
  refine ⟨network, after, main, event, again, next, runs, stepped, action, opens, fun two => ?_⟩
  have joined : after.store.Linked 3 main.currentChatId.toNat := by
    rw [current]
    change ⟨3, 1⟩ ∈ after.store.userIdChatId
    rw [links]
    decide
  have other := (two 3).mp joined
  rw [user] at other
  revert other
  decide

end BpkMessenger.Client
