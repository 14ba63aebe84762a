import BpkMessenger.Client.ChatRows
import BpkMessenger.Client.Confined

namespace BpkMessenger.Client

open Text Server Interaction

/-! What a main window shows of others: nothing but what concerns its user. -/

variable {pg : Postgres} {ι : Type}

/-- The id and the name of a chat, or those that `operator[]` makes up. -/
def Entitles (chats : List ChatRow) (entry : SizeT × Bytes) : Prop :=
  entry = (0, []) ∨ ∃ chat ∈ chats, entry = chatRow chat

/-- The chats, the messages of others and the tokens in a window are all in these tables, and
its label names the chat that it shows. -/
structure MainWindow.Within (window : MainWindow) (part : Tables) : Prop where
  rows : ∀ row ∈ window.rows, ∃ chat ∈ part.chats, row = chatRow chat
  label : Entitles part.chats (window.currentChatId, window.label)
  incoming : ∀ text, .incoming text ∈ window.listWidget →
    ∃ message ∈ part.messages, message.chatId = window.currentChatId.toNat ∧
      ∃ sender ∈ part.users, sender.userId = message.senderId ∧
        text = sender.userName ++ ascii ": " ++ message.messageText
  viewBoards : ∀ opened ∈ window.viewBoards, ∃ row ∈ part.userIdTrelloToken,
    row.trelloToken = opened.chatterToken

/-- The main window as the last handler has left it. -/
def onScreen : Activity Window Event ClientRequest Reply Output → Option MainWindow
  | .idle (.main main) | .running (.main main) _ _ => some main
  | _ => none

/-! The rows, and their names. -/

theorem mem_part_chats {store : Store} {userId : Nat} {chat : ChatRow} :
    chat ∈ (store.part userId).chats ↔
      chat ∈ store.chats ∧ store.Linked userId chat.chatId := by
  change chat ∈ store.chats.filter _ ↔ _
  rw [List.mem_filter, decide_eq_true_iff]

theorem part_chats_precedes {store after : Store} (precedes : store.Precedes after)
    (userId : Nat) : (store.part userId).chats ⊆ (after.part userId).chats := by
  intro chat member
  obtain ⟨stored, linked⟩ := mem_part_chats.mp member
  exact mem_part_chats.mpr ⟨precedes.chats.subset stored, precedes.links.subset linked⟩

theorem Entitles.mono {chats others : List ChatRow} {entry : SizeT × Bytes}
    (subset : chats ⊆ others) (entitles : Entitles chats entry) : Entitles others entry := by
  refine entitles.imp_right fun found => ?_
  obtain ⟨chat, member, same⟩ := found
  exact ⟨chat, subset member, same⟩

theorem linked_of_mem_linkedChats {user : User} {store : Store} {chatId : Nat}
    (member : chatId ∈ linkedChats user store) : store.Linked user.userId.toNat chatId := by
  obtain ⟨row, chosen, rfl⟩ := List.mem_map.mp member
  obtain ⟨stored, same⟩ := List.mem_filter.mp chosen
  rw [← of_decide_eq_true same]
  exact stored

/-- What the chats of a user are, is known from the list and the names that were fetched. -/
theorem Reports.part {window fetched : MainWindow} {listed store : Store} {chats : List ChatRow}
    (reports : Reports window fetched listed store chats) (before : listed.Precedes store) :
    chats ⊆ (store.part window.user.userId.toNat).chats := by
  intro chat member
  have ids := reports.linked.subset (List.mem_map_of_mem member)
  exact mem_part_chats.mpr ⟨reports.stored member,
    before.links.subset (linked_of_mem_linkedChats ids)⟩

/-- The two maps get their entries together. -/
theorem updateChatsUi_entries {fresh : Allocator} {window rebuilt : MainWindow}
    {chats : List ChatRow} (elements : window.chatNames.elements = chatDocuments chats)
    (rebuilds : updateChatsUi fresh window = .ok rebuilt) (item : ItemPtr) :
    (rebuilt.iconToChatId item, rebuilt.iconToName item) =
        (window.iconToChatId item, window.iconToName item) ∨
      ∃ chat ∈ chats, (rebuilt.iconToChatId item, rebuilt.iconToName item) = chatRow chat := by
  apply @updateChatsUi_fold fresh window rebuilt chats
    (fun before current =>
      (current.iconToChatId item, current.iconToName item) =
          (window.iconToChatId item, window.iconToName item) ∨
        ∃ chat ∈ before, (current.iconToChatId item, current.iconToName item) = chatRow chat)
    elements rebuilds (.inl rfl)
  intro before chat current next soFar added
  cases added
  simp only [Function.update_apply]
  by_cases new : item = some (fresh.address current.listWidget2.length)
  · right
    refine ⟨chat, List.mem_append_right before (List.mem_singleton_self chat), ?_⟩
    rw [if_pos new, if_pos new]
    rfl
  · rw [if_neg new, if_neg new]
    refine soFar.imp_right fun found => ?_
    obtain ⟨earlier, member, same⟩ := found
    exact ⟨earlier, List.mem_append_left _ member, same⟩

/-- What the maps hold, and what was read from them into the label. -/
structure Labelled (main : MainWindow) (store : Store) : Prop where
  entries : ∀ item, Entitles (store.part main.user.userId.toNat).chats
    (main.iconToChatId item, main.iconToName item)
  current : Entitles (store.part main.user.userId.toNat).chats (main.currentChatId, main.label)
  chatNames : main.chatNames.clear.elements = []

theorem Reports.labelled {fresh : Allocator} {window fetched rebuilt : MainWindow}
    {listed store : Store} {chats : List ChatRow} {count : Nat}
    (reports : Reports window fetched listed store chats) (before : listed.Precedes store)
    (labelled : Labelled window store)
    (rebuilds : updateChatsUi fresh { fetched with numOfChats := count } = .ok rebuilt) :
    Labelled rebuilt store := by
  have part := reports.part before
  obtain ⟨same, elements, cleared, -, -⟩ := reports
  have elements : { fetched with numOfChats := count }.chatNames.elements =
      chatDocuments chats := elements
  have entries := updateChatsUi_entries elements rebuilds
  obtain ⟨listWidget2, iconToChatId, iconToName, rfl⟩ := updateChatsUi_withList rebuilds
  rw [same] at entries ⊢
  refine ⟨fun item => ?_, labelled.current, cleared⟩
  rcases entries item with kept | ⟨chat, member, found⟩
  · rw [kept]
    exact labelled.entries item
  · exact .inr ⟨chat, part member, found⟩

theorem labelled_maintained : Maintained Labelled where
  stable := by
    intro main store after precedes labelled
    have part := part_chats_precedes precedes main.user.userId.toNat
    exact ⟨fun item => (labelled.entries item).mono part, labelled.current.mono part,
      labelled.chatNames⟩
  built := by
    intro fresh user main trace store ordered past built
    obtain ⟨fetched, rebuilt, redrawn, gathered, rebuilds, drawn, rfl⟩ := built
    have before := Chained.before_precedes ordered past
    have start : Labelled { user := user } store := ⟨fun _ => .inl rfl, .inl rfl, rfl⟩
    obtain ⟨exchange, member, -, chats, reports⟩ := gathered.reports rfl before
    have labelled := reports.labelled (before exchange member) start rebuilds
    have first : rebuilt.currentChat = 0 := by
      obtain ⟨listWidget2, iconToChatId, iconToName, rfl⟩ := updateChatsUi_withList rebuilds
      rw [reports.same]
      rfl
    obtain ⟨listWidget, size, rfl⟩ := drawn.redrawn
    refine ⟨labelled.entries, ?_, labelled.chatNames⟩
    change Entitles _ (rebuilt.iconToChatId (rebuilt.item 0),
      rebuilt.iconToName (rebuilt.item rebuilt.currentChat))
    rw [first]
    exact labelled.entries _
  left := by
    intro main event result trace store labelled ordered past leaves
    have before := Chained.before_precedes ordered past
    cases leaves with
    | clicked action inside drawn =>
        obtain ⟨listWidget, size, rfl⟩ := drawn.redrawn
        exact ⟨labelled.entries, labelled.entries _, labelled.chatNames⟩
    | polled action drawn =>
        obtain ⟨listWidget, size, rfl⟩ := drawn.redrawn
        exact ⟨labelled.entries, labelled.current, labelled.chatNames⟩
    | fetched action gathered counted =>
        obtain ⟨exchange, member, -, chats, reports⟩ :=
          gathered.reports labelled.chatNames before
        rw [reports.same]
        exact ⟨labelled.entries, labelled.current, reports.cleared⟩
    | rebuilt action gathered differs rebuilds =>
        obtain ⟨exchange, member, -, chats, reports⟩ :=
          gathered.reports labelled.chatNames before
        have kept := reports.labelled (before exchange member) labelled rebuilds
        exact ⟨kept.entries, kept.current, kept.chatNames⟩
    | added action gathered =>
        obtain ⟨exchange, member, -, chats, reports⟩ :=
          gathered.reports labelled.chatNames before
        rw [reports.same]
        exact ⟨labelled.entries, labelled.current, reports.cleared⟩
    | _ => exact ⟨labelled.entries, labelled.current, labelled.chatNames⟩

/-! The rows of the message view, and the boards. -/

theorem Conversation.incoming_stored {main : MainWindow} {store : Store}
    (conversation : Conversation main.currentChatId main store)
    (own : OwnChat main.user.userId store main.currentChatId) {text : Bytes}
    (shown : .incoming text ∈ main.listWidget) :
    ∃ message ∈ (store.part main.user.userId.toNat).messages,
      message.chatId = main.currentChatId.toNat ∧
        ∃ sender ∈ (store.part main.user.userId.toNat).users,
          sender.userId = message.senderId ∧
            text = sender.userName ++ ascii ": " ++ message.messageText := by
  have counted : 0 < (rendering main.user main.currentChatId store).count (.incoming text) :=
    (List.count_pos_iff.mpr shown).trans_le (conversation.incoming text)
  obtain ⟨message, listed, same⟩ := List.mem_map.mp (List.count_pos_iff.mp counted)
  obtain ⟨stored, chat⟩ := List.mem_filter.mp listed
  have chat : message.chatId = main.currentChatId.toNat := of_decide_eq_true chat
  have linked : store.Linked main.user.userId.toNat message.chatId := by
    rw [chat]
    apply own.linked
    rw [← chat]
    exact store.consistent.messageChat message stored
  obtain ⟨sender, senderStored, sameId⟩ := store.consistent.messageSender message stored
  refine ⟨message, List.mem_filter.mpr ⟨stored, decide_eq_true linked⟩, chat, sender,
    List.mem_filter.mpr ⟨senderStored, decide_eq_true ?_⟩, sameId, ?_⟩
  · exact .inr (.inr ⟨message, stored, sameId.symm, linked⟩)
  · rw [rowView, messageView, toNat_senderId stored, ← sameId,
      nameOf_stored senderStored] at same
    by_cases mine : UInt64.ofNat sender.userId = main.user.userId
    · rw [if_pos mine] at same
      contradiction
    · rw [if_neg mine] at same
      cases same
      rfl

theorem Confides.viewBoards_part {main : MainWindow} {store : Store}
    (confides : Confides main store) :
    ∀ opened ∈ main.viewBoards,
      ∃ row ∈ (store.part main.user.userId.toNat).userIdTrelloToken,
        row.trelloToken = opened.chatterToken := by
  intro opened member
  obtain ⟨row, stored, same, met⟩ := confides.viewBoards opened member
  exact ⟨row, List.mem_filter.mpr ⟨stored, decide_eq_true (.inr met)⟩, same⟩

theorem Listing.rows_part {main : MainWindow} {store : Store} (listing : Listing main store) :
    ∀ row ∈ main.rows, ∃ chat ∈ (store.part main.user.userId.toNat).chats,
      row = chatRow chat := by
  intro row member
  rcases listing.rows with empty | ⟨earlier, chats, before, linked, stored, rows, -⟩
  · rw [MainWindow.rows, empty] at member
    exact absurd member List.not_mem_nil
  · rw [rows] at member
    obtain ⟨chat, listed, rfl⟩ := List.mem_map.mp member
    have ids := linked.subset (List.mem_map_of_mem listed)
    exact ⟨chat, mem_part_chats.mpr ⟨stored listed,
      before.links.subset (linked_of_mem_linkedChats ids)⟩, rfl⟩

/-! Every window of a run. -/

/-- What every handler keeps, holds of the windows that are shown. -/
theorem holds_onScreen {grows : Store → Store → Prop}
    {sends : Window → Event → Trace → ClientRequest → Prop}
    {post : Window → Event → Window → Trace → Prop} {invariant : Window → Store → Prop}
    [DecidableEq ι] (lawful : Lawful (messenger pg) Answered grows)
    (verified : Verified (messenger pg) Answered grows (unrestricted : Requirement ι) sends post
      fun _ => invariant) (auth : ∀ store, invariant .auth store) {start state : System ι}
    (starts : start.Starts) (reached : Reaches (messenger pg) unrestricted start state)
    {client : ι} {main : MainWindow}
    (shows : onScreen (state.clients client).activity = some main) :
    invariant (.main main) state.store := by
  have idle : ∀ client, Holds Answered grows unrestricted sends post (fun _ => invariant)
      start.store client (start.clients client) := by
    intro client
    simp only [Holds, starts client]
    exact auth start.store
  have holds := Reaches.holds lawful verified idle reached client
  unfold onScreen at shows
  split at shows
  · next window activity =>
      cases shows
      simpa only [Holds, activity] using holds
  · next window event program activity =>
      cases shows
      rw [Holds, activity] at holds
      exact holds.held
  · contradiction

theorem Maintained.onScreen {holds : MainWindow → Store → Prop} [DecidableEq ι]
    (maintained : Maintained holds) {start state : System ι} (starts : start.Starts)
    (reached : Reaches (messenger pg) unrestricted start state) {client : ι} {main : MainWindow}
    (shows : onScreen (state.clients client).activity = some main) : holds main state.store :=
  holds_onScreen (messenger_precedes pg) (maintained.verified unrestricted)
    (fun _ => trivial) starts reached shows

/-- In every state of any number of clients, whatever a main window shows of others is in the
part of the tables that concerns its user, and its label names the chat that it shows. -/
theorem windows_confined [DecidableEq ι] {start state : System ι} (starts : start.Starts)
    (reached : Reaches (messenger pg) unrestricted start state) {client : ι} {main : MainWindow}
    (shows : onScreen (state.clients client).activity = some main) :
    main.Within (state.store.part main.user.userId.toNat).toTables := by
  have discreet : Discreet main state.store :=
    holds_onScreen (messenger_lawful pg) (messenger_discreet unrestricted)
      (fun _ => trivial) starts reached shows
  have conversation := conversation_maintained.onScreen starts reached shows
  refine ⟨(listing_maintained.onScreen starts reached shows).rows_part,
    (labelled_maintained.onScreen starts reached shows).current, fun text member => ?_,
    discreet.confides.viewBoards_part⟩
  exact conversation.incoming_stored discreet.member.current member

/-! Ann's window after Bob has written to their chat. -/

private theorem annShows :
    (((loggedOut annAndBob).run (messenger Reference.postgres) (fun _ _ _ _ _ => true)
      (handlerRun false (.authButton (ascii "bob")) 0 4 ++
        handlerRun false (.sendButton (ascii "yo")) 0 1 ++
          handlerRun true (.authButton (ascii "ann")) 0 5)).bind
            fun state => (onScreen (state.clients true).activity).map fun main =>
              (main.listWidget, main.label)) =
      some ([.incoming (ascii "bob: yo")], ascii "ann and bob") := by
  decide +kernel

theorem windows_confined_ann :
    ∃ (state : System Bool) (main : MainWindow),
      main.listWidget = [.incoming (ascii "bob: yo")] ∧ main.label = ascii "ann and bob" ∧
        main.Within (state.store.part main.user.userId.toNat).toTables := by
  obtain ⟨state, ran, seen⟩ := Option.bind_eq_some_iff.mp annShows
  obtain ⟨main, shows, both⟩ := Option.map_eq_some_iff.mp seen
  obtain ⟨rows, label⟩ := Prod.mk.inj both
  exact ⟨state, main, rows, label, windows_confined (loggedOut_starts annAndBob)
    (Reaches.of_run (fun _ _ _ _ _ _ => trivial) .start ran) shows⟩

end BpkMessenger.Client
