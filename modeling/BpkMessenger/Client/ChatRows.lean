import BpkMessenger.Client.Views

namespace BpkMessenger.Client

open Text Server Interaction

/-! The rows of the chat list against the chats that a tick of its timer fetches. -/

variable {pg : Postgres} {ι : Type}

/-- The chats behind the rows of `listWidget_2`, with the names they are shown by. -/
def MainWindow.rows (window : MainWindow) : List (SizeT × Bytes) :=
  window.listWidget2.map fun item =>
    (window.iconToChatId (some item), window.iconToName (some item))

/-- A chat as `update_chats_ui` reads it from an element of `chat_names`. -/
def chatAt (x : Json Key) : Except JsonException (SizeT × Bytes) := do
  let chatName ← stringAt .chatName x
  let chatId ← sizeAt .chatId x
  return (chatId, chatName)

/-- The rows are, up to order, the chats in `chat_names`. -/
def MainWindow.ShowsChats (window : MainWindow) : Prop :=
  ∃ chats, window.chatNames.elements.mapM chatAt = .ok chats ∧ window.rows.Perm chats

/-- The chats that the server has linked to a user. -/
def linkedChats (user : User) (store : Store) : List Nat :=
  (store.userIdChatId.filter fun row => row.userId = user.userId.toNat).map LinkRow.chatId

def chatRow (chat : ChatRow) : SizeT × Bytes :=
  (UInt64.ofNat chat.chatId, chat.chatName)

theorem mapM_chatDocuments (chats : List ChatRow) :
    (chatDocuments chats).mapM chatAt = .ok (chats.map chatRow) := by
  induction chats with
  | nil => rfl
  | cons chat rest induction =>
      change List.mapM chatAt (chatDocument chat.chatId chat.chatName :: chatDocuments rest) = _
      rw [List.mapM_cons, induction]
      rfl

theorem showsChats_iff {window : MainWindow} {chats : List ChatRow}
    (elements : window.chatNames.elements = chatDocuments chats) :
    window.ShowsChats ↔ window.rows.Perm (chats.map chatRow) := by
  rw [MainWindow.ShowsChats, elements, mapM_chatDocuments]
  constructor
  · intro shows
    obtain ⟨read, same, rows⟩ := shows
    cases same
    exact rows
  · intro rows
    exact ⟨_, rfl, rows⟩

/-! The rows that `update_chats_ui` makes. -/

theorem rows_addChatItem {fresh : Allocator} {window next : MainWindow} {chat : ChatRow}
    (new : fresh.address window.listWidget2.length ∉ window.listWidget2)
    (added : addChatItem fresh window (chatDocument chat.chatId chat.chatName) = .ok next) :
    next.rows = window.rows ++ [chatRow chat] := by
  cases added
  simp only [MainWindow.rows, List.map_append, List.map_singleton, Function.update_self]
  congr 1
  apply List.map_congr_left
  intro item member
  have other : (some item : ItemPtr) ≠ some (fresh.address window.listWidget2.length) := by
    intro same
    rw [Option.some.inj same] at member
    exact new member
  rw [Function.update_of_ne other, Function.update_of_ne other]

theorem updateChatsUi_rows {fresh : Allocator} {window rebuilt : MainWindow}
    {chats : List ChatRow} (elements : window.chatNames.elements = chatDocuments chats)
    (rebuilds : updateChatsUi fresh window = .ok rebuilt) :
    rebuilt.rows = chats.map chatRow := by
  have filled := @updateChatsUi_fold fresh window rebuilt chats
    (fun before current => Rebuilding fresh window before current ∧
      current.rows = before.map chatRow) elements rebuilds
    ⟨⟨⟨_, rfl⟩, rfl, rfl, rfl, fun _ => .inl rfl⟩, rfl⟩ ?_
  · exact filled.2
  · intro before chat current next soFar added
    obtain ⟨rebuilding, rows⟩ := soFar
    refine ⟨rebuilding.step added, ?_⟩
    have new : fresh.address current.listWidget2.length ∉ current.listWidget2 := by
      rw [rebuilding.listWidget2, List.length_map, List.length_range]
      exact address_notMem fresh before.length
    rw [rows_addChatItem new added, rows, List.map_append, List.map_singleton]

/-! What the list remembers of the server. -/

/-- Chats that are stored under the same ids are the same chats. -/
theorem perm_of_chatIds {store : Store} {first second : List ChatRow}
    (firstStored : first ⊆ store.chats) (secondStored : second ⊆ store.chats)
    (ids : (first.map ChatRow.chatId).Perm (second.map ChatRow.chatId)) :
    first.Perm second := by
  have read : ∀ chats : List ChatRow, chats ⊆ store.chats →
      (chats.map ChatRow.chatId).map
        (fun id => store.chats.find? fun chat => chat.chatId = id) = chats.map some := by
    intro chats stored
    rw [List.map_map]
    apply List.map_congr_left
    intro chat member
    exact find?_of_nodup_map store.consistent.chatIds (stored member)
  have options := ids.map fun id => store.chats.find? fun chat => chat.chatId = id
  rw [read first firstStored, read second secondStored] at options
  exact (List.map_perm_map_iff (Option.some_injective ChatRow)).mp options

theorem linkedChats_precedes {store after : Store} (precedes : store.Precedes after)
    (user : User) : linkedChats user store <+: linkedChats user after :=
  (precedes.links.filter _).map _

/-- What `update_chats` has fetched, when the server had the links of `listed`. -/
structure Reports (window result : MainWindow) (listed store : Store)
    (chats : List ChatRow) : Prop where
  same : result =
    { window with chatNames := result.chatNames, sizeOfAnswer := chats.length }
  elements : result.chatNames.elements = chatDocuments chats
  cleared : result.chatNames.clear.elements = []
  linked : (chats.map ChatRow.chatId).Perm (linkedChats window.user listed)
  stored : chats ⊆ store.chats

theorem Gathered.reports {window result : MainWindow} {trace : Trace} {store : Store}
    (gathered : Gathered window result trace) (cleared : window.chatNames.clear.elements = [])
    (before : ∀ exchange ∈ trace, exchange.before.Precedes store) :
    ∃ exchange ∈ trace, exchange.request = .getChatList window.user.userId ∧
      ∃ chats, Reports window result exchange.before store chats := by
  obtain ⟨chats, chatNames, rfl, elements, kept, fetches, known⟩ := gathered
  obtain ⟨exchange, member, asked, written, rows, replied, matching, value, ids⟩ := fetches
  rw [cleared, List.nil_append] at elements
  have size : chatNames.size = chats.length := by
    rw [size_eq_length_elements, elements, chatDocuments, List.length_map]
  refine ⟨exchange, member, asked, chats, ?_, elements, kept.trans cleared, ?_, ?_⟩
  · rw [size]
  · rw [ids]
    exact matching.map _
  · intro chat chatMember
    obtain ⟨earlier, earlierMember, stored⟩ := known chat chatMember
    exact (before earlier earlierMember).chats.subset stored

/-- The rows are cleared, or stand for the chats that an earlier state of the server
had linked to the user, and the tick counted them or has not counted yet. -/
structure Listing (main : MainWindow) (store : Store) : Prop where
  chatNames : main.chatNames.clear.elements = []
  rows : main.listWidget2 = [] ∨ ∃ (earlier : Store) (chats : List ChatRow),
    earlier.Precedes store ∧
      (chats.map ChatRow.chatId).Perm (linkedChats main.user earlier) ∧
      chats ⊆ store.chats ∧ main.rows = chats.map chatRow ∧
      (main.numOfChats = 0 ∨ main.numOfChats = chats.length)

theorem Listing.stable {main : MainWindow} {store after : Store}
    (precedes : store.Precedes after) (listing : Listing main store) :
    Listing main after := by
  obtain ⟨chatNames, empty | ⟨earlier, chats, before, linked, stored, rows, counted⟩⟩ := listing
  · exact ⟨chatNames, .inl empty⟩
  · exact ⟨chatNames, .inr ⟨earlier, chats, before.trans precedes, linked,
      fun chat member => precedes.chats.subset (stored member), rows, counted⟩⟩

theorem Reports.listing {fresh : Allocator} {window fetched rebuilt : MainWindow}
    {listed store : Store} {chats : List ChatRow} {count : Nat}
    (reports : Reports window fetched listed store chats) (before : listed.Precedes store)
    (rebuilds : updateChatsUi fresh { fetched with numOfChats := count } = .ok rebuilt) :
    rebuilt.user = window.user ∧ rebuilt.chatNames = fetched.chatNames ∧
      rebuilt.numOfChats = count ∧ rebuilt.listWidget2.length = chats.length ∧
      ∀ counted, counted = 0 ∨ counted = chats.length →
        Listing { rebuilt with numOfChats := counted } store := by
  obtain ⟨same, elements, cleared, linked, stored⟩ := reports
  have elements : { fetched with numOfChats := count }.chatNames.elements =
      chatDocuments chats := elements
  have rows := updateChatsUi_rows elements rebuilds
  obtain ⟨⟨names, filled⟩, widget, -, -, -⟩ := updateChatsUi_rebuilds elements rebuilds
  have user : rebuilt.user = window.user := by
    rw [filled, same]
    rfl
  have kept : rebuilt.chatNames = fetched.chatNames := by
    rw [filled]
    rfl
  refine ⟨user, kept, ?_, ?_, ?_⟩
  · rw [filled]
    rfl
  · rw [widget, List.length_map, List.length_range]
  · intro counted known
    refine ⟨?_, .inr ⟨listed, chats, before, ?_, stored, rows, known⟩⟩
    · change rebuilt.chatNames.clear.elements = []
      rw [kept]
      exact cleared
    · change (chats.map ChatRow.chatId).Perm (linkedChats rebuilt.user listed)
      rw [user]
      exact linked

theorem listing_maintained : Maintained Listing where
  stable := Listing.stable
  built := by
    intro fresh user main trace store ordered past built
    obtain ⟨fetched, rebuilt, redrawn, gathered, rebuilds, drawn, rfl⟩ := built
    obtain ⟨listWidget, size, rfl⟩ := drawn.redrawn
    have before := Chained.before_precedes ordered past
    obtain ⟨exchange, member, -, chats, reports⟩ := gathered.reports rfl before
    obtain ⟨-, -, counted, -, listing⟩ := reports.listing (before exchange member) rebuilds
    obtain ⟨chatNames, rows⟩ := listing rebuilt.numOfChats (.inl counted)
    exact ⟨chatNames, rows⟩
  left := by
    intro main event result trace store listing ordered past leaves
    have before := Chained.before_precedes ordered past
    cases leaves with
    | clicked action inside drawn =>
        obtain ⟨listWidget, size, rfl⟩ := drawn.redrawn
        exact ⟨listing.chatNames, listing.rows⟩
    | polled action drawn =>
        obtain ⟨listWidget, size, rfl⟩ := drawn.redrawn
        exact ⟨listing.chatNames, listing.rows⟩
    | fetched action gathered counted =>
        obtain ⟨exchange, member, -, chats, reports⟩ :=
          gathered.reports listing.chatNames before
        rw [reports.same]
        exact ⟨reports.cleared, listing.rows⟩
    | @rebuilt fetched rebuilt _ action gathered differs rebuilds =>
        obtain ⟨exchange, member, -, chats, reports⟩ :=
          gathered.reports listing.chatNames before
        obtain ⟨-, -, -, length, kept⟩ := reports.listing (before exchange member) rebuilds
        exact kept rebuilt.listWidget2.length (.inr length)
    | added action gathered =>
        obtain ⟨exchange, member, -, chats, reports⟩ :=
          gathered.reports listing.chatNames before
        rw [reports.same]
        exact ⟨reports.cleared, .inl rfl⟩
    | _ => exact ⟨listing.chatNames, listing.rows⟩

/-- What the rows stood for while the server had as many links as they count. -/
theorem Listing.rows_perm {main result : MainWindow} {listed store : Store}
    {chats : List ChatRow} (listing : Listing main listed) (precedes : listed.Precedes store)
    (reports : Reports main result listed store chats)
    (counted : main.numOfChats = chats.length) (shown : main.listWidget2 ≠ []) :
    main.rows.Perm (chats.map chatRow) := by
  obtain ⟨earlier, others, before, linked, stored, rows, known⟩ :=
    listing.rows.resolve_left shown
  have shorter := linkedChats_precedes before main.user
  have length : (linkedChats main.user earlier).length =
      (linkedChats main.user listed).length := by
    have first := linked.length_eq
    have second := reports.linked.length_eq
    have bound := shorter.length_le
    rw [List.length_map] at first second
    omega
  rw [shorter.eq_of_length length] at linked
  rw [rows]
  apply List.Perm.map
  refine perm_of_chatIds ?_ reports.stored (linked.trans reports.linked.symm)
  exact fun chat member => precedes.chats.subset (stored member)

/-- After a tick the rows are the chats just fetched, unless the list was cleared, chats
had been counted, and the server has as many again. -/
theorem tick_showsChats_iff [DecidableEq ι] {start state : System ι} (starts : start.Starts)
    (reached : Reaches (messenger pg) unrestricted start state)
    {move : Move ι Event (List pg.Chance)} {client : ι} {main result : MainWindow}
    {event : Event} (action : event.action = .timerChat) {program : Act Window}
    {trace : Trace} {store : Store}
    (advances : Advances (messenger pg) state move client (.main main) event program trace
      store)
    (ended : program.outcome = some (some (.main result))) :
    ∃ exchange ∈ trace, exchange.request = .getChatList main.user.userId ∧
      (result.ShowsChats ↔ (main.listWidget2 = [] →
        (linkedChats main.user exchange.before).length = main.numOfChats →
          main.numOfChats = 0)) := by
  obtain ⟨leaves, ordered, past, listing, held⟩ :=
    listing_maintained.ended starts reached advances ended
  have before := Chained.before_precedes ordered past
  cases leaves with
  | @rebuilt fetched rebuilt _ tick gathered differs rebuilds =>
      obtain ⟨exchange, member, asked, chats, reports⟩ :=
        gathered.reports listing.chatNames before
      have names : { rebuilt with numOfChats := rebuilt.listWidget2.length }.chatNames.elements =
          chatDocuments chats := by
        have kept := (reports.listing (before exchange member) rebuilds).2.1
        change rebuilt.chatNames.elements = _
        rw [kept]
        exact reports.elements
      have rows := updateChatsUi_rows reports.elements rebuilds
      refine ⟨exchange, member, asked, (showsChats_iff names).trans
        ⟨fun _ _ same => ?_, fun _ => ?_⟩⟩
      · have length := reports.linked.length_eq
        rw [List.length_map, same] at length
        rw [reports.same] at differs
        exact absurd length.symm differs
      · change rebuilt.rows.Perm _
        rw [rows]
  | fetched tick gathered counted =>
      obtain ⟨exchange, member, asked, chats, reports⟩ :=
        gathered.reports listing.chatNames before
      have length := reports.linked.length_eq
      have rows : result.rows = main.rows := by
        rw [reports.same]
        rfl
      rw [List.length_map] at length
      rw [reports.same] at counted
      have counted : main.numOfChats = chats.length := counted
      refine ⟨exchange, member, asked, (showsChats_iff reports.elements).trans ?_⟩
      rw [rows]
      by_cases shown : main.listWidget2 = []
      · have none : main.rows = [] := by rw [MainWindow.rows, shown, List.map_nil]
        rw [none, List.nil_perm, List.map_eq_nil_iff, ← List.length_eq_zero_iff, ← counted]
        exact ⟨fun zero _ _ => zero, fun zero => zero shown (length.symm.trans counted.symm)⟩
      · have perm := (held exchange member).rows_perm (before exchange member) reports counted
          shown
        exact ⟨fun _ empty => absurd empty shown, fun _ => perm⟩
  | unchanged quiet =>
      rw [action] at quiet
      contradiction
  | sent other | clicked other | polled other | added other | viewed other =>
      rw [action] at other
      contradiction

/-! Ann's chat list after she added a chat that could not be linked to her. -/

/-- Ann logs in, her list is fetched, she adds the chat `x`, and the list is asked for
once more. -/
def clearedRun : List (Move Unit Event (List Reference.Draw)) :=
  handlerRun () (.authButton (ascii "ann")) 0 4 ++ handlerRun () .timerChat 0 2 ++
    handlerRun () (.addChat (ascii "x")) 2 2 ++ [.exchange () (draws false 0)] ++
    List.replicate 2 (.exchange () (draws true 0)) ++
    [.start () (event .timerChat), .exchange () (draws true 0)]

/-- The rows after a tick and the chats it has fetched. -/
private def listSeen (found : MainWindow × Event × Trace × MainWindow) :
    Option (List (SizeT × Bytes) × List (SizeT × Bytes)) :=
  match found with
  | (_, ⟨.timerChat, _, _⟩, _, result) =>
      (result.chatNames.elements.mapM chatAt).toOption.map fun chats => (result.rows, chats)
  | _ => none

private theorem clearedRun_seen : (lastEnding annAlone clearedRun ()).bind listSeen =
    some ([], [(1, ascii "ann notes")]) := by
  decide +kernel

private theorem listSeen_eq_some {found : MainWindow × Event × Trace × MainWindow}
    {rows chats : List (SizeT × Bytes)} (seen : listSeen found = some (rows, chats)) :
    found.2.1.action = .timerChat ∧ found.2.2.2.rows = rows ∧
      found.2.2.2.chatNames.elements.mapM chatAt = .ok chats := by
  obtain ⟨main, ⟨action, fresh, trello⟩, trace, result⟩ := found
  cases action with
  | timerChat =>
      obtain ⟨read, same, both⟩ := Option.map_eq_some_iff.mp seen
      cases both
      exact ⟨rfl, rfl, eq_ok_of_toOption same⟩
  | _ => contradiction

private theorem clearedRun_ends :
    ∃ (state : System Unit) (main result : MainWindow) (event : Event) (program : Act Window)
      (trace : Trace) (store : Store),
      Reaches (messenger Reference.postgres) unrestricted (loggedOut annAlone) state ∧
      event.action = .timerChat ∧
      Advances (messenger Reference.postgres) state (.exchange () (draws true 0)) ()
        (.main main) event program trace store ∧
      program.outcome = some (some (.main result)) ∧ result.rows = [] ∧
      result.chatNames.elements.mapM chatAt = .ok [(1, ascii "ann notes")] := by
  obtain ⟨⟨main, event, trace, result⟩, found, seen⟩ :=
    Option.bind_eq_some_iff.mp clearedRun_seen
  obtain ⟨action, rows, chats⟩ := listSeen_eq_some seen
  obtain ⟨state, program, store, reached, advances, ended⟩ := lastEnding_eq_some found
  exact ⟨state, main, result, event, program, trace, store, reached, action, advances, ended,
    rows, chats⟩

theorem tick_showsChats_ann :
    ∃ (main result : MainWindow) (exchange : Exchange Store ClientRequest Reply),
      exchange.request = .getChatList main.user.userId ∧ result.rows = [] ∧
      (result.ShowsChats ↔ (main.listWidget2 = [] →
        (linkedChats main.user exchange.before).length = main.numOfChats →
          main.numOfChats = 0)) := by
  obtain ⟨state, main, result, event, program, trace, store, reached, action, advances, ended,
    rows, -⟩ := clearedRun_ends
  obtain ⟨exchange, -, asked, shows⟩ :=
    tick_showsChats_iff (loggedOut_starts annAlone) reached action advances ended
  exact ⟨main, result, exchange, asked, rows, shows⟩

/-- The tick fetches Ann's chat and shows none. -/
theorem tick_shows_nothing :
    ∃ (state : System Unit) (main result : MainWindow) (event : Event) (program : Act Window)
      (trace : Trace) (store : Store),
      Reaches (messenger Reference.postgres) unrestricted (loggedOut annAlone) state ∧
      event.action = .timerChat ∧
      Advances (messenger Reference.postgres) state (.exchange () (draws true 0)) ()
        (.main main) event program trace store ∧
      program.outcome = some (some (.main result)) ∧ result.rows = [] ∧
      result.chatNames.elements.mapM chatAt = .ok [(1, ascii "ann notes")] ∧
      ¬ result.ShowsChats := by
  obtain ⟨state, main, result, event, program, trace, store, reached, action, advances, ended,
    rows, fetched⟩ := clearedRun_ends
  refine ⟨state, main, result, event, program, trace, store, reached, action, advances, ended,
    rows, fetched, fun shows => ?_⟩
  obtain ⟨chats, read, perm⟩ := shows
  rw [fetched] at read
  cases read
  rw [rows] at perm
  exact absurd perm.length_eq (by simp)

end BpkMessenger.Client
