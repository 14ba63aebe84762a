import BpkMessenger.Client.Views

namespace BpkMessenger.Client

open Text Server Interaction

/-! The rows of the message view against the history that a tick of its timer
receives. -/

variable {pg : Postgres} {ι : Type}

/-- The name of a user; the sender of a message always has one. -/
def nameOf (users : List UserRow) (userId : Nat) : Bytes :=
  ((users.find? fun user => user.userId = userId).map UserRow.userName).getD []

/-- Own messages as text, others as `name: text`. -/
def messageView (user : User) (users : List UserRow) (senderId : SizeT) (text : Bytes) :
    MessageView :=
  if senderId = user.userId then .outgoing text
  else .incoming (nameOf users senderId.toNat ++ ascii ": " ++ text)

/-- How `update_messages` shows an element of its reply, by the names that are stored. -/
def viewAt (user : User) (users : List UserRow) (mess : Json Key) :
    Except JsonException MessageView := do
  let senderId ← sizeAt .senderId mess
  let text ← stringAt .messageText mess
  return messageView user users senderId text

/-- The rows are, up to order, those of this history. -/
def MainWindow.ShowsHistory (window : MainWindow) (users : List UserRow)
    (history : Document) : Prop :=
  ∃ views, history.value.elements.mapM (viewAt window.user users) = .ok views ∧
    window.listWidget.Perm views

def rowView (user : User) (users : List UserRow) (row : MessageRow) : MessageView :=
  messageView user users (UInt64.ofNat row.senderId) row.messageText

def chatMessages (chatId : SizeT) (store : Store) : List MessageRow :=
  store.messages.filter fun row => row.chatId = chatId.toNat

/-- How the stored messages of a chat are to be shown. -/
def rendering (user : User) (chatId : SizeT) (store : Store) : List MessageView :=
  (chatMessages chatId store).map (rowView user store.users)

/-! Names and senders are stored for good. -/

theorem nameOf_stored {store : Store} {user : UserRow} (member : user ∈ store.users) :
    nameOf store.users user.userId = user.userName := by
  rw [nameOf, find?_of_nodup_map store.consistent.userIds member]
  rfl

theorem toNat_senderId {store : Store} {row : MessageRow} (stored : row ∈ store.messages) :
    (UInt64.ofNat row.senderId).toNat = row.senderId := by
  obtain ⟨sender, member, same⟩ := store.consistent.messageSender row stored
  have bound := (store.consistent.userRange sender member).2
  rw [UInt64.toNat_ofNat']
  omega

theorem senderId_eq_iff {store : Store} {row : MessageRow} (stored : row ∈ store.messages)
    (user : User) : UInt64.ofNat row.senderId = user.userId ↔
      row.senderId = user.userId.toNat := by
  rw [← UInt64.toNat_inj, toNat_senderId stored]

theorem rowView_precedes {store after : Store} {row : MessageRow}
    (precedes : store.Precedes after) (stored : row ∈ store.messages) (user : User) :
    rowView user store.users row = rowView user after.users row := by
  obtain ⟨sender, member, same⟩ := store.consistent.messageSender row stored
  have names : nameOf store.users row.senderId = nameOf after.users row.senderId := by
    rw [← same, nameOf_stored member, nameOf_stored (precedes.users.subset member)]
  simp only [rowView, messageView, toNat_senderId stored, names]

theorem rendering_precedes {store after : Store} (precedes : store.Precedes after)
    (user : User) (chatId : SizeT) :
    rendering user chatId store <+: rendering user chatId after := by
  have same : rendering user chatId store =
      (chatMessages chatId store).map (rowView user after.users) := by
    apply List.map_congr_left
    intro row member
    exact rowView_precedes precedes (List.mem_filter.mp member).1 user
  rw [same]
  exact (precedes.messages.filter _).map _

theorem Shows.rowView {user : User} {trace : Trace} {listed store : Store} {row : MessageRow}
    {view : MessageView} (shows : Shows user trace row view) (stored : row ∈ listed.messages)
    (precedes : listed.Precedes store)
    (before : ∀ exchange ∈ trace, exchange.before.Precedes store) :
    view = rowView user listed.users row := by
  rw [rowView_precedes precedes stored]
  cases shows with
  | own same =>
      rw [Client.rowView, messageView, if_pos ((senderId_eq_iff stored user).mpr same)]
  | @other exchange sender different member known same =>
      have name := nameOf_stored ((before exchange member).users.subset known)
      rw [Client.rowView, messageView,
        if_neg fun equal => different ((senderId_eq_iff stored user).mp equal),
        toNat_senderId stored, ← same, name]

theorem Shows.views {user : User} {trace : Trace} {listed store : Store}
    {rows : List MessageRow} {listWidget : List MessageView}
    (shown : List.Forall₂ (Shows user trace) rows listWidget)
    (stored : rows ⊆ listed.messages) (precedes : listed.Precedes store)
    (before : ∀ exchange ∈ trace, exchange.before.Precedes store) :
    listWidget = rows.map (Client.rowView user listed.users) := by
  induction shown with
  | nil => rfl
  | cons shows rest induction =>
      have first := shows.rowView (stored List.mem_cons_self) precedes before
      have others := induction fun row member => stored (List.mem_cons_of_mem _ member)
      rw [List.map_cons, ← first, ← others]

/-- How many rows of a text of one's own the chat calls for. -/
theorem count_outgoing (user : User) (chatId : SizeT) (store : Store) (text : Bytes) :
    (rendering user chatId store).count (.outgoing text) =
      store.messages.count ⟨chatId.toNat, user.userId.toNat, text⟩ := by
  rw [rendering, chatMessages, List.count_eq_countP, List.countP_map, List.countP_filter,
    List.count_eq_countP]
  apply List.countP_congr
  intro row stored
  have own := senderId_eq_iff stored user
  obtain ⟨rowChat, senderId, messageText⟩ := row
  simp only [Function.comp_apply, rowView, messageView, Bool.and_eq_true, beq_iff_eq,
    decide_eq_true_eq, MessageRow.mk.injEq]
  by_cases same : UInt64.ofNat senderId = user.userId
  · rw [if_pos same, MessageView.outgoing.injEq]
    have sender := own.mp same
    constructor
    · intro shown
      exact ⟨shown.2, sender, shown.1⟩
    · intro equal
      exact ⟨equal.2.2, equal.1⟩
  · rw [if_neg same]
    constructor
    · intro shown
      exact absurd shown.1 (by simp)
    · intro equal
      exact absurd (own.mpr equal.2.1) same

/-! What the view remembers of the server. -/

/-- A history reply: the window is left as it is, when the reply has as many messages
as it counts, or is drawn anew. -/
structure Replied (chatId : SizeT) (window result : MainWindow)
    (exchange : Exchange Store ClientRequest Reply) (history : Document) : Prop where
  asked : exchange.request = .getChatHistory chatId
  replied : exchange.reply = .document history
  reads : ∃ views, history.value.elements.mapM (viewAt window.user exchange.before.users) =
    .ok views ∧ views.Perm (rendering window.user chatId exchange.before)
  drawn : window.currentChatMessagesSize = (chatMessages chatId exchange.before).length ∧
      result = window ∨
    window.currentChatMessagesSize ≠ (chatMessages chatId exchange.before).length ∧
      ∃ listWidget, listWidget.Perm (rendering window.user chatId exchange.before) ∧
        result = { window with
          listWidget := listWidget
          currentChatMessagesSize := (chatMessages chatId exchange.before).length }

theorem mapM_messageDocuments (user : User) (users : List UserRow) (rows : List MessageRow) :
    (rows.map fun row => messageDocument row.chatId row.senderId row.messageText).mapM
      (viewAt user users) = .ok (rows.map (rowView user users)) := by
  induction rows with
  | nil => rfl
  | cons row rest induction =>
      rw [List.map_cons, List.mapM_cons, induction]
      rfl

theorem Drawn.replied {chatId : SizeT} {window result : MainWindow} {trace : Trace}
    {store : Store} (drawn : Drawn chatId window result trace)
    (before : ∀ exchange ∈ trace, exchange.before.Precedes store) :
    ∃ exchange ∈ trace, ∃ history, Replied chatId window result exchange history := by
  obtain ⟨exchange, member, asked, history, rows, replied, matching, value, drawn⟩ := drawn
  have length : rows.length = (chatMessages chatId exchange.before).length :=
    matching.length_eq
  have rendered := matching.map (rowView window.user exchange.before.users)
  refine ⟨exchange, member, history, asked, replied, ⟨_, ?_, rendered⟩, ?_⟩
  · rw [value, elements_listDocument, mapM_messageDocuments]
  · rw [← length]
    rcases drawn with kept | ⟨differs, listWidget, shown, same⟩
    · exact .inl kept
    · refine .inr ⟨differs, listWidget, ?_, same⟩
      have stored : rows ⊆ exchange.before.messages := by
        intro row listed
        exact (List.mem_filter.mp (matching.subset listed)).1
      rw [Shows.views shown stored (before exchange member) before]
      exact rendered

/-- The rows are counted, and the messages of others are stored, each as often as it is
shown. -/
structure Conversation (chatId : SizeT) (main : MainWindow) (store : Store) : Prop where
  size : main.currentChatMessagesSize = main.listWidget.length
  incoming : ∀ text, main.listWidget.count (.incoming text) ≤
    (rendering main.user chatId store).count (.incoming text)

theorem Conversation.stable {chatId : SizeT} {main : MainWindow} {store after : Store}
    (precedes : store.Precedes after) (conversation : Conversation chatId main store) :
    Conversation chatId main after := by
  refine ⟨conversation.size, fun text => ?_⟩
  have longer := (rendering_precedes precedes main.user chatId).sublist
  exact (conversation.incoming text).trans (longer.count_le _)

theorem Conversation.empty {chatId : SizeT} {main : MainWindow} (store : Store)
    (none : main.listWidget = []) (zero : main.currentChatMessagesSize = 0) :
    Conversation chatId main store := by
  refine ⟨?_, fun text => ?_⟩
  · rw [none, zero, List.length_nil]
  · rw [none, List.count_nil]
    exact Nat.zero_le _

theorem Conversation.drawn {chatId : SizeT} {window result : MainWindow} {trace : Trace}
    {store : Store} (conversation : Conversation chatId window store)
    (drawn : Drawn chatId window result trace)
    (before : ∀ exchange ∈ trace, exchange.before.Precedes store) :
    Conversation chatId result store := by
  obtain ⟨exchange, member, history, -, -, -, ⟨-, rfl⟩ | ⟨-, listWidget, perm, rfl⟩⟩ :=
    drawn.replied before
  · exact conversation
  · refine (Conversation.stable (before exchange member) ⟨?_, fun text => ?_⟩)
    · exact ((perm.length_eq).trans (List.length_map _)).symm
    · exact (perm.count_eq _).le

theorem conversation_maintained :
    Maintained fun main store => Conversation main.currentChatId main store where
  stable := Conversation.stable
  built := by
    intro fresh user main trace store ordered past built
    obtain ⟨fetched, rebuilt, redrawn, gathered, rebuilds, drawn, rfl⟩ := built
    obtain ⟨chats, chatNames, rfl, -⟩ := gathered
    obtain ⟨listWidget2, iconToChatId, iconToName, rfl⟩ := updateChatsUi_withList rebuilds
    have kept := Conversation.drawn (Conversation.empty store rfl rfl) drawn
      (Chained.before_precedes ordered past)
    exact ⟨kept.size, kept.incoming⟩
  left := by
    intro main event result trace store conversation ordered past leaves
    have before := Chained.before_precedes ordered past
    cases leaves with
    | sent action =>
        refine ⟨?_, fun text => ?_⟩
        · change main.currentChatMessagesSize + 1 = _
          rw [conversation.size, List.length_append, List.length_singleton]
        · have same := conversation.incoming text
          rw [List.count_append]
          simpa using same
    | @clicked row redrawn _ action inside drawn =>
        have kept := Conversation.drawn (Conversation.empty store rfl rfl) drawn before
        exact ⟨kept.size, kept.incoming⟩
    | polled action drawn =>
        have kept := conversation.drawn drawn before
        obtain ⟨listWidget, size, rfl⟩ := drawn.redrawn
        exact kept
    | rebuilt action gathered differs rebuilds =>
        obtain ⟨chats, chatNames, rfl, -⟩ := gathered
        obtain ⟨listWidget2, iconToChatId, iconToName, rfl⟩ := updateChatsUi_withList rebuilds
        exact ⟨conversation.size, conversation.incoming⟩
    | fetched action gathered counted =>
        obtain ⟨chats, chatNames, rfl, -⟩ := gathered
        exact ⟨conversation.size, conversation.incoming⟩
    | added action gathered =>
        obtain ⟨chats, chatNames, rfl, -⟩ := gathered
        exact ⟨conversation.size, conversation.incoming⟩
    | _ => exact ⟨conversation.size, conversation.incoming⟩

/-- Rows that are stored, each as often as it is shown, are all when they are as many. -/
theorem perm_of_counts {shown stored : List MessageView}
    (length : shown.length = stored.length)
    (outgoing : ∀ text, shown.count (.outgoing text) ≤ stored.count (.outgoing text))
    (incoming : ∀ text, shown.count (.incoming text) ≤ stored.count (.incoming text)) :
    shown.Perm stored := by
  have subperm : shown.Subperm stored := by
    apply List.subperm_ext_iff.mpr
    intro view member
    cases view with
    | outgoing text => exact outgoing text
    | incoming text => exact incoming text
  exact subperm.perm_of_length_le length.ge

/-- After a tick the rows are the rendering of the history just received, unless it has
as many messages as are shown and an own message is shown more often than it is stored. -/
theorem tick_showsHistory_iff [DecidableEq ι] {start state : System ι}
    (starts : start.Starts) (reached : Reaches (messenger pg) unrestricted start state)
    {move : Move ι Event (List pg.Chance)} {client : ι} {main result : MainWindow}
    {event : Event} (action : event.action = .timerMessage) {program : Act Window}
    {trace : Trace} {store : Store}
    (advances : Advances (messenger pg) state move client (.main main) event program trace
      store)
    (ended : program.outcome = some (some (.main result))) :
    ∃ exchange ∈ trace, exchange.request = .getChatHistory main.currentChatId ∧
      ∃ history : Document, exchange.reply = .document history ∧
        (result.ShowsHistory exchange.before.users history ↔
          ((chatMessages main.currentChatId exchange.before).length =
              main.currentChatMessagesSize →
            ∀ text, main.listWidget.count (.outgoing text) ≤
              exchange.before.messages.count
                ⟨main.currentChatId.toNat, main.user.userId.toNat, text⟩)) := by
  obtain ⟨leaves, ordered, past, -, held⟩ :=
    conversation_maintained.ended starts reached advances ended
  have before := Chained.before_precedes ordered past
  cases leaves with
  | polled tick drawn =>
      obtain ⟨exchange, member, history, asked, replied, reads, drawn⟩ := drawn.replied before
      obtain ⟨views, read, rendered⟩ := reads
      have conversation := held exchange member
      refine ⟨exchange, member, asked, history, replied, ?_⟩
      have shows : result.user = main.user →
          (result.ShowsHistory exchange.before.users history ↔
            result.listWidget.Perm
              (rendering main.user main.currentChatId exchange.before)) := by
        intro same
        rw [MainWindow.ShowsHistory, same, read]
        constructor
        · intro shown
          obtain ⟨others, equal, perm⟩ := shown
          cases equal
          exact perm.trans rendered
        · intro perm
          exact ⟨views, rfl, perm.trans rendered.symm⟩
      rcases drawn with ⟨counted, rfl⟩ | ⟨differs, listWidget, perm, rfl⟩
      · rw [shows rfl]
        constructor
        · intro perm _ text
          rw [← count_outgoing, perm.count_eq]
        · intro stored
          refine perm_of_counts ?_ (fun text => ?_) conversation.incoming
          · rw [← conversation.size, counted, rendering, List.length_map]
          · rw [count_outgoing]
            exact stored counted.symm text
      · rw [shows rfl]
        exact ⟨fun _ same => absurd same.symm differs, fun _ => perm⟩
  | unchanged quiet =>
      rw [action] at quiet
      contradiction
  | sent other | clicked other | rebuilt other | fetched other | added other | viewed other =>
      rw [action] at other
      contradiction

/-! Ann's view after her message was refused and Bob's was stored. -/

/-- Ann and Bob log in, Ann sends `hi` and gets `FAIL`, Bob sends `yo`, and Ann's history
is asked for. -/
def refusedRun : List (Move Bool Event (List Reference.Draw)) :=
  handlerRun true (.authButton (ascii "ann")) 0 4 ++
    handlerRun false (.authButton (ascii "bob")) 0 4 ++
    [.start true (event (.sendButton (ascii "hi"))), .exchange true (draws false 0)] ++
    handlerRun false (.sendButton (ascii "yo")) 0 1 ++ [.start true (event .timerMessage)]

/-- The rows after a tick, and the rendering of the histories that it received. -/
private def historySeen (found : MainWindow × Event × Trace × MainWindow) :
    Option (List MessageView × List (Option (List MessageView))) :=
  match found with
  | (_, ⟨.timerMessage, _, _⟩, trace, result) =>
      some (result.listWidget, trace.map fun exchange =>
        match exchange.reply with
        | .document history => (history.value.elements.mapM
            (viewAt result.user exchange.before.users)).toOption
        | _ => none)
  | _ => none

private theorem refusedRun_seen : (lastEnding annAndBob refusedRun true).bind historySeen =
    some ([.outgoing (ascii "hi")], [some [.incoming (ascii "bob: yo")]]) := by
  decide +kernel

private theorem historySeen_eq_some {found : MainWindow × Event × Trace × MainWindow}
    {rows views : List MessageView} (seen : historySeen found = some (rows, [some views])) :
    found.2.1.action = .timerMessage ∧ found.2.2.2.listWidget = rows ∧
      ∃ exchange history, found.2.2.1 = [exchange] ∧ exchange.reply = .document history ∧
        history.value.elements.mapM (viewAt found.2.2.2.user exchange.before.users) =
          .ok views := by
  obtain ⟨main, ⟨action, fresh, trello⟩, trace, result⟩ := found
  cases action with
  | timerMessage =>
      simp only [historySeen, Option.some.injEq, Prod.mk.injEq, List.map_eq_singleton_iff] at seen
      obtain ⟨shown, exchange, rfl, read⟩ := seen
      split at read
      · next history replied =>
          exact ⟨rfl, shown, exchange, history, rfl, replied, eq_ok_of_toOption read⟩
      · contradiction
  | _ => contradiction

private theorem refusedRun_ends :
    ∃ (state : System Bool) (main result : MainWindow) (event : Event) (program : Act Window)
      (exchange : Exchange Store ClientRequest Reply) (history : Document) (store : Store),
      Reaches (messenger Reference.postgres) unrestricted (loggedOut annAndBob) state ∧
      event.action = .timerMessage ∧
      Advances (messenger Reference.postgres) state (.exchange true (draws true 0)) true
        (.main main) event program [exchange] store ∧
      program.outcome = some (some (.main result)) ∧ exchange.reply = .document history ∧
      result.listWidget = [.outgoing (ascii "hi")] ∧
      history.value.elements.mapM (viewAt result.user exchange.before.users) =
        .ok [.incoming (ascii "bob: yo")] := by
  obtain ⟨⟨main, event, trace, result⟩, found, seen⟩ :=
    Option.bind_eq_some_iff.mp refusedRun_seen
  obtain ⟨action, rows, exchange, history, rfl, replied, views⟩ := historySeen_eq_some seen
  obtain ⟨state, program, store, reached, advances, ended⟩ := lastEnding_eq_some found
  exact ⟨state, main, result, event, program, exchange, history, store, reached, action,
    advances, ended, replied, rows, views⟩

theorem tick_showsHistory_ann :
    ∃ (main result : MainWindow) (exchange : Exchange Store ClientRequest Reply)
      (history : Document), result.listWidget = [.outgoing (ascii "hi")] ∧
      exchange.request = .getChatHistory main.currentChatId ∧
      exchange.reply = .document history ∧
      (result.ShowsHistory exchange.before.users history ↔
        ((chatMessages main.currentChatId exchange.before).length =
            main.currentChatMessagesSize →
          ∀ text, main.listWidget.count (.outgoing text) ≤
            exchange.before.messages.count
              ⟨main.currentChatId.toNat, main.user.userId.toNat, text⟩)) := by
  obtain ⟨state, main, result, event, program, exchange, history, store, reached, action,
    advances, ended, -, rows, -⟩ := refusedRun_ends
  obtain ⟨other, -, asked, received, replied, shows⟩ :=
    tick_showsHistory_iff (loggedOut_starts annAndBob) reached action advances ended
  exact ⟨main, result, other, received, rows, asked, replied, shows⟩

/-- The tick receives Bob's message and shows Ann's, which is not stored. -/
theorem tick_shows_phantom :
    ∃ (state : System Bool) (main result : MainWindow) (event : Event) (program : Act Window)
      (exchange : Exchange Store ClientRequest Reply) (history : Document) (store : Store),
      Reaches (messenger Reference.postgres) unrestricted (loggedOut annAndBob) state ∧
      event.action = .timerMessage ∧
      Advances (messenger Reference.postgres) state (.exchange true (draws true 0)) true
        (.main main) event program [exchange] store ∧
      program.outcome = some (some (.main result)) ∧ exchange.reply = .document history ∧
      result.listWidget = [.outgoing (ascii "hi")] ∧
      history.value.elements.mapM (viewAt result.user exchange.before.users) =
        .ok [.incoming (ascii "bob: yo")] ∧
      ¬ result.ShowsHistory exchange.before.users history := by
  obtain ⟨state, main, result, event, program, exchange, history, store, reached, action,
    advances, ended, replied, rows, views⟩ := refusedRun_ends
  refine ⟨state, main, result, event, program, exchange, history, store, reached, action,
    advances, ended, replied, rows, views, fun shows => ?_⟩
  obtain ⟨others, read, perm⟩ := shows
  rw [views] at read
  cases read
  rw [rows] at perm
  exact absurd (List.singleton_perm_singleton.mp perm) (by decide)

end BpkMessenger.Client
