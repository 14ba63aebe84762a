import BpkMessenger.Client.Membership
import BpkMessenger.Server.Names
import BpkMessenger.Interaction.Lasting

namespace BpkMessenger.Client

open Text Server Interaction

/-! When the handlers can read what they are answered. -/

variable {pg : Postgres} {ι : Type}

/-- The answers of Trello have the fields the client takes from them. -/
structure Trello.WellFormed (trello : Trello) : Prop where
  member : ∀ token, ∃ member id, trello.get (trello.memberUrl token) = .ok member ∧
    trelloText .id member = .ok id
  boards : ∀ memberId token, ∃ boards rows,
    trello.get (trello.boardsUrl memberId token) = .ok boards ∧
      boards.elements.mapM boardRow = .ok rows
  board : ∀ boardId token, ∃ board url, trello.get (trello.boardUrl boardId token) = .ok board ∧
    trelloText .url board = .ok url

/-- The requests whose reply is parsed. -/
def ClientRequest.parsed : ClientRequest → Bool
  | .findUser _ | .getChatId _ | .getChatName _ | .getChatHistory _ | .getChatList _
  | .getChatMembers _ | .getUserName _ | .getTrelloToken _ => true
  | _ => false

/-- Nothing that is to be parsed is answered FAIL, a token is there when it is asked
for, and no user is stored under another name than asked. -/
def readable : Requirement ι := fun _ _ event _ exchange =>
  event.trello.WellFormed ∧ (exchange.request.parsed = true → exchange.reply ≠ .fail) ∧
    match exchange.request with
    | .getTrelloToken userId =>
        ∃ row ∈ exchange.before.userIdTrelloToken, row.userId = userId.toNat
    | .addUser userName => exchange.reply = .success →
        ∀ stored, varchar 50 userName = some stored → stored = userName
    | _ => True

/-- The traces in which every reply can be read. -/
abbrev Legible (client : ι) (window : Window) (event : Event) : Trace → Prop :=
  Admitted Answered Store.Grows readable client window event

/-- A list of chats that can take another one. -/
def Appendable (chatNames : Json Key) : Prop :=
  chatNames = .null ∨ ∃ elements, chatNames = .array elements

def Window.Appendable : Window → Prop
  | .main window => Client.Appendable window.chatNames
  | _ => True

theorem Appendable.clear {chatNames : Json Key} (appendable : Appendable chatNames) :
    Appendable chatNames.clear ∧ chatNames.clear.elements = [] := by
  rcases appendable with rfl | ⟨elements, rfl⟩
  · exact ⟨.inl rfl, rfl⟩
  · exact ⟨.inr ⟨[], rfl⟩, rfl⟩

theorem Appendable.pushBack {chatNames : Json Key} (appendable : Appendable chatNames)
    (value : Json Key) :
    ∃ result, chatNames.pushBack value = .ok result ∧ Appendable result := by
  rcases appendable with rfl | ⟨elements, rfl⟩
  · exact ⟨_, rfl, .inr ⟨_, rfl⟩⟩
  · exact ⟨_, rfl, .inr ⟨_, rfl⟩⟩

theorem Answers.document {store after : Store} {request : ClientRequest} {reply : Reply}
    (answers : Answers store request reply after) (parsed : request.parsed = true)
    (given : reply ≠ .fail) (found : reply ≠ .userNotFound) :
    ∃ written, reply = .document written := by
  cases reply with
  | document written => exact ⟨written, rfl⟩
  | fail => contradiction
  | userNotFound => contradiction
  | success =>
      obtain ⟨call, encodes, served⟩ := answers
      cases encodes <;> contradiction

theorem answers_getChatMembers {store after : Store} {chatId : SizeT} {written : Document}
    (answers : Answers store (.getChatMembers chatId) (.document written) after) :
    ∃ rows : List LinkRow, written.value = listDocument (rows.map fun row =>
      .object [(.userId, .number row.userId)]) := by
  obtain ⟨call, encodes, served⟩ := answers
  cases encodes
  cases served with
  | @members _ rows _ matching value => exact ⟨rows, value⟩

theorem answers_getTrelloToken {store after : Store} {userId : SizeT} {written : Document}
    (answers : Answers store (.getTrelloToken userId) (.document written) after)
    (stored : ∃ row ∈ store.userIdTrelloToken, row.userId = userId.toNat) :
    ∃ token, written.value = .object [(.trelloToken, .string token)] := by
  obtain ⟨call, encodes, served⟩ := answers
  cases encodes
  cases served with
  | noToken missing value =>
      obtain ⟨row, member, same⟩ := stored
      exact absurd same (missing row member)
  | @token row _ _ member same value => exact ⟨row.trelloToken, value⟩

def ClientRequest.asksUser : ClientRequest → Bool
  | .findUser _ | .getUserName _ => true
  | _ => false

theorem Answers.known {store after : Store} {request : ClientRequest} {reply : Reply}
    (answers : Answers store request reply after) (other : request.asksUser = false) :
    reply ≠ .userNotFound := by
  rintro rfl
  obtain ⟨call, encodes, served⟩ := answers
  cases encodes <;> contradiction

/-- What is to be parsed and is not a refusal is a document. -/
theorem Legible.document {client : ι} {window : Window} {event : Event} {trace : Trace}
    {exchange : Exchange Store ClientRequest Reply} {request : ClientRequest}
    (legible : Legible client window event (trace ++ [exchange]))
    (same : exchange.request = request) (parsed : request.parsed = true)
    (found : exchange.reply ≠ .userNotFound) :
    ∃ written : Document, exchange.reply = .document written ∧
      Answers exchange.before request (.document written) exchange.after := by
  obtain ⟨answered, -, given, -⟩ := legible.last
  rw [Answered, same] at answered
  rw [same] at given
  obtain ⟨written, replied⟩ := answered.document parsed (given parsed) found
  rw [replied] at answered
  exact ⟨written, replied, answered⟩

theorem Legible.other {client : ι} {window : Window} {event : Event} {trace : Trace}
    {exchange : Exchange Store ClientRequest Reply} {request : ClientRequest}
    (legible : Legible client window event (trace ++ [exchange]))
    (same : exchange.request = request) (parsed : request.parsed = true)
    (other : request.asksUser = false) :
    ∃ written : Document, exchange.reply = .document written ∧
      Answers exchange.before request (.document written) exchange.after := by
  apply legible.document same parsed
  intro missing
  have answered := legible.last.1
  rw [Answered, same, missing] at answered
  exact answered.known other rfl

section Programs

variable {client : ι} {window : Window} {event : Event} {trace : Trace} {β : Type}
  {last : β → Trace → Prop}

/-- A handler that cannot come to an exception. -/
abbrev Reads (client : ι) (window : Window) (event : Event) (post : β → Trace → Prop)
    (program : Act β) (trace : Trace) : Prop :=
  Ends (Legible client window event) (fun _ => False) post program trace

theorem Ends.bind_warn {valid stops : Trace → Prop} {reply : Reply} {next : Unit → Act β}
    (continues : Ends valid stops last (next ()) trace) :
    Ends valid stops last (warn reply >>= next) trace := by
  cases reply with
  | fail => exact Ends.bind_report continues
  | _ => exact continues

theorem Reads.bind_lift {result : Except ε α} {next : α → Act β}
    (succeeds : ∃ value, result = .ok value ∧
      Reads client window event last (next value) trace) :
    Reads client window event last (Program.lift result >>= next) trace := by
  obtain ⟨value, rfl, continues⟩ := succeeds
  exact continues

theorem Reads.lift {result : Except ε β}
    (succeeds : ∃ value, result = .ok value ∧ last value trace) :
    Reads client window event last (Program.lift result : Act β) trace := by
  obtain ⟨value, rfl, holds⟩ := succeeds
  exact Ends.done holds

private theorem fetchChatName_reads {chatNames : Json Key} {chats : List ChatRow}
    {chatId : Nat} (appendable : Appendable chatNames)
    (elements : chatNames.elements = chatDocuments chats)
    (listed : ∃ exchange ∈ trace, exchange.after.HasChat chatId) :
    Reads client window event
      (fun result _ => Appendable result ∧ ∃ chats, result.elements = chatDocuments chats)
      (fetchChatName chatNames (.object [(.chatId, .number chatId)])) trace := by
  unfold fetchChatName
  apply Reads.bind_lift
  refine ⟨decimal chatId, rfl, ?_⟩
  apply Ends.bind_send
  intro exchange same legible
  apply Ends.bind_warn
  apply Reads.bind_lift
  obtain ⟨earlier, member, stored⟩ := listed
  have here := (Chained.past legible.chained member).hasChat stored
  obtain ⟨written, replied, answers⟩ := legible.other same rfl rfl
  obtain ⟨chat, -, -, value⟩ := answers_getChatName answers here
  refine ⟨written.value, by rw [replied]; rfl, ?_⟩
  apply Reads.lift
  obtain ⟨result, pushed, longer⟩ := appendable.pushBack written.value
  refine ⟨result, pushed, longer, chats ++ [chat], ?_⟩
  rw [elements_pushBack pushed, elements, value, chatDocuments, chatDocuments,
    List.map_append, List.map_singleton]

/-- The window with a list of chats. -/
def Listed (window result : MainWindow) : Prop :=
  ∃ chatNames chats,
    result = { window with chatNames := chatNames, sizeOfAnswer := chatNames.size } ∧
      Appendable chatNames ∧ chatNames.elements = chatDocuments chats

theorem updateChats_reads {main : MainWindow} (appendable : Appendable main.chatNames) :
    Reads client window event (fun result _ => Listed main result) (updateChats main)
      trace := by
  unfold updateChats
  apply Ends.bind_send
  intro exchange same legible
  apply Ends.bind_warn
  apply Reads.bind_lift
  obtain ⟨written, replied, answers⟩ := legible.other same rfl rfl
  refine ⟨written.value, by rw [replied]; rfl, ?_⟩
  have answered := legible.last.1
  obtain ⟨rows, matching, listed⟩ := answers_getChatList answers
  have elements : written.value.elements = rows.map fun row =>
      .object [(.chatId, .number row.chatId)] := by
    rw [listed, elements_listDocument]
  rw [elements]
  apply Ends.bind (Ends.foldlM (fun _ chatNames _ => Appendable chatNames ∧
    ∃ chats, chatNames.elements = chatDocuments chats) legible
      ⟨appendable.clear.1, [], appendable.clear.2⟩ ?_) legible
  · intro chatNames final longer legibleFinal listed
    obtain ⟨longerList, chats, documents⟩ := listed
    exact Ends.done ⟨chatNames, chats, rfl, longerList, documents⟩
  · rintro before element rest split chatNames current longer legibleCurrent
      ⟨longerList, chats, documents⟩
    have member : element ∈ rows.map fun row : LinkRow =>
        Json.object [(Key.chatId, Json.number row.chatId)] := by
      rw [split]
      exact List.mem_append_right before List.mem_cons_self
    obtain ⟨row, rowMember, rfl⟩ := List.mem_map.mp member
    have linked := (List.mem_filter.mp (matching.subset rowMember)).1
    apply fetchChatName_reads longerList documents
    refine ⟨exchange, longer.subset (List.mem_append_right trace
      (List.mem_singleton_self exchange)), ?_⟩
    exact answered.grows.hasChat (exchange.before.consistent.linkChat row linked)

theorem updateChatsUi_reads {fresh : Allocator} {main : MainWindow} {chats : List ChatRow}
    (elements : main.chatNames.elements = chatDocuments chats) :
    ∃ result, updateChatsUi fresh main = .ok result ∧ result.chatNames = main.chatNames := by
  have general : ∀ (chats : List ChatRow) (current : MainWindow), ∃ result,
      (chatDocuments chats).foldlM (addChatItem fresh) current = .ok result ∧
        result.chatNames = current.chatNames := by
    intro chats
    induction chats with
    | nil => exact fun current => ⟨current, rfl, rfl⟩
    | cons chat chats induction =>
        intro current
        obtain ⟨next, added, same⟩ : ∃ next, addChatItem fresh current
            (chatDocument chat.chatId chat.chatName) = .ok next ∧
              next.chatNames = current.chatNames := ⟨_, rfl, rfl⟩
        obtain ⟨result, folded, kept⟩ := induction next
        refine ⟨result, ?_, kept.trans same⟩
        rw [chatDocuments, List.map_cons, List.foldlM_cons, added]
        exact folded
  rw [updateChatsUi, elements]
  exact general chats _

theorem addMessageRow_reads (user : User) (listWidget : List MessageView)
    {chatId senderId : Nat} (messageText : Bytes)
    (known : ∃ exchange ∈ trace, exchange.after.HasUser senderId) :
    Reads client window event (fun _ _ => True)
      (addMessageRow user listWidget (messageDocument chatId senderId messageText)) trace := by
  unfold addMessageRow
  apply Reads.bind_lift
  refine ⟨UInt64.ofNat senderId, rfl, ?_⟩
  by_cases own : UInt64.ofNat senderId = user.userId
  · rw [if_pos own]
    apply Reads.bind_lift
    exact ⟨messageText, rfl, Ends.done trivial⟩
  · rw [if_neg own]
    apply Ends.bind_send
    intro exchange same legible
    apply Ends.bind_warn
    obtain ⟨earlier, member, stored⟩ := known
    have here := (Chained.past legible.chained member).hasUser stored
    obtain ⟨answered, -, given, -⟩ := legible.last
    rw [Answered, same] at answered
    rw [same] at given
    obtain ⟨call, encodes, served⟩ := answered
    cases encodes
    obtain ⟨row, rowMember, sameId⟩ := here
    have bound := (exchange.before.consistent.userRange row rowMember).2
    have sender : row.userId = (UInt64.ofNat senderId).toNat := by
      rw [UInt64.toNat_ofNat']
      omega
    rcases served.userName rowMember sender with failed | ⟨written, replied, value⟩
    · exact absurd failed (given rfl)
    · apply Reads.bind_lift
      refine ⟨written.value, by rw [replied]; rfl, ?_⟩
      apply Reads.bind_lift
      refine ⟨row.userName, by rw [value]; rfl, ?_⟩
      apply Reads.bind_lift
      exact ⟨messageText, rfl, Ends.done trivial⟩

theorem updateMessages_reads (chatId : SizeT) (main : MainWindow) :
    Reads client window event (fun result _ => result.chatNames = main.chatNames)
      (updateMessages chatId main) trace := by
  unfold updateMessages
  apply Ends.bind_send
  intro exchange same legible
  apply Ends.bind_warn
  obtain ⟨written, replied, answers⟩ := legible.other same rfl rfl
  obtain ⟨rows, matching, value⟩ := answers_getChatHistory answers
  have answered := legible.last.1
  apply Reads.bind_lift
  refine ⟨written.value, by rw [replied]; rfl, ?_⟩
  by_cases differs : main.currentChatMessagesSize ≠ written.value.size
  · rw [if_pos differs]
    apply Ends.bind (Ends.foldlM (fun _ _ _ => True) legible trivial ?_) legible
    · intro listWidget final longer legibleFinal _
      exact Ends.done rfl
    · intro before element rest split listWidget current longer legibleCurrent _
      have member : element ∈ written.value.elements := by
        rw [split]
        exact List.mem_append_right before List.mem_cons_self
      rw [value, elements_listDocument] at member
      obtain ⟨row, rowMember, rfl⟩ := List.mem_map.mp member
      have stored := (List.mem_filter.mp (matching.subset rowMember)).1
      apply addMessageRow_reads
      refine ⟨exchange, longer.subset (List.mem_append_right trace
        (List.mem_singleton_self exchange)), ?_⟩
      exact answered.grows.hasUser (exchange.before.consistent.messageSender row stored)
  · rw [if_neg differs]
    exact Ends.done rfl

/-! The handlers. -/

variable {fresh : Allocator} {main : MainWindow}

theorem create_reads (user : User) (legible : Legible client window event trace) :
    Reads client window event (fun result _ => Appendable result.chatNames)
      (MainWindow.create fresh user) trace := by
  unfold MainWindow.create
  apply Ends.bind (updateChats_reads (.inl rfl)) legible
  intro fetched middle longer legibleMiddle prior
  obtain ⟨chatNames, chats, rfl, appendable, elements⟩ := prior
  obtain ⟨rebuilt, rebuilds, names⟩ := @updateChatsUi_reads fresh
    { user := user, chatNames := chatNames, sizeOfAnswer := chatNames.size } chats elements
  apply Reads.bind_lift
  refine ⟨rebuilt, rebuilds, ?_⟩
  apply Ends.bind (updateMessages_reads _ _) legibleMiddle
  intro redrawn final longerFinal legibleFinal kept
  apply Ends.done
  change Appendable redrawn.chatNames
  rw [kept, names]
  exact appendable

theorem timerChat_reads (appendable : Appendable main.chatNames)
    (legible : Legible client window event trace) :
    Reads client window event (fun result _ => Appendable result.chatNames)
      (main.timerChat fresh) trace := by
  unfold MainWindow.timerChat
  apply Ends.bind (updateChats_reads appendable) legible
  intro fetched final longer legibleFinal fetches
  obtain ⟨chatNames, chats, rfl, longerList, elements⟩ := fetches
  obtain ⟨rebuilt, rebuilds, names⟩ := @updateChatsUi_reads fresh
    { main with chatNames := chatNames, sizeOfAnswer := chatNames.size } chats elements
  by_cases differs : main.numOfChats ≠ chatNames.size
  · rw [if_pos differs]
    apply Reads.bind_lift
    refine ⟨rebuilt, rebuilds, Ends.done ?_⟩
    change Appendable rebuilt.chatNames
    rw [names]
    exact longerList
  · rw [if_neg differs]
    exact Ends.done longerList

theorem sendButton_reads (text : Bytes) (appendable : Appendable main.chatNames) :
    Reads client window event (fun result _ => Appendable result.chatNames)
      (main.sendButton text) trace := by
  unfold MainWindow.sendButton
  by_cases empty : text = []
  · rw [if_pos empty]
    exact Ends.done appendable
  · rw [if_neg empty]
    apply Ends.bind_send
    intro exchange same legible
    apply Ends.bind_warn
    exact Ends.done appendable

theorem itemClicked_reads (row : Nat) (appendable : Appendable main.chatNames)
    (legible : Legible client window event trace) :
    Reads client window event (fun result _ => Appendable result.chatNames)
      (main.itemClicked row) trace := by
  unfold MainWindow.itemClicked
  apply Ends.bind (updateMessages_reads _ _) legible
  intro redrawn final longer legibleFinal kept
  apply Ends.done
  change Appendable redrawn.chatNames
  rw [kept]
  exact appendable

/-- The token of a user who has one, and what Trello says about it. -/
theorem token_reads {exchange : Exchange Store ClientRequest Reply} {userId : SizeT}
    (same : exchange.request = .getTrelloToken userId)
    (legible : Legible client window event (trace ++ [exchange])) :
    event.trello.WellFormed ∧ ∃ (written : Document) (token : Bytes),
      exchange.reply = .document written ∧ stringAt .trelloToken written.value = .ok token := by
  obtain ⟨written, replied, answers⟩ := legible.other same rfl rfl
  obtain ⟨-, wellFormed, -, stored⟩ := legible.last
  rw [same] at stored
  obtain ⟨token, value⟩ := answers_getTrelloToken answers stored
  exact ⟨wellFormed, written, token, replied, by rw [value]; rfl⟩

theorem createViewBoards_reads (chatter : SizeT) :
    Reads client window event (fun _ _ => True)
      (MainWindow.createViewBoards event.trello chatter) trace := by
  unfold MainWindow.createViewBoards
  apply Ends.bind_send
  intro exchange same legible
  apply Ends.bind_warn
  obtain ⟨wellFormed, written, token, replied, read⟩ := token_reads same legible
  apply Reads.bind_lift
  refine ⟨written.value, by rw [replied]; rfl, ?_⟩
  apply Reads.bind_lift
  refine ⟨token, read, ?_⟩
  obtain ⟨member, memberId, got, found⟩ := wellFormed.member token
  apply Reads.bind_lift
  refine ⟨member, got, ?_⟩
  apply Reads.bind_lift
  refine ⟨memberId, found, ?_⟩
  obtain ⟨boards, rows, listed, shown⟩ := wellFormed.boards memberId token
  apply Reads.bind_lift
  refine ⟨boards, listed, ?_⟩
  apply Reads.bind_lift
  exact ⟨rows, shown, Ends.done trivial⟩

theorem otherMember_reads (userId : SizeT) (rows : List LinkRow) :
    ∃ other, MainWindow.otherMember userId (rows.map fun row =>
      .object [(.userId, .number row.userId)]) = .ok other := by
  induction rows with
  | nil => exact ⟨none, rfl⟩
  | cons row rows induction =>
      obtain ⟨other, found⟩ := induction
      by_cases own : row.userId = userId.toNat
      · refine ⟨other, ?_⟩
        rw [List.map_cons]
        change (if row.userId = userId.toNat then _ else _) = _
        rw [if_pos own]
        exact found
      · refine ⟨some (UInt64.ofNat row.userId), ?_⟩
        rw [List.map_cons]
        change (if row.userId = userId.toNat then _ else _) = _
        rw [if_neg own]
        rfl

theorem viewBoardsButton_reads (appendable : Appendable main.chatNames) :
    Reads client window event (fun result _ => Appendable result.chatNames)
      (main.viewBoardsButton event.trello) trace := by
  unfold MainWindow.viewBoardsButton
  apply Ends.bind_send
  intro exchange same legible
  apply Ends.bind_warn
  obtain ⟨written, replied, answers⟩ := legible.other same rfl rfl
  obtain ⟨rows, value⟩ := answers_getChatMembers answers
  apply Reads.bind_lift
  refine ⟨written.value, by rw [replied]; rfl, ?_⟩
  by_cases pair : written.value.size = 2
  · rw [if_pos pair]
    obtain ⟨other, found⟩ := otherMember_reads main.user.userId rows
    apply Reads.bind_lift
    refine ⟨other, by rw [value, elements_listDocument]; exact found, ?_⟩
    apply Ends.bind (createViewBoards_reads _) legible
    intro opened final longer legibleFinal _
    exact Ends.done appendable
  · rw [if_neg pair]
    apply Ends.bind_report
    exact Ends.done appendable

theorem boardClicked_reads (opened : ViewBoards) (boardId : Bytes)
    (appendable : Appendable main.chatNames) :
    Reads client window event (fun result _ => Appendable result.chatNames)
      (main.boardClicked event.trello opened boardId) trace := by
  unfold MainWindow.boardClicked
  apply Ends.bind_send
  intro exchange same legible
  apply Ends.bind_warn
  obtain ⟨wellFormed, written, token, replied, read⟩ := token_reads same legible
  apply Reads.bind_lift
  refine ⟨written.value, by rw [replied]; rfl, ?_⟩
  apply Reads.bind_lift
  refine ⟨token, read, ?_⟩
  obtain ⟨member, memberId, got, found⟩ := wellFormed.member token
  apply Reads.bind_lift
  refine ⟨member, got, ?_⟩
  apply Reads.bind_lift
  refine ⟨memberId, found, ?_⟩
  apply Ends.bind_report
  obtain ⟨board, url, gotBoard, foundUrl⟩ := wellFormed.board boardId token
  apply Reads.bind_lift
  refine ⟨board, gotBoard, ?_⟩
  apply Reads.bind_lift
  refine ⟨url, foundUrl, ?_⟩
  apply Ends.bind_report
  exact Ends.done appendable

/-- The id under a chat's name, also when there is no such chat. -/
theorem chatId_reads {store after : Store} {chatName : Bytes} {written : Document}
    (answers : Answers store (.getChatId chatName) (.document written) after) :
    ∃ chatId, dumpAt .chatId written.value = .ok chatId := by
  rcases answers_getChatId answers with ⟨-, value⟩ | ⟨chat, -, -, value⟩
  · exact ⟨ascii "null", by rw [value]; rfl⟩
  · exact ⟨decimal chat.chatId, by rw [value]; rfl⟩

theorem addChat_reads (chatName : Bytes) (appendable : Appendable main.chatNames) :
    Reads client window event (fun result _ => Appendable result.chatNames)
      (main.addChat chatName) trace := by
  unfold MainWindow.addChat
  apply Ends.bind_send
  intro creation creates legible
  cases creation.reply with
  | success =>
      apply Ends.bind_send
      intro lookup looks legibleLookup
      apply Ends.bind_warn
      obtain ⟨written, replied, answers⟩ := legibleLookup.other looks rfl rfl
      obtain ⟨chatId, dumped⟩ := chatId_reads answers
      apply Reads.bind_lift
      refine ⟨written.value, by rw [replied]; rfl, ?_⟩
      apply Reads.bind_lift
      refine ⟨chatId, dumped, ?_⟩
      apply Ends.bind_send
      intro link links legibleLink
      apply Ends.bind_warn
      apply Ends.mono (@updateChats_reads _ _ _ _ _ { main with listWidget2 := [] }
        appendable) (fun _ stopped => stopped)
      intro result final redrawn
      obtain ⟨chatNames, chats, rfl, longerList, -⟩ := redrawn
      exact longerList
  | _ =>
      apply Ends.bind_report
      exact Ends.done appendable

theorem addMember_reads (userName : Bytes) (appendable : Appendable main.chatNames) :
    Reads client window event (fun result _ => Appendable result.chatNames)
      (main.addMember userName) trace := by
  unfold MainWindow.addMember
  apply Ends.bind_send
  intro found finds legible
  by_cases missing : found.reply = .userNotFound
  · rw [missing]
    apply Ends.bind_report
    exact Ends.done appendable
  · obtain ⟨written, replied, answers⟩ := legible.document finds rfl missing
    obtain ⟨user, -, -, value⟩ := answers_findUser answers
    rw [replied]
    apply Reads.bind_lift
    refine ⟨written.value, rfl, ?_⟩
    apply Reads.bind_lift
    refine ⟨decimal user.userId, by rw [value]; rfl, ?_⟩
    apply Ends.bind_send
    intro link links legibleLink
    apply Ends.bind_warn
    exact Ends.done appendable

/-- Who was stored under a name is found under it. -/
theorem registered_reads {username : Bytes} {longer : Trace}
    {registration found : Exchange Store ClientRequest Reply}
    (registers : registration.request = .addUser username)
    (success : registration.reply = .success)
    (before : Legible client window event (longer ++ [registration]))
    (finds : found.request = .findUser username)
    (legible : Legible client window event (longer ++ [registration] ++ [found])) :
    ∃ (written : Document) (userId : Nat), found.reply = .document written ∧
      written.value = userDocument userId username := by
  obtain ⟨registered, -, -, whole⟩ := before.last
  rw [registers] at whole
  rw [Answered, registers, success] at registered
  obtain ⟨call, encodes, served⟩ := registered
  cases encodes
  obtain ⟨row, added, fits⟩ := served.userAdded
  have grown := Chained.past legible.chained
    (List.mem_append_right longer (List.mem_singleton_self registration))
  have stored : row ∈ found.before.users := grown.users (by simp [added])
  have short := found.before.consistent.userLength row stored
  rw [whole success row.userName fits] at short
  obtain ⟨answered, -, given, -⟩ := legible.last
  rw [Answered, finds] at answered
  rw [finds] at given
  obtain ⟨call, encodes, served⟩ := answered
  cases encodes
  obtain ⟨written, replied, value⟩ :=
    (served.userFound stored fits (given rfl)).mpr short
  exact ⟨written, row.userId, replied, value⟩

theorem authButton_reads (username : Bytes) (fresh : Allocator) :
    Reads client window event (fun result _ => result.Appendable)
      (authButton fresh username) trace := by
  unfold authButton
  apply Ends.bind_send
  intro search searches legible
  apply Ends.bind_warn
  by_cases missing : search.reply = .userNotFound
  · rw [missing]
    apply Ends.bind_sendUntil
    intro longer registration start registers accepted legibleRegistration
    have success : registration.reply = .success := isSuccess_iff.mp accepted
    apply Ends.bind_send
    intro found finds legibleFound
    obtain ⟨written, userId, replied, value⟩ :=
      registered_reads registers success legibleRegistration finds legibleFound
    apply Reads.bind_lift
    refine ⟨written.value, by rw [replied]; rfl, ?_⟩
    apply Reads.bind_lift
    refine ⟨UInt64.ofNat userId, by rw [value]; rfl, ?_⟩
    apply Ends.bind_send
    intro creation creates legibleCreation
    apply Ends.bind_warn
    apply Ends.bind_send
    intro lookup looks legibleLookup
    apply Ends.bind_warn
    obtain ⟨chatWritten, chatReplied, answers⟩ := legibleLookup.other looks rfl rfl
    obtain ⟨chatId, dumped⟩ := chatId_reads answers
    apply Reads.bind_lift
    refine ⟨chatWritten.value, by rw [chatReplied]; rfl, ?_⟩
    apply Reads.bind_lift
    refine ⟨chatId, dumped, ?_⟩
    apply Ends.bind_send
    intro link links legibleLink
    apply Ends.bind_warn
    exact Ends.done trivial
  · obtain ⟨written, replied, answers⟩ := legible.document searches rfl missing
    obtain ⟨user, -, -, value⟩ := answers_findUser answers
    rw [replied]
    apply Reads.bind_lift
    refine ⟨written.value, rfl, ?_⟩
    apply Reads.bind_lift
    refine ⟨UInt64.ofNat user.userId, by rw [value]; rfl, ?_⟩
    apply Ends.bind (create_reads _ legible) legible
    intro result final longer legibleFinal appendable
    exact Ends.done appendable

theorem tokenButton_reads (text : Bytes) (user : User) (fresh : Allocator) :
    Reads client window event (fun result _ => result.Appendable)
      (tokenButton fresh event.trello text user) trace := by
  unfold tokenButton
  by_cases empty : text = []
  · rw [if_pos empty]
    apply Ends.bind_report
    exact Ends.done trivial
  · rw [if_neg empty]
    apply Ends.bind_send
    intro exchange same legible
    obtain ⟨-, wellFormed, -⟩ := legible.last
    obtain ⟨member, memberId, got, found⟩ := wellFormed.member text
    apply Reads.bind_lift
    refine ⟨member, got, ?_⟩
    apply Reads.bind_lift
    refine ⟨memberId, found, ?_⟩
    apply Ends.bind (create_reads _ legible) legible
    intro result final longer legibleFinal appendable
    exact Ends.done appendable

theorem mainHandler_reads {program : Act MainWindow} (offers : main.Offers event program)
    (appendable : Appendable main.chatNames) (legible : Legible client window event trace) :
    Reads client window event (fun result _ => Appendable result.chatNames) program
      trace := by
  cases offers with
  | sendButton => exact sendButton_reads _ appendable
  | itemClicked => exact itemClicked_reads _ appendable legible
  | timerChat => exact timerChat_reads appendable legible
  | timerMessage =>
      apply Ends.mono (updateMessages_reads _ _) (fun _ stopped => stopped)
      intro result final kept
      rw [kept]
      exact appendable
  | addChat => exact addChat_reads _ appendable
  | addMember => exact addMember_reads _ appendable
  | viewBoardsButton => exact viewBoardsButton_reads appendable
  | boardClicked opened boardId => exact boardClicked_reads opened boardId appendable

end Programs

/-- A handler run of the messenger that has got to a reply will end as certified. -/
theorem ending_of_reaches [DecidableEq ι] {condition : Requirement ι}
    {stops : Window → Event → Trace → Prop} {post : Window → Event → Window → Trace → Prop}
    {invariant : Window → Prop}
    (certified : Certified Answered Store.Grows condition stops post invariant (messenger pg))
    (first : invariant .auth) {start state : System ι} (starts : start.Starts)
    (reached : Reaches (messenger pg) condition start state)
    {move : Move ι Event (List pg.Chance)} (meets : Meets (messenger pg) condition state move)
    {client : ι} {window : Window} {event : Event} {program : Act Window} {trace : Trace}
    {store : Store}
    (advances : Advances (messenger pg) state move client window event program trace store) :
    Ending Answered Store.Grows condition stops post store client window event program
      trace := by
  have initial : ∀ other, Endings Answered Store.Grows condition stops post invariant
      start.store other (start.clients other) := by
    intro other
    simp only [Endings, starts other]
    exact first
  have endings := reached.endings (messenger_lawful pg) certified initial
  exact advances.ending (messenger_lawful pg) certified endings meets

theorem messenger_reads :
    Certified Answered Store.Grows (readable (ι := ι)) (fun _ _ _ => False)
      (fun _ _ result _ => result.Appendable) Window.Appendable (messenger pg) where
  ends := by
    intro client window event program handled appendable
    have legible : Legible client window event [] := Admitted.nil
    cases offers_of_handler handled with
    | auth action => exact authButton_reads _ _
    | trelloAuth text => exact tokenButton_reads text _ _
    | main offers =>
        apply Ends.bind (mainHandler_reads offers appendable legible) legible
        intro result final longer legibleFinal kept
        exact Ends.done kept
  kept := fun kept => kept

/-- No handler comes to an exception, in every run in which what is asked for is there
and is not answered FAIL. -/
theorem handlers_read [DecidableEq ι] {start state : System ι} (starts : start.Starts)
    (reached : Reaches (messenger pg) readable start state)
    {move : Move ι Event (List pg.Chance)} (meets : Meets (messenger pg) readable state move)
    {client : ι} {window : Window} {event : Event} {program : Act Window} {trace : Trace}
    {store : Store}
    (advances : Advances (messenger pg) state move client window event program trace store) :
    program.outcome ≠ some none := by
  intro thrown
  have ending := ending_of_reaches messenger_reads trivial starts reached meets advances
  exact ending.ends.outcome thrown

/-! A login on empty tables. -/

/-- Trello with a member and a board for every question, and no list of boards. -/
def trello : Trello where
  apiKey := []
  get url :=
    if (api ++ ascii "members/").isPrefixOf url then .ok .null
    else .ok (.object [(.id, .string []), (.url, .string [])])

theorem trello_wellFormed : trello.WellFormed := by
  refine ⟨fun token => ⟨.object [(.id, .string []), (.url, .string [])], [], ?_, rfl⟩,
    fun memberId token => ⟨.null, [], ?_, rfl⟩,
    fun boardId token => ⟨.object [(.id, .string []), (.url, .string [])], [], ?_, rfl⟩⟩
  · simp [trello, Trello.memberUrl, api, ascii]
  · simp [trello, Trello.boardsUrl, api, ascii]
  · simp [trello, Trello.boardUrl, api, ascii]

def login (username : Bytes) : Event :=
  ⟨.authButton username, ⟨id, Function.injective_id⟩, trello⟩

/-- The button was pressed, and the name is being looked up. -/
def loggingIn (username : Bytes) : System Unit :=
  (loggedOut .empty).put .empty ()
    ⟨settle .auth (login username) (authButton (login username).fresh username), []⟩

theorem loggingIn_pressed (pg : Postgres) (username : Bytes) :
    (loggedOut Store.empty).step (messenger pg) (.start () (login username)) =
      some (loggingIn username) := rfl

theorem loggingIn_reached (pg : Postgres) (condition : Requirement Unit)
    (username : Bytes) :
    Reaches (messenger pg) condition (loggedOut .empty) (loggingIn username) := by
  refine Reached.start.step ?_ (loggingIn_pressed pg username)
  exact trivial

/-- What the lookup is answered, and the handler goes on with. -/
private theorem loggingIn_advances {username : Bytes} {chances : List pg.Chance}
    {reply : Reply} (served : (messenger pg).serve chances .empty (.findUser username) =
      (some reply, .empty)) :
    ∃ program : Act Window,
      Advances (messenger pg) (loggingIn username) (.exchange () chances) () .auth
        (login username) program [⟨.empty, .findUser username, reply, .empty⟩] .empty ∧
          (reply = .fail → program.outcome = some none) := by
  refine ⟨_, .answered rfl served, ?_⟩
  rintro rfl
  rfl

/-- Ann logs in, up to the last reply. -/
def annLogsIn : List (Move Unit Event (List Reference.Draw)) :=
  .start () (login (ascii "ann")) ::
    List.replicate 3 (.exchange () (List.replicate 4 ⟨true, 0⟩))

private theorem document_of_parsed {reply : Reply}
    (parsed : (parse reply).toOption.isSome = true) : ∃ written, reply = .document written := by
  cases reply with
  | document written => exact ⟨written, rfl⟩
  | _ => contradiction

private def documentsTest : Test Unit Store Window Event ClientRequest Reply :=
  fun _ _ _ _ exchange =>
    match exchange.request with
    | .getTrelloToken _ | .addUser _ => false
    | _ => (parse exchange.reply).toOption.isSome

private theorem readable_of_documents {client : Unit} {window : Window} {event : Event}
    {trace : Trace} {exchange : Exchange Store ClientRequest Reply}
    (same : event = login (ascii "ann"))
    (passes : documentsTest client window event trace exchange = true) :
    readable client window event trace exchange := by
  subst same
  have given : (parse exchange.reply).toOption.isSome = true → exchange.reply ≠ .fail := by
    intro parsed failed
    obtain ⟨written, document⟩ := document_of_parsed parsed
    cases document.symm.trans failed
  unfold documentsTest at passes
  split at passes
  · contradiction
  · contradiction
  · next unasked unadded =>
      refine ⟨trello_wellFormed, fun _ => given passes, ?_⟩
      split
      · next asked => exact absurd asked (unasked _)
      · next added => exact absurd added (unadded _)
      · exact trivial

/-- Whether the handler's replies are all documents, when the last one has shown the main
window. -/
private def loggedInWith (state after : System Unit) : Option (List Bool) :=
  match (state.clients ()).activity, (after.clients ()).activity with
  | .running .auth _ _, .idle (.main _) =>
      some ((after.clients ()).trace.map fun exchange => (parse exchange.reply).toOption.isSome)
  | _, _ => none

private theorem loggedInWith_eq_some {state after : System Unit} {documents : List Bool}
    (found : loggedInWith state after = some documents) :
    ∃ event program main, (state.clients ()).activity = .running .auth event program ∧
      (after.clients ()).activity = .idle (.main main) ∧
      (after.clients ()).trace.map (fun exchange => (parse exchange.reply).toOption.isSome) =
        documents := by
  unfold loggedInWith at found
  split at found
  · next running idle => exact ⟨_, _, _, running, idle, Option.some.inj found⟩
  · contradiction

private theorem annLogsIn_ends :
    lastSeen annAlone documentsTest annLogsIn (.exchange () (List.replicate 4 ⟨true, 0⟩))
      loggedInWith = some [true, true, true, true] := by
  decide +kernel

theorem handlers_read_login :
    ∃ (state : System Unit) (program : Act Window) (trace : Trace) (store : Store),
      trace.length = 4 ∧ (∀ exchange ∈ trace, ∃ written, exchange.reply = .document written) ∧
        Advances (messenger Reference.postgres) state
          (.exchange () (List.replicate 4 ⟨true, 0⟩)) () .auth (login (ascii "ann")) program trace
          store ∧
        program.outcome ≠ some none := by
  obtain ⟨state, ran, rest⟩ := Option.bind_eq_some_iff.mp annLogsIn_ends
  obtain ⟨after, stepped, last⟩ := Option.bind_eq_some_iff.mp rest
  obtain ⟨passes, last⟩ := Option.ite_none_right_eq_some.mp last
  obtain ⟨event, program, main, running, idle, documents⟩ := loggedInWith_eq_some last
  have starts : ∀ client event, .start client event ∈ annLogsIn → event = login (ascii "ann") := by
    intro client event member
    simpa [annLogsIn] using member
  have begins : ∀ client, Started (· = login (ascii "ann"))
      ((loggedOut annAlone : System Unit).clients client) := by
    intro client window event program running
    rw [loggedOut_starts annAlone client] at running
    cases running
  obtain ⟨reached, started⟩ := Reaches.of_started
    (fun _ _ _ _ _ => readable_of_documents) starts begins .start ran
  obtain rfl := started () _ _ _ running
  have meets := meets_of_started (fun _ _ _ _ _ => readable_of_documents) started stepped passes
  obtain ⟨rest, advances, -⟩ := Advances.of_step running stepped idle
  refine ⟨state, rest, _, after.store, ?_, fun exchange member => ?_, advances,
    handlers_read (loggedOut_starts annAlone) reached meets advances⟩
  · simpa using congrArg List.length documents
  · have parsed : (parse exchange.reply).toOption.isSome ∈ [true, true, true, true] := by
      rw [← documents]
      exact List.mem_map_of_mem member
    exact document_of_parsed (by simpa using parsed)

/-- The lookup fails, and its reply is parsed. -/
theorem failed_lookup_throws :
    ∃ program : Act Window,
      Reaches (messenger Reference.postgres) unrestricted (loggedOut .empty)
        (loggingIn (ascii "ann")) ∧
      Advances (messenger Reference.postgres) (loggingIn (ascii "ann")) (.exchange () []) ()
        .auth (login (ascii "ann")) program
          [⟨.empty, .findUser (ascii "ann"), .fail, .empty⟩] .empty ∧
            program.outcome = some none := by
  have served := serve_spelled (spelled_findUser (ascii "ann"))
    ([] : List Reference.postgres.Chance) .empty
  obtain ⟨program, advances, throws⟩ := loggingIn_advances served
  exact ⟨program, loggingIn_reached Reference.postgres unrestricted (ascii "ann"), advances,
    throws rfl⟩

end BpkMessenger.Client
