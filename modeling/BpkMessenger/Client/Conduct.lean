import BpkMessenger.Client.Handlers
import BpkMessenger.Interaction.System

namespace BpkMessenger.Client

open Text Server Interaction

/-! What the handlers send and leave behind, in terms of the replies they got. -/

abbrev Trace := List (Exchange Store ClientRequest Reply)

def Answered (exchange : Exchange Store ClientRequest Reply) : Prop :=
  Answers exchange.before exchange.request exchange.reply exchange.after

/-- The exchanges of one client: answered by the server, on a store that only
grew in between. -/
abbrev Valid : Trace → Prop :=
  Chained Answered Store.Grows

section Replies

variable {store after : Store} {written : Document}

theorem answers_getChatList {userId : SizeT}
    (answers : Answers store (.getChatList userId) (.document written) after) :
    ∃ rows : List LinkRow,
      rows.Perm (store.userIdChatId.filter fun row => row.userId = userId.toNat) ∧
        written.value = listDocument (rows.map fun row =>
          .object [(.chatId, .number row.chatId)]) := by
  obtain ⟨call, encodes, served⟩ := answers
  cases encodes
  cases served with
  | @chatList _ rows _ matching value => exact ⟨rows, matching, value⟩

theorem toNat_ofInt_natCast {id : Nat} (bound : id < 2 ^ 63) :
    (UInt64.ofInt (id : Int)).toNat = id := by
  rw [ofInt_natCast, UInt64.toNat_ofNat']
  omega

theorem answers_getChatName {chatId : Nat}
    (answers : Answers store (.getChatName (decimal chatId)) (.document written) after)
    (stored : store.HasChat chatId) :
    ∃ chat ∈ store.chats, chat.chatId = chatId ∧
      written.value = chatDocument chat.chatId chat.chatName := by
  obtain ⟨call, encodes, served⟩ := answers
  have bound := (Store.hasChat_pos stored).2
  cases encodes with
  | getChatName reads =>
      have same : ReadsInteger (decimal chatId) chatId [] := by
        simpa using @readsInteger_decimal chatId [] (by simp)
      obtain ⟨rfl, -⟩ := reads.unique same
      cases served with
      | noChat missing value =>
          rw [toNat_ofInt_natCast bound] at missing
          exact absurd stored missing
      | @chat row _ _ member found value =>
          rw [toNat_ofInt_natCast bound] at found
          exact ⟨row, member, found, value⟩

theorem answers_getChatId {chatName : Bytes}
    (answers : Answers store (.getChatId chatName) (.document written) after) :
    (∀ chat ∈ store.chats, chat.chatName ≠ chatName) ∧ written.value = .null ∨
      ∃ chat ∈ store.chats, chat.chatName = chatName ∧
        written.value = chatDocument chat.chatId (Sql.doubleQuotes chatName) := by
  obtain ⟨call, encodes, served⟩ := answers
  cases encodes
  cases served with
  | noChatNamed missing value => exact .inl ⟨missing, value⟩
  | chatNamed member same value => exact .inr ⟨_, member, same, value⟩

theorem answers_findUser {userName : Bytes}
    (answers : Answers store (.findUser userName) (.document written) after) :
    ∃ user ∈ store.users, user.userName = userName ∧
      written.value = userDocument user.userId user.userName := by
  obtain ⟨call, encodes, served⟩ := answers
  cases encodes
  cases served with
  | userNamed member same value => exact ⟨_, member, same, value⟩

theorem answers_getChatHistory {chatId : SizeT}
    (answers : Answers store (.getChatHistory chatId) (.document written) after) :
    ∃ rows : List MessageRow,
      rows.Perm (store.messages.filter fun row => row.chatId = chatId.toNat) ∧
        written.value = listDocument (rows.map fun row =>
          messageDocument row.chatId row.senderId row.messageText) := by
  obtain ⟨call, encodes, served⟩ := answers
  cases encodes
  cases served with
  | @history _ rows _ matching value => exact ⟨rows, matching, value⟩

theorem answers_getUserName {userId : SizeT}
    (answers : Answers store (.getUserName userId) (.document written) after) :
    ∃ user ∈ store.users, user.userId = userId.toNat ∧
      written.value = userDocument user.userId user.userName := by
  obtain ⟨call, encodes, served⟩ := answers
  cases encodes
  cases served with
  | user member same value => exact ⟨_, member, same, value⟩

end Replies

theorem Answered.grows {exchange : Exchange Store ClientRequest Reply}
    (answered : Answered exchange) : exchange.before.Grows exchange.after := by
  obtain ⟨call, encodes, served⟩ := answered
  exact served.grows

/-! The chat list. -/

/-- The chats of a user as a `get_chat_list` reply of the trace listed them. -/
def Fetches (userId : SizeT) (chats : List ChatRow) (trace : Trace) : Prop :=
  ∃ exchange ∈ trace, exchange.request = .getChatList userId ∧
    ∃ (written : Document) (rows : List LinkRow),
      exchange.reply = .document written ∧
        rows.Perm (exchange.before.userIdChatId.filter fun row =>
          row.userId = userId.toNat) ∧
        written.value = listDocument (rows.map fun row =>
          .object [(.chatId, .number row.chatId)]) ∧
        chats.map ChatRow.chatId = rows.map LinkRow.chatId

def chatDocuments (chats : List ChatRow) : List (Json Key) :=
  chats.map fun chat => chatDocument chat.chatId chat.chatName

def Fetched (window result : MainWindow) (trace : Trace) : Prop :=
  ∃ chats chatNames,
    result = { window with chatNames := chatNames, sizeOfAnswer := chatNames.size } ∧
      chatNames.elements = window.chatNames.clear.elements ++ chatDocuments chats ∧
      chatNames.clear.elements = window.chatNames.clear.elements ∧
      Fetches window.user.userId chats trace

/-- As `Fetched`; each chat was stored when its name was asked for. -/
def Gathered (window result : MainWindow) (trace : Trace) : Prop :=
  ∃ chats chatNames,
    result = { window with chatNames := chatNames, sizeOfAnswer := chatNames.size } ∧
      chatNames.elements = window.chatNames.clear.elements ++ chatDocuments chats ∧
      chatNames.clear.elements = window.chatNames.clear.elements ∧
      Fetches window.user.userId chats trace ∧
      ∀ chat ∈ chats, ∃ exchange ∈ trace, chat ∈ exchange.before.chats

theorem Gathered.fetched {window result : MainWindow} {trace : Trace}
    (gathered : Gathered window result trace) : Fetched window result trace := by
  obtain ⟨chats, chatNames, same, elements, cleared, fetches, -⟩ := gathered
  exact ⟨chats, chatNames, same, elements, cleared, fetches⟩

private def chatIdObject (chatId : Nat) : Json Key :=
  .object [(.chatId, .number chatId)]

private theorem chatIdObject_injective : Function.Injective chatIdObject := by
  intro first second same
  cases same
  rfl

theorem size_eq_length_elements (j : Json Key) : j.size = j.elements.length := by
  cases j with
  | object members => exact (List.length_map _).symm
  | _ => rfl

theorem elements_pushBack {j value result : Json Key}
    (pushed : j.pushBack value = .ok result) :
    result.elements = j.elements ++ [value] := by
  cases j <;> cases pushed <;> rfl

theorem clear_pushBack {j value result : Json Key} (pushed : j.pushBack value = .ok result) :
    result.clear.elements = j.clear.elements := by
  cases j <;> cases pushed <;> rfl

theorem clear_clear (j : Json Key) : j.clear.clear = j.clear := by
  cases j <;> rfl

theorem parse_eq_ok {reply : Reply} {value : Json Key}
    (parsed : parse reply = .ok value) :
    ∃ written : Document, reply = .document written ∧ written.value = value := by
  cases reply with
  | document written =>
      cases parsed
      exact ⟨written, rfl, rfl⟩
  | _ => contradiction

theorem Chained.past {trace : Trace} {exchange earlier : Exchange Store ClientRequest Reply}
    (valid : Valid (trace ++ [exchange])) (member : earlier ∈ trace) :
    earlier.after.Grows exchange.before :=
  (List.pairwise_append.mp valid.ordered).2.2 earlier member exchange
    (List.mem_singleton_self exchange)

theorem Chained.last {trace : Trace} {exchange : Exchange Store ClientRequest Reply}
    (valid : Valid (trace ++ [exchange])) : Answered exchange :=
  valid.answered exchange (List.mem_append_right trace (List.mem_singleton_self exchange))

/-- The two requests that say something in somebody's name. -/
def ClientRequest.restricted : ClientRequest → Bool
  | .addMessage _ _ _ => true
  | .linkUserToChat _ _ => true
  | _ => false

def Redrawn (window result : MainWindow) : Prop :=
  ∃ listWidget size,
    result = { window with listWidget := listWidget, currentChatMessagesSize := size }

/-! The messages of a chat. -/

/-- How a message is shown: with the name its sender had when it was asked for. -/
inductive Shows (user : User) (trace : Trace) (row : MessageRow) : MessageView → Prop
  | own (same : row.senderId = user.userId.toNat) :
      Shows user trace row (.outgoing row.messageText)
  | other {exchange : Exchange Store ClientRequest Reply} {sender : UserRow}
      (different : row.senderId ≠ user.userId.toNat) (member : exchange ∈ trace)
      (stored : sender ∈ exchange.before.users) (same : sender.userId = row.senderId) :
      Shows user trace row (.incoming (sender.userName ++ ascii ": " ++ row.messageText))

theorem Shows.mono {user : User} {trace final : Trace} {row : MessageRow}
    {view : MessageView} (longer : trace <+: final) (shows : Shows user trace row view) :
    Shows user final row view := by
  cases shows with
  | own same => exact .own same
  | other different member stored same =>
      exact .other different (longer.subset member) stored same

/-- The messages of a chat as a `get_chat_history` reply listed them: as many as are
shown, or shown anew. -/
def Drawn (chatId : SizeT) (window result : MainWindow) (trace : Trace) : Prop :=
  ∃ exchange ∈ trace, exchange.request = .getChatHistory chatId ∧
    ∃ (written : Document) (rows : List MessageRow),
      exchange.reply = .document written ∧
      rows.Perm (exchange.before.messages.filter fun row => row.chatId = chatId.toNat) ∧
      written.value = listDocument (rows.map fun row =>
        messageDocument row.chatId row.senderId row.messageText) ∧
      (window.currentChatMessagesSize = rows.length ∧ result = window ∨
        window.currentChatMessagesSize ≠ rows.length ∧
          ∃ listWidget, List.Forall₂ (Shows window.user trace) rows listWidget ∧
            result = { window with
              listWidget := listWidget
              currentChatMessagesSize := rows.length })

theorem Drawn.redrawn {chatId : SizeT} {window result : MainWindow} {trace : Trace}
    (drawn : Drawn chatId window result trace) : Redrawn window result := by
  obtain ⟨exchange, -, -, written, rows, -, -, -, ⟨-, rfl⟩ | ⟨-, listWidget, -, rfl⟩⟩ := drawn
  · exact ⟨_, _, rfl⟩
  · exact ⟨listWidget, rows.length, rfl⟩

private def messageObject (row : MessageRow) : Json Key :=
  messageDocument row.chatId row.senderId row.messageText

private theorem messageObject_injective : Function.Injective messageObject := by
  intro first second same
  cases first
  cases second
  cases same
  rfl

section Programs

variable {β : Type} {sends : Trace → ClientRequest → Prop}
  {last : β → Trace → Prop} {trace : Trace}
  (free : ∀ trace request, ClientRequest.restricted request = false →
    sends trace request)

theorem bind_warn {reply : Reply} {next : Unit → Act β}
    (continues : Safe Valid sends last (next ()) trace) :
    Safe Valid sends last (warn reply >>= next) trace := by
  cases reply with
  | fail => exact Safe.bind_report continues
  | _ => exact continues

private def GatheredSoFar (start : Json Key) (done : List (Json Key))
    (chatNames : Json Key) (trace : Trace) : Prop :=
  ∃ chats : List ChatRow,
    done = (chats.map ChatRow.chatId).map chatIdObject ∧
      chatNames.elements = start.elements ++ chatDocuments chats ∧
        chatNames.clear.elements = start.clear.elements ∧
          ∀ chat ∈ chats, ∃ exchange ∈ trace, chat ∈ exchange.before.chats

private def DrawnSoFar (user : User) (done : List (Json Key))
    (listWidget : List MessageView) (trace : Trace) : Prop :=
  ∃ rows : List MessageRow, done = rows.map messageObject ∧
    List.Forall₂ (Shows user trace) rows listWidget

include free

private theorem fetchChatName_safe {start chatNames : Json Key}
    {done : List (Json Key)} {chatId : Nat}
    (listed : ∃ exchange ∈ trace, exchange.after.HasChat chatId)
    (soFar : GatheredSoFar start done chatNames trace) :
    Safe Valid sends
      (GatheredSoFar start (done ++ [chatIdObject chatId]))
      (fetchChatName chatNames (chatIdObject chatId)) trace := by
  unfold fetchChatName
  apply Safe.bind_lift
  intro text dumped
  have written : text = decimal chatId := (Except.ok.inj dumped).symm
  subst written
  apply Safe.bind_send (free trace _ rfl)
  intro exchange same valid
  apply bind_warn
  apply Safe.bind_lift
  intro value parsed
  obtain ⟨document, replied, rfl⟩ := parse_eq_ok parsed
  have answered := Chained.last valid
  rw [Answered, same, replied] at answered
  obtain ⟨earlier, member, stored⟩ := listed
  obtain ⟨chat, chatStored, sameId, chatValue⟩ :=
    answers_getChatName answered ((Chained.past valid member).hasChat stored)
  apply Safe.lift
  intro result pushed
  obtain ⟨chats, doneChats, elements, cleared, known⟩ := soFar
  refine ⟨chats ++ [chat], ?_, ?_, (clear_pushBack pushed).trans cleared, ?_⟩
  · rw [doneChats, List.map_append, List.map_append, List.map_singleton,
      List.map_singleton, sameId]
  · rw [elements_pushBack pushed, elements, chatValue, chatDocuments, chatDocuments,
      List.map_append, List.map_singleton, List.append_assoc]
  · intro other otherMember
    rcases List.mem_append.mp otherMember with before | last
    · obtain ⟨found, foundMember, otherStored⟩ := known other before
      exact ⟨found, List.mem_append_left _ foundMember, otherStored⟩
    · rw [List.mem_singleton.mp last]
      exact ⟨exchange, List.mem_append_right _ (List.mem_singleton_self _), chatStored⟩

theorem updateChats_safe (window : MainWindow) :
    Safe Valid sends (Gathered window) (updateChats window) trace := by
  unfold updateChats
  apply Safe.bind_send (free trace _ rfl)
  intro exchange same valid
  apply bind_warn
  apply Safe.bind_lift
  intro value parsed
  obtain ⟨document, replied, rfl⟩ := parse_eq_ok parsed
  have answered := Chained.last valid
  have grown := answered
  rw [Answered, same, replied] at answered
  obtain ⟨rows, matching, listed⟩ := answers_getChatList answered
  have elements : document.value.elements =
      (rows.map LinkRow.chatId).map chatIdObject := by
    rw [listed, elements_listDocument, List.map_map]
    rfl
  rw [elements]
  apply Safe.bind (Safe.foldlM (GatheredSoFar window.chatNames.clear) valid
    ⟨[], rfl, (List.append_nil _).symm, rfl, fun _ member => absurd member List.not_mem_nil⟩ ?_)
    valid
  · intro chatNames final longer keptFinal soFar
    obtain ⟨chats, doneChats, fetched, cleared, known⟩ := soFar
    rw [clear_clear] at cleared
    apply Safe.done
    refine ⟨chats, chatNames, rfl, fetched, cleared, ⟨exchange, ?_, same, document, rows,
      replied, matching, listed, ?_⟩, known⟩
    · exact longer.subset (List.mem_append_right trace (List.mem_singleton_self exchange))
    · exact (List.map_injective_iff.mpr chatIdObject_injective doneChats).symm
  · intro before element rest split chatNames current longer keptCurrent soFar
    have member : element ∈ (rows.map LinkRow.chatId).map chatIdObject := by
      rw [split]
      exact List.mem_append_right before List.mem_cons_self
    obtain ⟨chatId, listedId, rfl⟩ := List.mem_map.mp member
    obtain ⟨row, rowMember, rfl⟩ := List.mem_map.mp listedId
    have linked := (List.mem_filter.mp (matching.subset rowMember)).1
    have stored : exchange.after.HasChat row.chatId :=
      grown.grows.hasChat (exchange.before.consistent.linkChat row linked)
    refine fetchChatName_safe free ⟨exchange, ?_, stored⟩ soFar
    exact longer.subset (List.mem_append_right trace (List.mem_singleton_self exchange))

private theorem addMessageRow_safe {user : User} {listWidget : List MessageView}
    {done : List (Json Key)} {row : MessageRow} (bound : row.senderId < 2 ^ 63)
    (soFar : DrawnSoFar user done listWidget trace) :
    Safe Valid sends (DrawnSoFar user (done ++ [messageObject row]))
      (addMessageRow user listWidget (messageObject row)) trace := by
  have sender : (UInt64.ofNat row.senderId).toNat = row.senderId := by
    rw [UInt64.toNat_ofNat']
    omega
  obtain ⟨rows, doneRows, shown⟩ := soFar
  have extend : ∀ (final : Trace) view, trace <+: final → Shows user final row view →
      DrawnSoFar user (done ++ [messageObject row]) (listWidget ++ [view]) final := by
    intro final view longer shows
    refine ⟨rows ++ [row], by rw [doneRows, List.map_append, List.map_singleton], ?_⟩
    exact List.rel_append (shown.imp fun _ _ earlier => earlier.mono longer)
      (.cons shows .nil)
  unfold addMessageRow
  apply Safe.bind_lift
  intro senderId read
  cases read
  by_cases own : UInt64.ofNat row.senderId = user.userId
  · rw [if_pos own]
    apply Safe.bind_lift
    intro text read
    cases read
    exact Safe.done (extend trace _ (List.prefix_refl trace) (.own (by rw [← own, sender])))
  · rw [if_neg own]
    apply Safe.bind_send (free trace _ rfl)
    intro exchange same valid
    apply bind_warn
    apply Safe.bind_lift
    intro userInfo parsed
    obtain ⟨written, replied, rfl⟩ := parse_eq_ok parsed
    have answered := Chained.last valid
    rw [Answered, same, replied] at answered
    obtain ⟨found, stored, foundId, value⟩ := answers_getUserName answered
    rw [value]
    apply Safe.bind_lift
    intro userName read
    cases read
    apply Safe.bind_lift
    intro text read
    cases read
    apply Safe.done
    apply extend _ _ (List.prefix_append trace [exchange])
    refine .other ?_ (List.mem_append_right trace (List.mem_singleton_self exchange)) stored
      (foundId.trans sender)
    intro equal
    apply own
    rw [equal]
    exact UInt64.ofNat_toNat

theorem updateMessages_safe (chatId : SizeT) (window : MainWindow) :
    Safe Valid sends (Drawn chatId window) (updateMessages chatId window) trace := by
  unfold updateMessages
  apply Safe.bind_send (free trace _ rfl)
  intro exchange same valid
  apply bind_warn
  apply Safe.bind_lift
  intro messages parsed
  obtain ⟨written, replied, rfl⟩ := parse_eq_ok parsed
  have answered := Chained.last valid
  rw [Answered, same, replied] at answered
  obtain ⟨rows, matching, listed⟩ := answers_getChatHistory answered
  have elements : written.value.elements = rows.map messageObject := by
    rw [listed, elements_listDocument]
    rfl
  have size : written.value.size = rows.length := by
    rw [size_eq_length_elements, elements, List.length_map]
  have member : exchange ∈ trace ++ [exchange] :=
    List.mem_append_right trace (List.mem_singleton_self exchange)
  rw [size, elements]
  by_cases differs : window.currentChatMessagesSize ≠ rows.length
  · rw [if_pos differs]
    apply Safe.bind (Safe.foldlM (DrawnSoFar window.user) valid ⟨[], rfl, .nil⟩ ?_) valid
    · intro listWidget final longer keptFinal soFar
      obtain ⟨drawn, drawnRows, shown⟩ := soFar
      cases List.map_injective_iff.mpr messageObject_injective drawnRows
      exact Safe.done ⟨exchange, longer.subset member, same, written, rows, replied, matching,
        listed, .inr ⟨differs, listWidget, shown, rfl⟩⟩
    · intro before element rest split listWidget current longer keptCurrent soFar
      have listedElement : element ∈ rows.map messageObject := by
        rw [split]
        exact List.mem_append_right before List.mem_cons_self
      obtain ⟨row, rowMember, rfl⟩ := List.mem_map.mp listedElement
      have stored := (List.mem_filter.mp (matching.subset rowMember)).1
      obtain ⟨sender, senderStored, senderId⟩ :=
        exchange.before.consistent.messageSender row stored
      have bound := (exchange.before.consistent.userRange sender senderStored).2
      rw [senderId] at bound
      exact addMessageRow_safe free bound soFar
  · rw [if_neg differs]
    exact Safe.done ⟨exchange, member, same, written, rows, replied, matching, listed,
      .inl ⟨not_not.mp differs, rfl⟩⟩

end Programs

end BpkMessenger.Client
