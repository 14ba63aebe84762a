import BpkMessenger.Server.Requests

namespace BpkMessenger.Client

open Text Server

/-! The requests of the shipped client, as its handlers concatenate them.  Ids
that come out of a reply are written by `dump()`. -/

inductive ClientRequest
  | findUser (userName : Bytes)
  | addUser (userName : Bytes)
  | addChat (chatName : Bytes)
  | getChatId (chatName : Bytes)
  | addMessage (chatId senderId : SizeT) (messageText : Bytes)
  | linkUserToChat (userId chatId : Bytes)
  | getChatName (chatId : Bytes)
  | getChatHistory (chatId : SizeT)
  | getChatList (userId : SizeT)
  | getChatMembers (chatId : SizeT)
  | getUserName (userId : SizeT)
  | setTrelloToken (userId : SizeT) (trelloToken : Bytes)
  | getTrelloToken (userId : SizeT)
  deriving DecidableEq, Repr

namespace ClientRequest

def payload : ClientRequest → Bytes
  | findUser userName => ascii "find_user " ++ userName
  | addUser userName => ascii "add_user " ++ userName
  | addChat chatName => ascii "add_chat " ++ chatName
  | getChatId chatName => ascii "get_chat_id " ++ chatName
  | addMessage chatId senderId messageText =>
      ascii "add_message " ++ stdToString chatId ++ ascii " " ++ stdToString senderId ++
        ascii " " ++ messageText
  | linkUserToChat userId chatId =>
      ascii "link_user_to_chat " ++ userId ++ ascii " " ++ chatId
  | getChatName chatId => ascii "get_chat_name " ++ chatId
  | getChatHistory chatId => ascii "get_chat_history " ++ stdToString chatId
  | getChatList userId => ascii "get_chat_list " ++ stdToString userId
  | getChatMembers chatId => ascii "get_chat_members " ++ stdToString chatId
  | getUserName userId => ascii "get_user_name " ++ stdToString userId
  | setTrelloToken userId trelloToken =>
      ascii "set_trello_token " ++ stdToString userId ++ ascii " " ++ trelloToken
  | getTrelloToken userId => ascii "get_trello_token " ++ stdToString userId

end ClientRequest

/-! How the server reads them. -/

private theorem toNat_fits (id : SizeT) : (id.toNat : Int).natAbs < 2 ^ 64 := by
  rw [Int.natAbs_natCast]
  exact id.toNat_lt

theorem spelled_findUser (userName : Bytes) :
    Spelled (ClientRequest.findUser userName).payload (.findUser userName) :=
  @Spelled.text (ascii "find_user") .findUser (by simp [textCalls]) 32 userName

theorem spelled_addUser (userName : Bytes) :
    Spelled (ClientRequest.addUser userName).payload (.addUser userName) :=
  @Spelled.text (ascii "add_user") .addUser (by simp [textCalls]) 32 userName

theorem spelled_addChat (chatName : Bytes) :
    Spelled (ClientRequest.addChat chatName).payload (.addChat chatName) :=
  @Spelled.text (ascii "add_chat") .addChat (by simp [textCalls]) 32 chatName

theorem spelled_getChatId (chatName : Bytes) :
    Spelled (ClientRequest.getChatId chatName).payload (.getChatId chatName) :=
  @Spelled.text (ascii "get_chat_id") .getChatId (by simp [textCalls]) 32 chatName

/-- Two decimal ids one space apart, the second followed by no digit. -/
theorem readsTwo_stdToString (first second : SizeT) {rest : Bytes}
    (stops : ∀ byte ∈ rest.head?, isdigit byte = false) :
    ReadsTwo (stdToString first ++ 32 :: stdToString second ++ rest) first second rest := by
  have readsFirst : ReadsInteger (stdToString first ++ 32 :: stdToString second ++ rest)
      first.toNat (32 :: stdToString second ++ rest) := by
    rw [List.append_assoc]
    exact readsInteger_decimal first.toNat (by simp; decide)
  have readsSecond : ReadsInteger (32 :: stdToString second ++ rest) second.toNat rest :=
    (readsInteger_decimal second.toNat stops).blank_cons (by decide)
  have two := ReadsTwo.intro readsFirst (toNat_fits first) readsSecond
    (toNat_fits second)
  rwa [ofInt_toNat, ofInt_toNat] at two

/-- A decimal id, one byte, and the token up to the end of the line. -/
theorem tokenArguments_stdToString (userId : SizeT) (trelloToken : Bytes) :
    TokenArguments (stdToString userId ++ 32 :: trelloToken) userId
      (trelloToken.takeWhile (· != 10)) := by
  have readsUser : ReadsInteger (stdToString userId ++ 32 :: trelloToken) userId.toNat
      (32 :: trelloToken) := readsInteger_decimal userId.toNat (by simp; decide)
  have reads := TokenArguments.line (.numeral readsUser (toNat_fits userId))
  rwa [ofInt_toNat] at reads

theorem spelled_addMessage (chatId senderId : SizeT) (messageText : Bytes) :
    Spelled (ClientRequest.addMessage chatId senderId messageText).payload
      (.addMessage chatId senderId messageText) := by
  have stops : ∀ byte ∈ (32 :: messageText).head?, isdigit byte = false := by
    simp
    decide
  have reads := readsTwo_stdToString chatId senderId stops
  have spelled := Spelled.addMessage 32 reads
  simpa [ClientRequest.payload, ascii] using spelled

theorem spelled_getChatHistory {chatId : SizeT} (small : chatId.toNat < 2 ^ 31) :
    Spelled (ClientRequest.getChatHistory chatId).payload (.getChatHistory chatId) := by
  have member : (ascii "get_chat_history", Call.getChatHistory) ∈ idCalls := by
    simp [idCalls]
  have spelled := spelled_stdToString member small
  simpa [ClientRequest.payload, ascii] using spelled

theorem linkArguments_decimal {userId chatId : Nat} (userFits : userId < 2 ^ 64)
    (chatFits : chatId < 2 ^ 64) :
    LinkArguments (decimal userId ++ 32 :: decimal chatId) (UInt64.ofNat userId)
      (UInt64.ofNat chatId) := by
  have readsUser : ReadsInteger (decimal userId ++ 32 :: decimal chatId) userId
      (32 :: decimal chatId) := readsInteger_decimal userId (by simp; decide)
  have readsChat : ReadsInteger (32 :: decimal chatId) chatId [] := by
    have space : isspace 32 = true := rfl
    have reads := (@readsInteger_decimal chatId [] (by simp)).blank_cons space
    rwa [List.append_nil] at reads
  have arguments := LinkArguments.two (.numeral readsUser (by omega))
    (.numeral readsChat (by omega))
  rwa [ofInt_natCast, ofInt_natCast] at arguments

/-- The call a request stands for.  Ids written by `dump()` are what the server
reads back from them. -/
inductive Encodes : ClientRequest → Call → Prop
  | findUser {userName : Bytes} : Encodes (.findUser userName) (.findUser userName)
  | addUser {userName : Bytes} : Encodes (.addUser userName) (.addUser userName)
  | addChat {chatName : Bytes} : Encodes (.addChat chatName) (.addChat chatName)
  | getChatId {chatName : Bytes} :
      Encodes (.getChatId chatName) (.getChatId chatName)
  | addMessage {chatId senderId : SizeT} {messageText : Bytes} :
      Encodes (.addMessage chatId senderId messageText)
        (.addMessage chatId senderId messageText)
  | linkUserToChat {userId chatId : Bytes} {user chat : SizeT}
      (reads : LinkArguments (userId ++ 32 :: chatId) user chat) :
      Encodes (.linkUserToChat userId chatId) (.linkUserToChat user chat)
  | getChatName {chatId rest : Bytes} {value : Int}
      (reads : ReadsInteger chatId value rest) :
      Encodes (.getChatName chatId) (.getChatName (UInt64.ofInt value))
  | getChatHistory {chatId : SizeT} :
      Encodes (.getChatHistory chatId) (.getChatHistory chatId)
  | getChatList {userId : SizeT} :
      Encodes (.getChatList userId) (.getChatList userId)
  | getChatMembers {chatId : SizeT} :
      Encodes (.getChatMembers chatId) (.getChatMembers chatId)
  | getUserName {userId : SizeT} :
      Encodes (.getUserName userId) (.getUserName userId)
  | setTrelloToken {userId user : SizeT} {trelloToken token : Bytes}
      (reads : TokenArguments (stdToString userId ++ 32 :: trelloToken) user token) :
      Encodes (.setTrelloToken userId trelloToken) (.setTrelloToken user token)
  | getTrelloToken {userId : SizeT} :
      Encodes (.getTrelloToken userId) (.getTrelloToken userId)

private theorem stoi_dispatch {keyword text payload : Bytes} {call : SizeT → Call}
    (member : (keyword, call) ∈ idCalls) (spelling : payload = keyword ++ 32 :: text) :
    (∃ exception, dispatch payload = .error exception) ∨
      ∃ value rest, ReadsInteger text value rest ∧
        dispatch payload = .ok (some (.call (call (UInt64.ofInt value)))) := by
  subst spelling
  cases read : stoiArgument call text with
  | error exception =>
      left
      refine ⟨exception, ?_⟩
      rw [dispatch_command (idCalls_commands member)]
      simp only [read]
      rfl
  | ok request =>
      right
      obtain ⟨value, rest, reads, low, high, rfl⟩ := stoiArgument_eq_ok_iff.mp read
      exact ⟨value, rest, reads, dispatch_reads (idCalls_commands member) 32 read⟩

private theorem id_dispatch {keyword : Bytes} {call : SizeT → Call} {id : SizeT}
    {request : ClientRequest} (member : (keyword, call) ∈ idCalls)
    (spelling : request.payload = keyword ++ 32 :: stdToString id)
    (encodes : Encodes request (call id)) :
    (∃ exception, dispatch request.payload = .error exception) ∨
      ∃ call, Encodes request call ∧
        dispatch request.payload = .ok (some (.call call)) := by
  rcases stoi_dispatch member spelling with failed |
    ⟨value, rest, reads, dispatched⟩
  · exact .inl failed
  · right
    obtain ⟨rfl, -⟩ := reads.unique (readsInteger_stdToString id)
    rw [ofInt_toNat] at dispatched
    exact ⟨call id, encodes, dispatched⟩

theorem request_dispatch (request : ClientRequest) :
    (∃ exception, dispatch request.payload = .error exception) ∨
      ∃ call, Encodes request call ∧
        dispatch request.payload = .ok (some (.call call)) := by
  have spelled {request : ClientRequest} {call : Call} (encodes : Encodes request call)
      (spells : Spelled request.payload call) :
      ∃ call, Encodes request call ∧
        dispatch request.payload = .ok (some (.call call)) :=
    ⟨call, encodes, dispatch_of_spelled spells⟩
  cases request with
  | findUser userName => exact .inr (spelled .findUser (spelled_findUser userName))
  | addUser userName => exact .inr (spelled .addUser (spelled_addUser userName))
  | addChat chatName => exact .inr (spelled .addChat (spelled_addChat chatName))
  | getChatId chatName => exact .inr (spelled .getChatId (spelled_getChatId chatName))
  | addMessage chatId senderId messageText =>
      exact .inr (spelled .addMessage (spelled_addMessage chatId senderId messageText))
  | linkUserToChat userId chatId =>
      obtain ⟨user, chat, reads⟩ := linkArguments_total (userId ++ 32 :: chatId)
      have spells := Spelled.linkUserToChat 32 reads
      exact .inr (spelled (.linkUserToChat reads) (by
        simpa [ClientRequest.payload, ascii] using spells))
  | setTrelloToken userId trelloToken =>
      obtain ⟨user, token, reads⟩ :=
        tokenArguments_total (stdToString userId ++ 32 :: trelloToken)
      have spells := Spelled.setTrelloToken 32 reads
      exact .inr (spelled (.setTrelloToken reads) (by
        simpa [ClientRequest.payload, ascii] using spells))
  | getChatName chatId =>
      have member : (ascii "get_chat_name", Call.getChatName) ∈ idCalls := by
        simp [idCalls]
      rcases @stoi_dispatch _ chatId (ClientRequest.getChatName chatId).payload _ member
        (by simp [ClientRequest.payload, ascii]) with
        failed | ⟨value, rest, reads, dispatched⟩
      · exact .inl failed
      · exact .inr ⟨_, .getChatName reads, dispatched⟩
  | getChatHistory chatId =>
      have member : (ascii "get_chat_history", Call.getChatHistory) ∈ idCalls := by
        simp [idCalls]
      exact id_dispatch member (by simp [ClientRequest.payload, ascii]) .getChatHistory
  | getChatList userId =>
      have member : (ascii "get_chat_list", Call.getChatList) ∈ idCalls := by
        simp [idCalls]
      exact id_dispatch member (by simp [ClientRequest.payload, ascii]) .getChatList
  | getChatMembers chatId =>
      have member : (ascii "get_chat_members", Call.getChatMembers) ∈ idCalls := by
        simp [idCalls]
      exact id_dispatch member (by simp [ClientRequest.payload, ascii]) .getChatMembers
  | getUserName userId =>
      have member : (ascii "get_user_name", Call.getUserName) ∈ idCalls := by
        simp [idCalls]
      exact id_dispatch member (by simp [ClientRequest.payload, ascii]) .getUserName
  | getTrelloToken userId =>
      have member : (ascii "get_trello_token", Call.getTrelloToken) ∈ idCalls := by
        simp [idCalls]
      exact id_dispatch member (by simp [ClientRequest.payload, ascii]) .getTrelloToken

def Answers (store : Store) (request : ClientRequest) (reply : Reply)
    (after : Store) : Prop :=
  ∃ call, Encodes request call ∧ Served store call reply after

/-- A request is not answered and changes nothing, or it is answered once. -/
theorem onMessage_request {pg : Postgres} (chances : List pg.Chance) (store : Store)
    (request : ClientRequest) :
    onMessage chances store request.payload .text = ([], store) ∨
      ∃ reply after, Answers store request reply after ∧
        onMessage chances store request.payload .text =
          ([⟨.text, .reply reply⟩], after) := by
  rcases request_dispatch request with ⟨exception, failed⟩ |
    ⟨call, encodes, dispatched⟩
  · exact .inl (onMessage_throws failed chances store .text)
  · right
    refine ⟨(call.run chances store).1, (call.run chances store).2,
      ⟨call, encodes, Call.run_served rfl⟩, ?_⟩
    exact onMessage_call dispatched chances store .text

def Decodes (payload : Bytes) (call : Call) : Prop :=
  dispatch payload = .ok (some (.call call)) ∧
    ∀ (pg : Postgres) (chances : List pg.Chance) (store : Store) (opcode : Opcode),
      onMessage chances store payload opcode =
        ([⟨opcode, .reply (call.run chances store).1⟩], (call.run chances store).2)

theorem decodes_of_spelled {payload : Bytes} {call : Call}
    (spelled : Spelled payload call) : Decodes payload call := by
  refine ⟨dispatch_of_spelled spelled, fun pg chances store opcode => ?_⟩
  exact onMessage_call (dispatch_of_spelled spelled) chances store opcode

/-- A text arrives as the argument it was, whatever bytes it has. -/
theorem textRequests_decode (text : Bytes) :
    Decodes (ascii "find_user " ++ text) (.findUser text) ∧
      Decodes (ascii "add_user " ++ text) (.addUser text) ∧
      Decodes (ascii "add_chat " ++ text) (.addChat text) ∧
      Decodes (ascii "get_chat_id " ++ text) (.getChatId text) ∧
      ∀ chatId senderId : SizeT,
        Decodes (ascii "add_message " ++ stdToString chatId ++ ascii " " ++
            stdToString senderId ++ ascii " " ++ text)
          (.addMessage chatId senderId text) := by
  refine ⟨?_, ?_, ?_, ?_, fun chatId senderId => ?_⟩
  · exact decodes_of_spelled (spelled_findUser text)
  · exact decodes_of_spelled (spelled_addUser text)
  · exact decodes_of_spelled (spelled_addChat text)
  · exact decodes_of_spelled (spelled_getChatId text)
  · exact decodes_of_spelled (spelled_addMessage chatId senderId text)

end BpkMessenger.Client
