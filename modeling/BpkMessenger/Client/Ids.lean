import BpkMessenger.Client.Request
import BpkMessenger.Server.Ids

namespace BpkMessenger.Client

open Text Server

/-! The ids in the requests of the client. -/

/-- The requests that carry ids, with these ids in decimal. -/
inductive CarriesIds : ClientRequest → List SizeT → Prop
  | addMessage {chatId senderId : SizeT} {messageText : Bytes} :
      CarriesIds (.addMessage chatId senderId messageText) [chatId, senderId]
  | linkUserToChat {userId chatId : SizeT} :
      CarriesIds (.linkUserToChat (stdToString userId) (stdToString chatId))
        [userId, chatId]
  | getChatName {chatId : SizeT} : CarriesIds (.getChatName (stdToString chatId)) [chatId]
  | getChatHistory {chatId : SizeT} : CarriesIds (.getChatHistory chatId) [chatId]
  | getChatList {userId : SizeT} : CarriesIds (.getChatList userId) [userId]
  | getChatMembers {chatId : SizeT} : CarriesIds (.getChatMembers chatId) [chatId]
  | getUserName {userId : SizeT} : CarriesIds (.getUserName userId) [userId]
  | setTrelloToken {userId : SizeT} {trelloToken : Bytes} :
      CarriesIds (.setTrelloToken userId trelloToken) [userId]
  | getTrelloToken {userId : SizeT} : CarriesIds (.getTrelloToken userId) [userId]

/-- The commands that insert rows. -/
def ClientRequest.writes : ClientRequest → Bool
  | .addMessage _ _ _ | .linkUserToChat _ _ | .setTrelloToken _ _ => true
  | _ => false

/-- The request reaches its method with exactly these ids, and so do its statements. -/
def Understood (request : ClientRequest) (ids : List SizeT) : Prop :=
  ∃ call, dispatch request.payload = .ok (some (.call call)) ∧ Encodes request call ∧
    call.ids = ids ∧ ∀ text ∈ call.texts, Denotes text call.userText ids

theorem understood_of_encodes {request : ClientRequest} {ids : List SizeT} {call : Call}
    (dispatched : dispatch request.payload = .ok (some (.call call)))
    (encodes : Encodes request call) (same : call.ids = ids) : Understood request ids := by
  refine ⟨call, dispatched, encodes, same, fun text member => ?_⟩
  rw [← same]
  exact call.texts_denote member

private theorem writes_understood {request : ClientRequest} {ids : List SizeT} {call : Call}
    (spelled : Spelled request.payload call) (encodes : Encodes request call)
    (same : call.ids = ids) (writes : request.writes = true) :
    Understood request ids ↔ request.writes = true ∨ ∀ id ∈ ids, id.toNat < 2 ^ 31 :=
  iff_of_true (understood_of_encodes (dispatch_of_spelled spelled) encodes same)
    (.inl writes)

private theorem reads_understood {request : ClientRequest} {keyword : Bytes}
    {call : SizeT → Call} {id : SizeT} (member : (keyword, call) ∈ idCalls)
    (spelling : request.payload = keyword ++ 32 :: stdToString id)
    (encodes : Encodes request (call id)) (same : (call id).ids = [id])
    (reads : request.writes = false) :
    Understood request [id] ↔ request.writes = true ∨ ∀ other ∈ [id], other.toNat < 2 ^ 31 := by
  have single : (request.writes = true ∨ ∀ other ∈ [id], other.toNat < 2 ^ 31) ↔
      id.toNat < 2 ^ 31 := by simp [reads]
  rw [single]
  constructor
  · intro understood
    obtain ⟨other, dispatched, -⟩ := understood
    rw [spelling] at dispatched
    by_contra large
    exact dispatch_large member (Nat.le_of_not_lt large) _ dispatched
  · intro small
    have spelled := spelled_stdToString member small
    rw [← spelling] at spelled
    exact understood_of_encodes (dispatch_of_spelled spelled) encodes same

/-- The commands that insert rows understand every id, the others exactly those below
2^31. -/
theorem understood_iff {request : ClientRequest} {ids : List SizeT}
    (carries : CarriesIds request ids) :
    Understood request ids ↔ request.writes = true ∨ ∀ id ∈ ids, id.toNat < 2 ^ 31 := by
  cases carries with
  | @addMessage chatId senderId messageText =>
      exact writes_understood (spelled_addMessage chatId senderId messageText) .addMessage rfl
        rfl
  | @linkUserToChat userId chatId =>
      have reads : LinkArguments (stdToString userId ++ 32 :: stdToString chatId) userId
          chatId := by
        simpa [stdToString] using linkArguments_decimal userId.toNat_lt chatId.toNat_lt
      refine writes_understood ?_ (.linkUserToChat reads) rfl rfl
      simpa [ClientRequest.payload, ascii] using Spelled.linkUserToChat 32 reads
  | @setTrelloToken userId trelloToken =>
      have reads := tokenArguments_stdToString userId trelloToken
      refine writes_understood ?_ (.setTrelloToken reads) rfl rfl
      simpa [ClientRequest.payload, ascii] using Spelled.setTrelloToken 32 reads
  | @getChatName chatId =>
      have encodes := Encodes.getChatName (readsInteger_stdToString chatId)
      rw [ofInt_toNat] at encodes
      exact @reads_understood _ (ascii "get_chat_name") _ _ (by simp [idCalls])
        (by simp [ClientRequest.payload, ascii]) encodes rfl rfl
  | getChatHistory =>
      exact @reads_understood _ (ascii "get_chat_history") _ _ (by simp [idCalls])
        (by simp [ClientRequest.payload, ascii]) .getChatHistory rfl rfl
  | getChatList =>
      exact @reads_understood _ (ascii "get_chat_list") _ _ (by simp [idCalls])
        (by simp [ClientRequest.payload, ascii]) .getChatList rfl rfl
  | getChatMembers =>
      exact @reads_understood _ (ascii "get_chat_members") _ _ (by simp [idCalls])
        (by simp [ClientRequest.payload, ascii]) .getChatMembers rfl rfl
  | getUserName =>
      exact @reads_understood _ (ascii "get_user_name") _ _ (by simp [idCalls])
        (by simp [ClientRequest.payload, ascii]) .getUserName rfl rfl
  | getTrelloToken =>
      exact @reads_understood _ (ascii "get_trello_token") _ _ (by simp [idCalls])
        (by simp [ClientRequest.payload, ascii]) .getTrelloToken rfl rfl

theorem understood_iff_small :
    Understood (.getChatName (stdToString 2147483647)) [2147483647] ↔
      (ClientRequest.getChatName (stdToString 2147483647)).writes = true ∨
        ∀ id ∈ [(2147483647 : SizeT)], id.toNat < 2 ^ 31 :=
  understood_iff .getChatName

/-- The id that follows 2^31 - 1 is taken by `add_message`, and refused by
`get_chat_name`. -/
theorem not_understood_large :
    Understood (.addMessage 2147483648 1 (ascii "hi")) [2147483648, 1] ∧
      CarriesIds (.getChatName (stdToString 2147483648)) [2147483648] ∧
      ¬ Understood (.getChatName (stdToString 2147483648)) [2147483648] := by
  refine ⟨?_, .getChatName, ?_⟩
  · exact understood_of_encodes (dispatch_of_spelled (spelled_addMessage _ _ _)) .addMessage rfl
  · intro understood
    obtain ⟨call, dispatched, -⟩ := understood
    have member : (ascii "get_chat_name", Call.getChatName) ∈ idCalls := by simp [idCalls]
    apply dispatch_large member (show 2 ^ 31 ≤ (2147483648 : SizeT).toNat by decide)
    simpa [ClientRequest.payload, ascii] using dispatched

end BpkMessenger.Client
