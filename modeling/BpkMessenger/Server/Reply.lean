import BpkMessenger.Json.Value

namespace BpkMessenger.Server

open Text

/-! What the server sends back. -/

inductive Key
  | chatId
  | chatName
  | messageText
  | senderId
  | trelloToken
  | userId
  | userName
  deriving DecidableEq, Repr

def Key.name : Key → Bytes
  | .chatId => ascii "chat_id"
  | .chatName => ascii "chat_name"
  | .messageText => ascii "message_text"
  | .senderId => ascii "sender_id"
  | .trelloToken => ascii "trello_token"
  | .userId => ascii "user_id"
  | .userName => ascii "user_name"

/-- A document together with the text it was written as. -/
structure Document where
  value : Json Key
  text : Bytes
  dumped : value.dump Key.name = .ok text

inductive Reply
  | success
  | fail
  | userNotFound
  | document (written : Document)

def Reply.text : Reply → Bytes
  | .success => ascii "SUCCESS"
  | .fail => ascii "FAIL"
  | .userNotFound => ascii "User not found"
  | .document written => written.text

theorem Reply.validUtf8_text (reply : Reply) : validUtf8 reply.text = true := by
  cases reply with
  | success => decide
  | fail => decide
  | userNotFound => decide
  | document written =>
      exact Json.validUtf8_dump Key.name written.value written.dumped

private theorem document_ne_capital {written : Document} {byte : UInt8} {rest : Bytes}
    (capital : 65 ≤ byte ∧ byte ≤ 90) : written.text ≠ byte :: rest := by
  intro same
  obtain ⟨first, others, split, outside⟩ := Json.dump_head written.dumped
  rw [same, List.cons.injEq] at split
  obtain ⟨rfl, -⟩ := split
  simp only [UInt8.le_iff_toNat_le, UInt8.lt_iff_toNat_lt] at capital outside
  omega

theorem Reply.text_eq_success {reply : Reply} :
    reply.text = ascii "SUCCESS" ↔ reply = .success := by
  constructor
  · intro same
    cases reply with
    | success => rfl
    | fail => contradiction
    | userNotFound => contradiction
    | document written => exact absurd same (document_ne_capital (by decide))
  · rintro rfl
    rfl

end BpkMessenger.Server
