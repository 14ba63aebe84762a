import BpkMessenger.Client.Request

namespace BpkMessenger.Client

open Text Server

/-! Runs of the server over requests of the shipped client, one message at a
time, in whatever order the clients' requests arrive. -/

structure Arrival (pg : Postgres) where
  request : ClientRequest
  chances : List pg.Chance

structure Handled where
  request : ClientRequest
  sent : List Message

variable {pg : Postgres}

def serve (store : Store) : List (Arrival pg) → List Handled × Store
  | [] => ([], store)
  | arrival :: later =>
      let (sent, after) :=
        onMessage arrival.chances store arrival.request.payload .text
      let (handled, final) := serve after later
      (⟨arrival.request, sent⟩ :: handled, final)

def answeredSuccess (sent : List Message) : Bool :=
  sent.map Message.payload = [ascii "SUCCESS"]

/-- The messages of a chat that were answered SUCCESS. -/
def delivered (chatId : SizeT) (handled : List Handled) : List (Json Key) :=
  handled.filterMap fun entry =>
    match entry.request with
    | .addMessage chat sender text =>
        if chat = chatId ∧ answeredSuccess entry.sent then
          some (messageDocument chat.toNat sender.toNat text)
        else none
    | _ => none

def postedRows (entry : Handled) : List MessageRow :=
  match entry.request with
  | .addMessage chat sender text =>
      if answeredSuccess entry.sent then [⟨chat.toNat, sender.toNat, text⟩] else []
  | _ => []

theorem answeredSuccess_reply (reply : Reply) :
    answeredSuccess [⟨.text, .reply reply⟩] = true ↔ reply = .success := by
  rw [← Reply.text_eq_success]
  simp [answeredSuccess, Message.payload, Content.text]

theorem postedRows_step (chances : List pg.Chance) (store : Store)
    (request : ClientRequest) :
    (onMessage chances store request.payload .text).2.messages =
      store.messages ++ postedRows
        ⟨request, (onMessage chances store request.payload .text).1⟩ := by
  rcases onMessage_request chances store request with silent |
    ⟨reply, after, ⟨call, encodes, served⟩, answered⟩
  · rw [silent]
    cases request <;> exact (List.append_nil _).symm
  · rw [answered, served.messages, List.append_cancel_left_eq]
    cases encodes with
    | addMessage =>
        by_cases success : reply = .success
        · subst success
          rfl
        · have refused : answeredSuccess [⟨.text, .reply reply⟩] = false := by
            rw [Bool.eq_false_iff]
            exact fun accepted => success ((answeredSuccess_reply reply).mp accepted)
          simp only [postedRows, refused]
          cases reply with
          | success => contradiction
          | _ => rfl
    | _ => rfl

theorem serve_messages (store : Store) (arrivals : List (Arrival pg)) :
    (serve store arrivals).2.messages =
      store.messages ++ (serve store arrivals).1.flatMap postedRows := by
  induction arrivals generalizing store with
  | nil => exact (List.append_nil _).symm
  | cons arrival later induction =>
      simp only [serve, List.flatMap_cons]
      rw [induction, postedRows_step, List.append_assoc]

theorem delivered_eq (chatId : SizeT) (handled : List Handled) :
    delivered chatId handled =
      ((handled.flatMap postedRows).filter fun row => row.chatId = chatId.toNat).map
        fun row => messageDocument row.chatId row.senderId row.messageText := by
  induction handled with
  | nil => rfl
  | cons entry handled induction =>
      rw [List.flatMap_cons, List.filter_append, List.map_append, ← induction, delivered,
        List.filterMap_cons]
      obtain ⟨request, sent⟩ := entry
      cases request with
      | addMessage chat sender text =>
          by_cases accepted : answeredSuccess sent = true
          · by_cases same : chat = chatId
            · subst same
              simp [postedRows, accepted, delivered]
            · have different : chat.toNat ≠ chatId.toNat := by
                simpa [UInt64.toNat_inj] using same
              simp [postedRows, accepted, same, different, delivered]
          · simp [postedRows, accepted, delivered]
      | _ => rfl

private theorem listDocument_null {elements : List (Json Key)}
    (dumped : (listDocument elements).dump Key.name = .ok (ascii "null")) :
    elements = [] := by
  cases elements with
  | nil => rfl
  | cons element elements =>
      obtain ⟨rest, impossible⟩ := Json.dump_array dumped
      simp [ascii] at impossible

/-- A history request is answered, with exactly the messages that were answered
SUCCESS before. -/
theorem history_delivers (pg : Postgres) (start : Store)
    (fresh : start.messages = []) (earlier : List (Arrival pg))
    (chances : List pg.Chance) (chatId : SizeT) (accepted : chatId.toNat < 2 ^ 31) :
    ∃ message,
      (onMessage chances (serve start earlier).2
        (ClientRequest.getChatHistory chatId).payload .text).1 = [message] ∧
      (message.payload ≠ ascii "FAIL" →
        ∃ elements,
          (listDocument elements).dump Key.name = .ok message.payload ∧
            elements.Perm (delivered chatId (serve start earlier).1) ∧
            (message.payload = ascii "null" ↔
              delivered chatId (serve start earlier).1 = [])) := by
  have dispatched := dispatch_of_spelled (spelled_getChatHistory accepted)
  rcases ran : Call.run (.getChatHistory chatId) chances (serve start earlier).2 with
    ⟨reply, after⟩
  have sent := onMessage_call dispatched chances (serve start earlier).2 .text
  rw [ran] at sent
  refine ⟨_, congrArg Prod.fst sent, ?_⟩
  intro answered
  have served := Call.run_served ran
  have stored := serve_messages start earlier
  rw [fresh, List.nil_append] at stored
  cases served with
  | failed => exact absurd rfl answered
  | inserted inserts => cases inserts
  | @history _ rows written matching value =>
      let elements := rows.map fun row =>
        messageDocument row.chatId row.senderId row.messageText
      have dumped : (listDocument elements).dump Key.name = .ok written.text := by
        rw [← value]
        exact written.dumped
      have same : elements.Perm (delivered chatId (serve start earlier).1) := by
        rw [delivered_eq, ← stored]
        exact matching.map _
      refine ⟨elements, dumped, same, ?_⟩
      change written.text = ascii "null" ↔ _
      constructor
      · intro null
        rw [null] at dumped
        rw [listDocument_null dumped] at same
        exact List.nil_perm.mp same
      · intro none
        rw [none, List.perm_nil] at same
        rw [same] at dumped
        exact (Except.ok.inj dumped).symm

/-- Every operation goes through, and draws the id 1. -/
def noteDraws : List Reference.postgres.Chance :=
  [⟨true, 1⟩, ⟨true, 1⟩, ⟨true, 1⟩]

def noteRun : List (Arrival Reference.postgres) :=
  [⟨.addUser (ascii "ann"), noteDraws⟩, ⟨.addChat (ascii "notes"), noteDraws⟩,
    ⟨.addMessage 1 1 (ascii " it's 2'"), noteDraws⟩]

/-- The history is answered. -/
private theorem noteRun_answered :
    (onMessage noteDraws (serve .empty noteRun).2
      (ClientRequest.getChatHistory 1).payload .text).1.map Message.payload ≠ [ascii "FAIL"] := by
  decide +kernel

theorem history_delivers_note :
    (serve .empty noteRun).2.messages = [⟨1, 1, ascii " it's 2'"⟩] ∧
      ∃ message,
        (onMessage noteDraws (serve .empty noteRun).2
          (ClientRequest.getChatHistory 1).payload .text).1 = [message] ∧
        message.payload ≠ ascii "FAIL" ∧
          ∃ elements,
            (listDocument elements).dump Key.name = .ok message.payload ∧
              elements.Perm (delivered 1 (serve .empty noteRun).1) ∧
              (message.payload = ascii "null" ↔
                delivered 1 (serve .empty noteRun).1 = []) := by
  refine ⟨by decide +kernel, ?_⟩
  obtain ⟨message, sent, delivers⟩ :=
    history_delivers Reference.postgres .empty rfl noteRun noteDraws 1 (by decide)
  have given : message.payload ≠ ascii "FAIL" := by
    intro failed
    apply noteRun_answered
    rw [sent, List.map_singleton, failed]
  exact ⟨message, sent, given, delivers given⟩

end BpkMessenger.Client
