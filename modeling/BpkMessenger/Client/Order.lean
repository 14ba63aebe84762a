import BpkMessenger.Client.Delivery
import BpkMessenger.Client.Membership

namespace BpkMessenger.Server

open Text

/-! The messages of a chat, which neither a column nor the query puts in an order. -/

/-- The service when its scans start one row further on, and come back to the first. -/
def Postgres.rotated (pg : Postgres) : Postgres where
  Chance := pg.Chance
  begins := pg.begins
  commits := pg.commits
  exec chance store text :=
    (pg.exec chance store text).map fun outcome => (outcome.1.rotate 1, outcome.2)
  documented := by
    intro chance store text statement lexed
    have permitted := pg.documented chance store text statement lexed
    cases outcome : pg.exec chance store text with
    | error error =>
        rw [outcome] at permitted
        exact permitted
    | ok result =>
        obtain ⟨rows, after⟩ := result
        rw [outcome] at permitted
        cases statement with
        | insert row =>
            obtain ⟨none, rest⟩ := permitted
            exact ⟨by rw [none]; rfl, rest⟩
        | select query =>
            obtain ⟨typed, same, perm⟩ := permitted
            exact ⟨typed, same, (List.rotate_perm rows 1).trans perm⟩
        | copy query =>
            obtain ⟨typed, same, perm⟩ := permitted
            exact ⟨typed, same, (List.rotate_perm rows 1).trans perm⟩
  malformed := by
    intro chance store text lexed
    obtain ⟨error, failed⟩ := pg.malformed chance store text lexed
    exact ⟨error, by rw [failed]; rfl⟩

/-! Messages can be written as JSON. -/

theorem dump_message (chatId senderId : Nat) {messageText : Bytes}
    (valid : validUtf8 messageText = true) :
    ∃ text, (messageDocument chatId senderId messageText).dump Key.name = .ok text := by
  have name (key : Key) : validUtf8 key.name = true := by cases key <;> decide
  simp only [messageDocument, Json.dump, Json.dumpMembers, Json.dumpString, name, valid,
    if_true]
  exact ⟨_, rfl⟩

theorem dump_messages {rows : List MessageRow} (chatId : Nat)
    (valid : ∀ row ∈ rows, validUtf8 row.messageText = true) :
    ∃ text, (listDocument (rows.map fun row =>
      messageDocument chatId row.senderId row.messageText)).dump Key.name = .ok text := by
  have body : ∃ text, Json.dumpElements Key.name (rows.map fun row =>
      messageDocument chatId row.senderId row.messageText) = .ok text := by
    induction rows with
    | nil => exact ⟨_, rfl⟩
    | cons row rows induction =>
        obtain ⟨others, dumped⟩ := induction fun other member =>
          valid other (List.mem_cons_of_mem row member)
        obtain ⟨first, written⟩ := dump_message chatId row.senderId
          (valid row List.mem_cons_self)
        simp only [List.map_cons, Json.dumpElements, written, dumped]
        exact ⟨_, rfl⟩
  obtain ⟨text, dumped⟩ := body
  cases rows with
  | nil => exact ⟨_, rfl⟩
  | cons row rows =>
      simp only [List.map_cons] at dumped ⊢
      simp only [listDocument, Json.dump, dumped]
      exact ⟨_, rfl⟩

theorem Served.messages_valid {store after : Store} {call : Call} {reply : Reply}
    (served : Served store call reply after)
    (valid : ∀ row ∈ store.messages, validUtf8 row.messageText = true) :
    ∀ row ∈ after.messages, validUtf8 row.messageText = true := by
  cases served with
  | @inserted call row stored after inserts clean encoded stores added =>
      rw [added]
      cases stores with
      | message =>
          intro other member
          rcases List.mem_append.mp member with earlier | new
          · exact valid other earlier
          · rw [List.mem_singleton.mp new]
            exact encoded
      | _ => exact valid
  | linked unlinked added =>
      rw [added]
      exact valid
  | _ => exact valid

/-- A service may answer a history request with the rows in rotated order. -/
theorem getChatHistory_rotated {store : Store} (chatId : SizeT)
    (valid : ∀ row ∈ store.messages, validUtf8 row.messageText = true) :
    ∃ document : Document,
      Call.run (.getChatHistory chatId)
          ([⟨true, 0⟩, ⟨true, 0⟩] : List Reference.postgres.rotated.Chance) store =
        (.document document, store) ∧
      document.value.elements =
        ((store.messages.filter fun row => row.chatId = chatId.toNat).map fun row =>
          messageDocument row.chatId row.senderId row.messageText).rotate 1 := by
  let matching := store.messages.filter fun row => row.chatId = chatId.toNat
  have inside : ∀ row ∈ matching.rotate 1, row ∈ store.messages ∧
      row.chatId = chatId.toNat := by
    intro row member
    have found := List.mem_filter.mp (List.mem_rotate.mp member)
    exact ⟨found.1, of_decide_eq_true found.2⟩
  obtain ⟨text, dumped⟩ := dump_messages chatId.toNat fun row member =>
    valid row (inside row member).1
  have executed : Reference.postgres.rotated.exec ⟨true, 0⟩ store
      (copyText (Database.getChatHistoryText chatId)) =
        .ok ((matching.rotate 1).map MessageRow.fields, store) := by
    simp only [Postgres.rotated, Reference.postgres]
    rw [Reference.run_copy rfl (Database.lex_getChatHistoryText chatId) trivial]
    simp only [Query.rows, Except.map, List.map_rotate]
    rfl
  refine ⟨⟨_, text, dumped⟩, getChatHistory_reads rfl executed rfl, ?_⟩
  rw [elements_listDocument, ← List.map_rotate]
  apply List.map_congr_left
  intro row member
  rw [(inside row member).2]

end BpkMessenger.Server

namespace BpkMessenger.Client

open Text Server

/-! The order of a chat's history over runs. -/

variable {pg : Postgres}

theorem serve_valid {store : Store} (arrivals : List (Arrival pg))
    (valid : ∀ row ∈ store.messages, validUtf8 row.messageText = true) :
    ∀ row ∈ (serve store arrivals).2.messages, validUtf8 row.messageText = true := by
  induction arrivals generalizing store with
  | nil => exact valid
  | cons arrival later induction =>
      simp only [serve]
      apply induction
      rcases onMessage_request arrival.chances store arrival.request with silent |
        ⟨reply, after, ⟨call, encodes, served⟩, answered⟩
      · rw [silent]
        exact valid
      · rw [answered]
        exact served.messages_valid valid

theorem delivered_rows (start : Store) (fresh : start.messages = [])
    (arrivals : List (Arrival pg)) (chatId : SizeT) :
    delivered chatId (serve start arrivals).1 =
      ((serve start arrivals).2.messages.filter fun row => row.chatId = chatId.toNat).map
        fun row => messageDocument row.chatId row.senderId row.messageText := by
  rw [delivered_eq, serve_messages, fresh, List.nil_append]

theorem serve_append (store : Store) (arrivals later : List (Arrival pg)) :
    (serve store (arrivals ++ later)).1 =
      (serve store arrivals).1 ++ (serve (serve store arrivals).2 later).1 := by
  induction arrivals generalizing store with
  | nil => rfl
  | cons arrival rest induction =>
      simp only [List.cons_append, serve]
      rw [induction]

/-- Whatever order the service chooses, a history is in the order in which its messages
were answered SUCCESS: that is so exactly as long as they are all the same. -/
theorem history_ordered_iff (pg : Postgres) (start : Store) (fresh : start.messages = [])
    (arrivals : List (Arrival pg)) (chatId : SizeT) (accepted : chatId.toNat < 2 ^ 31) :
    ((∀ (service : Postgres) (chances : List service.Chance) (written : Document),
      (onMessage chances (serve start arrivals).2
          (ClientRequest.getChatHistory chatId).payload .text).1 =
            [⟨.text, .reply (.document written)⟩] →
        written.value.elements = delivered chatId (serve start arrivals).1) ↔
      ∀ first ∈ delivered chatId (serve start arrivals).1,
        ∀ second ∈ delivered chatId (serve start arrivals).1, first = second) ∧
    ∀ later, delivered chatId (serve start arrivals).1 <+:
      delivered chatId (serve start (arrivals ++ later)).1 := by
  have dispatched := dispatch_of_spelled (spelled_getChatHistory accepted)
  have rows := delivered_rows start fresh arrivals chatId
  refine ⟨⟨fun ordered => ?_, fun same service chances written sent => ?_⟩, fun later => ?_⟩
  · have none : ∀ row ∈ start.messages, validUtf8 row.messageText = true := by simp [fresh]
    have valid := serve_valid arrivals none
    obtain ⟨document, ran, elements⟩ := getChatHistory_rotated chatId valid
    have kept := ordered Reference.postgres.rotated [⟨true, 0⟩, ⟨true, 0⟩] document (by
      rw [onMessage_call dispatched, ran])
    rw [elements, ← rows] at kept
    have inhabited : Nonempty (Json Key) := ⟨.null⟩
    obtain ⟨message, constant⟩ := List.rotate_one_eq_self_iff_eq_replicate.mp kept
    rw [constant]
    intro first firstMember second secondMember
    exact (List.eq_of_mem_replicate firstMember).trans
      (List.eq_of_mem_replicate secondMember).symm
  · rw [onMessage_call dispatched] at sent
    rcases ran : Call.run (.getChatHistory chatId) chances (serve start arrivals).2 with
      ⟨reply, after⟩
    rw [ran] at sent
    cases sent
    cases Call.run_served ran with
    | history matching value =>
        have perm := matching.map fun row =>
          messageDocument row.chatId row.senderId row.messageText
        rw [← rows] at perm
        rw [value, elements_listDocument]
        cases messages : delivered chatId (serve start arrivals).1 with
        | nil => rw [messages] at perm; exact List.perm_nil.mp perm
        | cons message others =>
            have constant : message :: others =
                List.replicate (others.length + 1) message := by
              rw [List.eq_replicate_iff]
              refine ⟨rfl, fun other member => ?_⟩
              apply same <;> simp [messages, member]
            rw [messages, constant, List.perm_replicate] at perm
            rw [perm, ← constant]
  · rw [serve_append, delivered, delivered, List.filterMap_append]
    exact List.prefix_append _ _

def twoMessages : List (Arrival Reference.postgres) :=
  [⟨.addMessage 1 1 (ascii "hi"), noteDraws⟩, ⟨.addMessage 1 1 (ascii "bye"), noteDraws⟩]

/-- The same message twice. -/
def sameMessages : List (Arrival Reference.postgres) :=
  [⟨.addMessage 1 1 (ascii "hi"), noteDraws⟩, ⟨.addMessage 1 1 (ascii "hi"), noteDraws⟩]

theorem history_ordered_iff_hi :
    (delivered 1 (serve annAlone sameMessages).1).length = 2 ∧
      ((∀ (service : Postgres) (chances : List service.Chance) (written : Document),
        (onMessage chances (serve annAlone sameMessages).2
            (ClientRequest.getChatHistory 1).payload .text).1 =
              [⟨.text, .reply (.document written)⟩] →
          written.value.elements = delivered 1 (serve annAlone sameMessages).1) ↔
        ∀ first ∈ delivered 1 (serve annAlone sameMessages).1,
          ∀ second ∈ delivered 1 (serve annAlone sameMessages).1, first = second) ∧
      ∀ later, delivered 1 (serve annAlone sameMessages).1 <+:
        delivered 1 (serve annAlone (sameMessages ++ later)).1 :=
  ⟨by decide +kernel,
    history_ordered_iff Reference.postgres annAlone rfl sameMessages 1 (by decide)⟩

/-- Two messages, the second shown before the first. -/
theorem history_unordered :
    ∃ (chances : List Reference.postgres.rotated.Chance) (written : Document),
      (onMessage chances (serve annAlone twoMessages).2
          (ClientRequest.getChatHistory 1).payload .text).1 =
            [⟨.text, .reply (.document written)⟩] ∧
        written.value.elements ≠ delivered 1 (serve annAlone twoMessages).1 := by
  have messages : (serve annAlone twoMessages).2.messages =
      [⟨1, 1, ascii "hi"⟩, ⟨1, 1, ascii "bye"⟩] := by decide +kernel
  have dispatched := dispatch_of_spelled
    (spelled_getChatHistory (show (1 : SizeT).toNat < 2 ^ 31 by decide))
  have none : ∀ row ∈ annAlone.messages, validUtf8 row.messageText = true := by
    simp [annAlone]
  obtain ⟨document, ran, elements⟩ := getChatHistory_rotated 1 (serve_valid twoMessages none)
  refine ⟨[⟨true, 0⟩, ⟨true, 0⟩], document, ?_, ?_⟩
  · rw [onMessage_call dispatched, ran]
  · rw [elements, delivered_rows annAlone rfl, messages]
    intro same
    simp [messageDocument, ascii] at same

end BpkMessenger.Client
