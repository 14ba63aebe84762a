import BpkMessenger.Server.Service

namespace BpkMessenger.Server

open Text Sql

/-! The methods, run by any PostgreSQL through their statement texts, do what
`Served` says. -/

variable {pg : Postgres}

theorem exec_insert {chance : pg.Chance} {store after : Store} {text : Bytes}
    {rows : List Row} {row : NewRow}
    (lexed : lex (cString text) = .ok (Statement.insert row).tokens)
    (executed : pg.exec chance store text = .ok (rows, after)) :
    validUtf8 row.text = true ∧
      ∃ stored, row.Stores stored ∧ after.toTables = store.toTables.add stored := by
  have permitted := pg.documented chance store text (.insert row) lexed
  rw [executed] at permitted
  exact permitted.2

theorem exec_select {chance : pg.Chance} {store after : Store} {text : Bytes}
    {rows : List Row} {query : Query}
    (lexed : lex (cString text) = .ok (Statement.select query).tokens)
    (executed : pg.exec chance store text = .ok (rows, after)) :
    after = store ∧ rows.Perm (query.rows store.toTables) := by
  have permitted := pg.documented chance store text (.select query) lexed
  rw [executed] at permitted
  exact permitted.2

theorem exec_copy {chance : pg.Chance} {store after : Store} {text : Bytes}
    {rows : List Row} {query : Query}
    (lexed : lex (cString text) = .ok (Statement.copy query).tokens)
    (executed : pg.exec chance store text = .ok (rows, after)) :
    query.WellTyped ∧ rows.Perm (query.rows store.toTables) := by
  have permitted := pg.documented chance store text (.copy query) lexed
  rw [executed] at permitted
  exact ⟨permitted.1, permitted.2.2⟩

theorem not_unterminated {chance : pg.Chance} {store : Store} {text : Bytes}
    {outcome : List Row × Store}
    (executed : pg.exec chance store text = .ok outcome) :
    lex (cString text) ≠ .error .unterminated := by
  intro lexed
  obtain ⟨error, failed⟩ := pg.malformed chance store text lexed
  rw [failed] at executed
  contradiction

private theorem served_insert {call : Call} {row : NewRow} {text : Bytes}
    {chances : List pg.Chance} {store after : Store} {reply : Reply}
    (inserts : call.newRow = some row)
    (lexed : 0 ∉ row.text → lex (cString text) = .ok (Statement.insert row).tokens)
    (cut : 0 ∈ row.text → lex (cString text) = .error .unterminated)
    (ran : execute text chances store = (reply, after)) :
    Served store call reply after := by
  rcases execute_cases ran with ⟨rfl, rfl⟩ | ⟨rfl, chance, rows, executed⟩
  · exact .failed
  · have clean : 0 ∉ row.text := fun member => not_unterminated executed (cut member)
    obtain ⟨encoded, stored, stores, added⟩ := exec_insert (lexed clean) executed
    exact .inserted inserts clean encoded stores added

theorem written_eq_ok {value : Json Key} {reply : Reply}
    (returned : written value = .ok reply) :
    ∃ document : Document, reply = .document document ∧ document.value = value := by
  unfold written at returned
  split at returned
  · cases returned
    exact ⟨_, rfl, rfl⟩
  · contradiction

theorem written_document (document : Document) :
    written document.value = .ok (.document document) := by
  obtain ⟨value, text, dumped⟩ := document
  unfold written
  split
  · next same =>
      rw [dumped] at same
      cases same
      rfl
  · next failed =>
      rw [dumped] at failed
      contradiction

private theorem foldlM_pushed_array {f : α → Row} {element : α → Json Key}
    {step : Json Key → Row → Except DatabaseException (Json Key)}
    (steps : ∀ j x, step j (f x) = pushed j (element x)) (xs : List α)
    (elements : List (Json Key)) :
    (xs.map f).foldlM step (.array elements) =
      .ok (.array (elements ++ xs.map element)) := by
  induction xs generalizing elements with
  | nil => simp [pure, Except.pure]
  | cons x xs induction =>
      rw [List.map_cons, List.foldlM_cons, steps]
      change (xs.map f).foldlM step (.array (elements ++ [element x])) = _
      rw [induction]
      simp

private theorem foldlM_pushed {f : α → Row} (element : α → Json Key)
    {step : Json Key → Row → Except DatabaseException (Json Key)}
    (steps : ∀ j x, step j (f x) = pushed j (element x)) (xs : List α) :
    (xs.map f).foldlM step .null = .ok (listDocument (xs.map element)) := by
  cases xs with
  | nil => rfl
  | cons x xs =>
      rw [List.map_cons, List.foldlM_cons, steps]
      change (xs.map f).foldlM step (.array [element x]) = _
      rw [foldlM_pushed_array steps]
      rfl

section Methods

variable {chances : List pg.Chance} {store after : Store} {reply : Reply}

/-- A query that is answered, not FAIL, was read from the matching records. -/
private theorem answer_records {query : Query} {text : Bytes}
    {read : List Row → Except DatabaseException Reply} {f : α → Row} {records : List α}
    (lexed : lex (cString (copyText text)) ≠ .error .unterminated →
      lex (cString (copyText text)) = .ok (Statement.copy query).tokens)
    (matching : query.rows store.toTables = records.map f)
    (ran : answer text read chances store = (reply, after)) :
    after = store ∧
      (reply = .fail ∨ ∃ found : List α, found.Perm records ∧ read (found.map f) = .ok reply) := by
  obtain ⟨same, failed | ⟨chance, rows, working, executed, returned⟩⟩ := answer_cases ran
  · exact ⟨same, .inl failed⟩
  · have perm := (exec_copy (lexed (not_unterminated executed)) executed).2
    rw [matching] at perm
    obtain ⟨found, foundPerm, rfl⟩ := perm_map_inv perm
    exact ⟨same, .inr ⟨found, foundPerm, returned⟩⟩

/-- The records found are none of those with this key, or begin with one. -/
private theorem found_cases {found records : List α} {key : α → β} [DecidableEq β] {value : β}
    (perm : found.Perm (records.filter fun record => key record = value)) :
    found = [] ∧ (∀ record ∈ records, key record ≠ value) ∨
      ∃ record ∈ records, key record = value ∧ ∃ rest, found = record :: rest := by
  cases found with
  | nil =>
      refine .inl ⟨rfl, fun record member same => ?_⟩
      have listed := perm.symm.subset (List.mem_filter.mpr ⟨member, decide_eq_true same⟩)
      exact absurd listed List.not_mem_nil
  | cons record rest =>
      obtain ⟨member, same⟩ := List.mem_filter.mp (perm.subset List.mem_cons_self)
      exact .inr ⟨record, member, of_decide_eq_true same, rest, rfl⟩

theorem findUser_served {userName : Bytes}
    (ran : Database.findUser userName chances store = (reply, after)) :
    Served store (.findUser userName) reply after := by
  obtain ⟨rfl, rfl | ⟨found, perm, read⟩⟩ := answer_records (fun whole =>
    Database.lex_findUserText fun member =>
      whole (Database.lex_findUserText_cut member)) rfl ran
  · exact .failed
  rcases found_cases perm with ⟨rfl, missing⟩ | ⟨row, member, same, rest, rfl⟩
  · cases read
    exact .noUserNamed missing
  · obtain ⟨document, rfl, value⟩ := written_eq_ok read
    exact .userNamed member same value

theorem findUser_missing {first second : pg.Chance} {rest : List pg.Chance}
    {working : Store} {userName : Bytes}
    (begins : pg.begins first = true)
    (executed : pg.exec second store (copyText (Database.findUserText userName)) =
      .ok ([], working)) :
    Database.findUser userName (first :: second :: rest) store = (.userNotFound, store) :=
  answer_of_exec begins executed rfl

theorem getUserName_served {userId : SizeT}
    (ran : Database.getUserName userId chances store = (reply, after)) :
    Served store (.getUserName userId) reply after := by
  have lexed := Database.lex_getUserNameText userId
  obtain ⟨rfl, rfl | ⟨found, perm, read⟩⟩ := answer_records (fun _ => lexed) rfl ran
  · exact .failed
  rw [decimalValue_decimal] at perm
  rcases found_cases perm with ⟨rfl, missing⟩ | ⟨row, member, same, rest, rfl⟩
  · cases read
    exact .noUser fun ⟨row, member, same⟩ => missing row member same
  · obtain ⟨document, rfl, value⟩ := written_eq_ok read
    exact .user member same value

theorem getTrelloToken_served {userId : SizeT}
    (ran : Database.getTrelloToken userId chances store = (reply, after)) :
    Served store (.getTrelloToken userId) reply after := by
  have lexed := Database.lex_getTrelloTokenText userId
  obtain ⟨rfl, rfl | ⟨found, perm, read⟩⟩ := answer_records (fun _ => lexed) rfl ran
  · exact .failed
  rcases found_cases perm with ⟨rfl, missing⟩ | ⟨row, member, same, rest, rfl⟩
  · obtain ⟨document, rfl, value⟩ := written_eq_ok read
    exact .noToken missing value
  · obtain ⟨document, rfl, value⟩ := written_eq_ok read
    exact .token member same value

theorem getChatHistory_served {chatId : SizeT}
    (ran : Database.getChatHistory chatId chances store = (reply, after)) :
    Served store (.getChatHistory chatId) reply after := by
  have lexed := Database.lex_getChatHistoryText chatId
  obtain ⟨rfl, rfl | ⟨found, perm, read⟩⟩ := answer_records (fun _ => lexed) rfl ran
  · exact .failed
  rw [foldlM_pushed (fun row : MessageRow =>
    messageDocument chatId.toNat row.senderId row.messageText)
    (fun j row => rfl)] at read
  obtain ⟨document, rfl, value⟩ := written_eq_ok read
  refine .history perm (value.trans (congrArg listDocument ?_))
  apply List.map_congr_left
  intro row member
  have same := of_decide_eq_true (List.mem_filter.mp (perm.subset member)).2
  rw [same]

theorem getChatHistory_reads {first second : pg.Chance} {working : Store} {chatId : SizeT}
    {rows : List MessageRow} {document : Document} (begins : pg.begins first = true)
    (executed : pg.exec second store (copyText (Database.getChatHistoryText chatId)) =
      .ok (rows.map MessageRow.fields, working))
    (value : document.value = listDocument (rows.map fun row =>
      messageDocument chatId.toNat row.senderId row.messageText)) :
    Database.getChatHistory chatId [first, second] store = (.document document, store) := by
  apply answer_of_exec begins executed
  rw [foldlM_pushed (fun row : MessageRow =>
    messageDocument chatId.toNat row.senderId row.messageText) (fun j row => rfl), ← value]
  exact written_document document

theorem getChatList_served {userId : SizeT}
    (ran : Database.getChatList userId chances store = (reply, after)) :
    Served store (.getChatList userId) reply after := by
  have lexed := Database.lex_getChatListText userId
  obtain ⟨rfl, rfl | ⟨found, perm, read⟩⟩ := answer_records (fun _ => lexed) rfl ran
  · exact .failed
  rw [foldlM_pushed (fun row : LinkRow =>
    .object [(.chatId, .number row.chatId)]) (fun j row => rfl)] at read
  obtain ⟨document, rfl, value⟩ := written_eq_ok read
  exact .chatList perm value

theorem getChatMembers_served {chatId : SizeT}
    (ran : Database.getChatMembers chatId chances store = (reply, after)) :
    Served store (.getChatMembers chatId) reply after := by
  have lexed := Database.lex_getChatMembersText chatId
  obtain ⟨rfl, rfl | ⟨found, perm, read⟩⟩ := answer_records (fun _ => lexed) rfl ran
  · exact .failed
  rw [foldlM_pushed (fun row : LinkRow =>
    .object [(.userId, .number row.userId)]) (fun j row => rfl)] at read
  obtain ⟨document, rfl, value⟩ := written_eq_ok read
  exact .members perm value

theorem getChatName_served {chatId : SizeT}
    (ran : Database.getChatName chatId chances store = (reply, after)) :
    Served store (.getChatName chatId) reply after := by
  have lexed := Database.lex_getChatNameText chatId
  obtain ⟨rfl, rfl | ⟨found, perm, read⟩⟩ := answer_records (fun _ => lexed) rfl ran
  · exact .failed
  rcases filter_key_cases after.consistent.chatIds chatId.toNat with
    ⟨missing, none⟩ | ⟨row, member, same, one⟩
  · rw [none, List.perm_nil] at perm
    subst perm
    change written .null = .ok reply at read
    obtain ⟨document, rfl, value⟩ := written_eq_ok read
    exact .noChat (fun ⟨row, member, same⟩ => missing row member same) value
  · rw [one, List.perm_singleton] at perm
    subst perm
    change written (chatDocument chatId.toNat row.chatName) = .ok reply at read
    obtain ⟨document, rfl, value⟩ := written_eq_ok read
    exact .chat member same (by rw [value, same])

theorem getChatId_served {chatName : Bytes}
    (ran : Database.getChatId chatName chances store = (reply, after)) :
    Served store (.getChatId chatName) reply after := by
  obtain ⟨rfl, rfl | ⟨found, perm, read⟩⟩ := answer_records (fun whole =>
    Database.lex_getChatIdText fun member =>
      whole (Database.lex_getChatIdText_cut member)) rfl ran
  · exact .failed
  rcases filter_key_cases after.consistent.chatNames chatName with
    ⟨missing, none⟩ | ⟨row, member, same, one⟩
  · rw [none, List.perm_nil] at perm
    subst perm
    change written .null = .ok reply at read
    obtain ⟨document, rfl, value⟩ := written_eq_ok read
    exact .noChatNamed missing value
  · rw [one, List.perm_singleton] at perm
    subst perm
    change written (chatDocument row.chatId (doubleQuotes chatName)) = .ok reply at read
    obtain ⟨document, rfl, value⟩ := written_eq_ok read
    exact .chatNamed member same value

theorem linkUserToChat_served {userId chatId : SizeT}
    (ran : Database.linkUserToChat userId chatId chances store = (reply, after)) :
    Served store (.linkUserToChat userId chatId) reply after := by
  rcases linkUserToChat_cases ran with
    ⟨rfl, rfl⟩ | ⟨rfl, chance, rows, working, checked, rest⟩
  · exact .failed
  obtain ⟨rfl, perm⟩ := exec_select (Database.lex_checkLinkText userId chatId) checked
  obtain ⟨found, foundPerm, rfl⟩ := perm_map_inv perm
  rcases rest with ⟨some, rfl⟩ | ⟨none, second, inserted, executed⟩
  · obtain ⟨row, member⟩ := List.exists_mem_of_ne_nil found (by simpa using some)
    obtain ⟨stored, same⟩ := List.mem_filter.mp (foundPerm.subset member)
    obtain ⟨sameUser, sameChat⟩ := of_decide_eq_true same
    apply Served.linkedBefore
    rw [Tables.Linked, ← sameUser, ← sameChat]
    exact stored
  · rw [List.map_eq_nil_iff] at none
    subst none
    obtain ⟨_, stored, stores, added⟩ :=
      exec_insert (Database.lex_insertLinkText userId chatId) executed
    cases stores
    refine .linked (fun linked => ?_) added
    have listed := foundPerm.symm.subset (List.mem_filter.mpr ⟨linked, by simp⟩)
    simp at listed

end Methods

theorem Call.run_served {call : Call} {chances : List pg.Chance}
    {store after : Store} {reply : Reply}
    (ran : call.run chances store = (reply, after)) :
    Served store call reply after := by
  cases call with
  | findUser userName => exact findUser_served ran
  | addUser userName =>
      exact served_insert rfl (fun clean => Database.lex_addUserText clean)
        (fun cut => Database.lex_addUserText_cut cut) ran
  | addChat chatName =>
      exact served_insert rfl (fun clean => Database.lex_addChatText clean)
        (fun cut => Database.lex_addChatText_cut cut) ran
  | addMessage chatId senderId messageText =>
      exact served_insert rfl
        (fun clean => Database.lex_addMessageText chatId senderId clean)
        (fun cut => Database.lex_addMessageText_cut chatId senderId cut) ran
  | linkUserToChat userId chatId => exact linkUserToChat_served ran
  | getChatName chatId => exact getChatName_served ran
  | getChatId chatName => exact getChatId_served ran
  | getChatHistory chatId => exact getChatHistory_served ran
  | getChatList userId => exact getChatList_served ran
  | setTrelloToken userId trelloToken =>
      exact served_insert rfl
        (fun clean => Database.lex_setTrelloTokenText userId clean)
        (fun cut => Database.lex_setTrelloTokenText_cut userId cut) ran
  | getTrelloToken userId => exact getTrelloToken_served ran
  | getChatMembers chatId => exact getChatMembers_served ran
  | getUserName userId => exact getUserName_served ran

end BpkMessenger.Server
