import BpkMessenger.Server.Database

namespace BpkMessenger.Server.Database

open Text Sql

/-! Every statement text lexes to its statement, whatever user text it carries. -/

/-- The statements up to their first value, and the lexer behind them: inside a
string constant where the value is quoted. -/
private def heads : List (Bytes × LexState) :=
  [(ascii "INSERT INTO Messages (chat_id, sender_id, message_text) Values (",
      ⟨[word "insert", word "into", word "messages", .symbol 40, word "chat_id",
        .symbol 44, word "sender_id", .symbol 44, word "message_text", .symbol 41,
        word "values", .symbol 40], .start⟩),
    (ascii "INSERT INTO UserID_TrelloToken (user_id, trello_token) Values (",
      ⟨[word "insert", word "into", word "userid_trellotoken", .symbol 40,
        word "user_id", .symbol 44, word "trello_token", .symbol 41, word "values",
        .symbol 40], .start⟩),
    (ascii "INSERT INTO Chats (chat_name) Values ('",
      ⟨[word "insert", word "into", word "chats", .symbol 40, word "chat_name",
        .symbol 41, word "values", .symbol 40], .string []⟩),
    (ascii "INSERT INTO Users (user_name) Values ('",
      ⟨[word "insert", word "into", word "users", .symbol 40, word "user_name",
        .symbol 41, word "values", .symbol 40], .string []⟩),
    (ascii "COPY (" ++ ascii "SELECT user_id, user_name FROM Users WHERE user_name = '",
      ⟨[word "copy", .symbol 40, word "select", word "user_id", .symbol 44,
        word "user_name", word "from", word "users", word "where", word "user_name",
        .operator 61], .string []⟩),
    (ascii "COPY (" ++ ascii "SELECT chat_id, chat_name FROM Chats WHERE chat_name = '",
      ⟨[word "copy", .symbol 40, word "select", word "chat_id", .symbol 44,
        word "chat_name", word "from", word "chats", word "where", word "chat_name",
        .operator 61], .string []⟩),
    (ascii "COPY (" ++ ascii "SELECT user_id, user_name FROM Users WHERE user_id = '",
      ⟨[word "copy", .symbol 40, word "select", word "user_id", .symbol 44,
        word "user_name", word "from", word "users", word "where", word "user_id",
        .operator 61], .string []⟩),
    (ascii "COPY (" ++
        ascii "SELECT chat_id, sender_id, message_text FROM Messages WHERE chat_id = ",
      ⟨[word "copy", .symbol 40, word "select", word "chat_id", .symbol 44,
        word "sender_id", .symbol 44, word "message_text", word "from",
        word "messages", word "where", word "chat_id", .operator 61], .start⟩),
    (ascii "COPY (" ++ ascii "SELECT chat_id, chat_name FROM Chats WHERE chat_id = ",
      ⟨[word "copy", .symbol 40, word "select", word "chat_id", .symbol 44,
        word "chat_name", word "from", word "chats", word "where", word "chat_id",
        .operator 61], .start⟩),
    (ascii "COPY (" ++
        ascii "SELECT user_id, chat_id FROM UserID_ChatID WHERE user_id = ",
      ⟨[word "copy", .symbol 40, word "select", word "user_id", .symbol 44,
        word "chat_id", word "from", word "userid_chatid", word "where",
        word "user_id", .operator 61], .start⟩),
    (ascii "COPY (" ++
        ascii "SELECT user_id, chat_id FROM UserID_ChatID WHERE chat_id = ",
      ⟨[word "copy", .symbol 40, word "select", word "user_id", .symbol 44,
        word "chat_id", word "from", word "userid_chatid", word "where",
        word "chat_id", .operator 61], .start⟩),
    (ascii "COPY (" ++
        ascii "SELECT user_id, trello_token FROM UserID_TrelloToken WHERE user_id = ",
      ⟨[word "copy", .symbol 40, word "select", word "user_id", .symbol 44,
        word "trello_token", word "from", word "userid_trellotoken", word "where",
        word "user_id", .operator 61], .start⟩),
    (ascii "INSERT INTO UserID_ChatID (user_id, chat_id) Values (",
      ⟨[word "insert", word "into", word "userid_chatid", .symbol 40, word "user_id",
        .symbol 44, word "chat_id", .symbol 41, word "values", .symbol 40], .start⟩),
    (ascii "SELECT user_id, chat_id FROM UserID_ChatID WHERE user_id = ",
      ⟨[word "select", word "user_id", .symbol 44, word "chat_id", word "from",
        word "userid_chatid", word "where", word "user_id", .operator 61], .start⟩)]

private theorem heads_run :
    ∀ head ∈ heads, (⟨[], .start⟩ : LexState).run head.1 = head.2 ∧ 0 ∉ head.1 := by
  decide +kernel

private theorem head_run {i : Nat} {before : Bytes} {state : LexState}
    (listed : heads[i]? = some (before, state)) :
    (⟨[], .start⟩ : LexState).run before = state ∧ 0 ∉ before :=
  heads_run (before, state) (List.mem_of_getElem? listed)

/-! Texts that carry a user text. -/

private theorem run_addMessageText (chatId senderId : SizeT) :
    (⟨[], .start⟩ : LexState).run
        (ascii "INSERT INTO Messages (chat_id, sender_id, message_text) Values (" ++
          stdToString chatId ++ ascii ", " ++ stdToString senderId ++ ascii ", '") =
      ⟨[word "insert", word "into", word "messages", .symbol 40, word "chat_id",
        .symbol 44, word "sender_id", .symbol 44, word "message_text", .symbol 41,
        word "values", .symbol 40, number chatId.toNat, .symbol 44,
        number senderId.toNat, .symbol 44], .string []⟩ := by
  have keyword := (head_run (i := 0) rfl).1
  rw [LexState.run_append, LexState.run_append, LexState.run_append,
    LexState.run_append, keyword, stdToString, run_decimal]
  change ((⟨_, .start⟩ : LexState).run (stdToString senderId)).run (ascii ", '") = _
  rw [stdToString, run_decimal]
  rfl

private theorem addMessageText_clean (chatId senderId : SizeT) :
    0 ∉ ascii "INSERT INTO Messages (chat_id, sender_id, message_text) Values (" ++
      stdToString chatId ++ ascii ", " ++ stdToString senderId ++ ascii ", '" := by
  simp [stdToString, ascii]

private theorem run_setTrelloTokenText (userId : SizeT) :
    (⟨[], .start⟩ : LexState).run
        (ascii "INSERT INTO UserID_TrelloToken (user_id, trello_token) Values (" ++
          stdToString userId ++ ascii ", '") =
      ⟨[word "insert", word "into", word "userid_trellotoken", .symbol 40,
        word "user_id", .symbol 44, word "trello_token", .symbol 41, word "values",
        .symbol 40, number userId.toNat, .symbol 44], .string []⟩ := by
  have keyword := (head_run (i := 1) rfl).1
  rw [LexState.run_append, LexState.run_append, keyword, stdToString, run_decimal]
  rfl

private theorem setTrelloTokenText_clean (userId : SizeT) :
    0 ∉ ascii "INSERT INTO UserID_TrelloToken (user_id, trello_token) Values (" ++
      stdToString userId ++ ascii ", '" := by
  simp [stdToString, ascii]

private theorem copyText_constant (before text : Bytes) :
    copyText (before ++ doubleQuotes text ++ ascii "'") =
      (ascii "COPY (" ++ before) ++ doubleQuotes text ++
        39 :: ascii ") TO STDOUT" := by
  simp only [copyText, List.append_assoc, List.append_cancel_left_eq]
  rfl

theorem lex_addMessageText (chatId senderId : SizeT) {messageText : Bytes}
    (clean : 0 ∉ messageText) :
    lex (cString (addMessageText chatId senderId messageText)) =
      .ok (Statement.insert
        (.message chatId.toNat senderId.toNat messageText)).tokens :=
  lex_constant (run_addMessageText chatId senderId)
    (addMessageText_clean chatId senderId) (by decide) clean

theorem lex_setTrelloTokenText (userId : SizeT) {trelloToken : Bytes}
    (clean : 0 ∉ trelloToken) :
    lex (cString (setTrelloTokenText userId trelloToken)) =
      .ok (Statement.insert (.token userId.toNat trelloToken)).tokens :=
  lex_constant (run_setTrelloTokenText userId) (setTrelloTokenText_clean userId)
    (by decide) clean

theorem lex_addChatText {chatName : Bytes} (clean : 0 ∉ chatName) :
    lex (cString (addChatText chatName)) =
      .ok (Statement.insert (.chat chatName)).tokens := by
  have head := head_run (i := 2) rfl
  exact lex_constant head.1 head.2 (by decide) clean

theorem lex_addUserText {userName : Bytes} (clean : 0 ∉ userName) :
    lex (cString (addUserText userName)) =
      .ok (Statement.insert (.user userName)).tokens := by
  have head := head_run (i := 3) rfl
  exact lex_constant head.1 head.2 (by decide) clean

theorem lex_findUserText {userName : Bytes} (clean : 0 ∉ userName) :
    lex (cString (copyText (findUserText userName))) =
      .ok (Statement.copy (.userByName userName)).tokens := by
  have head := head_run (i := 4) rfl
  rw [findUserText, copyText_constant]
  exact lex_constant head.1 head.2 (by decide) clean

theorem lex_getChatIdText {chatName : Bytes} (clean : 0 ∉ chatName) :
    lex (cString (copyText (getChatIdText chatName))) =
      .ok (Statement.copy (.chatByName chatName)).tokens := by
  have head := head_run (i := 5) rfl
  rw [getChatIdText, copyText_constant]
  exact lex_constant head.1 head.2 (by decide) clean

theorem lex_getUserNameText (userId : SizeT) :
    lex (cString (copyText (getUserNameText userId))) =
      .ok (Statement.copy (.userById (decimal userId.toNat))).tokens := by
  have head := head_run (i := 6) rfl
  rw [getUserNameText, stdToString, ← doubleQuotes_decimal, copyText_constant,
    lex_constant head.1 head.2 (by decide) (zero_notMem_decimal _), doubleQuotes_decimal]
  rfl

/-! The same statements when the text has a NUL. -/

theorem lex_addMessageText_cut (chatId senderId : SizeT) {messageText : Bytes}
    (cut : 0 ∈ messageText) :
    lex (cString (addMessageText chatId senderId messageText)) =
      .error .unterminated :=
  lex_cut_constant (run_addMessageText chatId senderId)
    (addMessageText_clean chatId senderId) cut

theorem lex_setTrelloTokenText_cut (userId : SizeT) {trelloToken : Bytes}
    (cut : 0 ∈ trelloToken) :
    lex (cString (setTrelloTokenText userId trelloToken)) = .error .unterminated :=
  lex_cut_constant (run_setTrelloTokenText userId) (setTrelloTokenText_clean userId) cut

theorem lex_addChatText_cut {chatName : Bytes} (cut : 0 ∈ chatName) :
    lex (cString (addChatText chatName)) = .error .unterminated := by
  have head := head_run (i := 2) rfl
  exact lex_cut_constant head.1 head.2 cut

theorem lex_addUserText_cut {userName : Bytes} (cut : 0 ∈ userName) :
    lex (cString (addUserText userName)) = .error .unterminated := by
  have head := head_run (i := 3) rfl
  exact lex_cut_constant head.1 head.2 cut

theorem lex_findUserText_cut {userName : Bytes} (cut : 0 ∈ userName) :
    lex (cString (copyText (findUserText userName))) = .error .unterminated := by
  have head := head_run (i := 4) rfl
  rw [findUserText, copyText_constant]
  exact lex_cut_constant head.1 head.2 cut

theorem lex_getChatIdText_cut {chatName : Bytes} (cut : 0 ∈ chatName) :
    lex (cString (copyText (getChatIdText chatName))) = .error .unterminated := by
  have head := head_run (i := 5) rfl
  rw [getChatIdText, copyText_constant]
  exact lex_cut_constant head.1 head.2 cut

/-! Texts that carry ids only. -/

private theorem copyText_numeral (before numeral : Bytes) :
    copyText (before ++ numeral) =
      (ascii "COPY (" ++ before) ++ numeral ++ ascii ") TO STDOUT" := by
  simp only [copyText, List.append_assoc]

theorem lex_getChatHistoryText (chatId : SizeT) :
    lex (cString (copyText (getChatHistoryText chatId))) =
      .ok (Statement.copy (.messagesOf chatId.toNat)).tokens := by
  have head := head_run (i := 7) rfl
  rw [getChatHistoryText, copyText_numeral]
  exact lex_numeral _ head.1 head.2 (by decide)

theorem lex_getChatNameText (chatId : SizeT) :
    lex (cString (copyText (getChatNameText chatId))) =
      .ok (Statement.copy (.chatById chatId.toNat)).tokens := by
  have head := head_run (i := 8) rfl
  rw [getChatNameText, copyText_numeral]
  exact lex_numeral _ head.1 head.2 (by decide)

theorem lex_getChatListText (userId : SizeT) :
    lex (cString (copyText (getChatListText userId))) =
      .ok (Statement.copy (.linksOfUser userId.toNat)).tokens := by
  have head := head_run (i := 9) rfl
  rw [getChatListText, copyText_numeral]
  exact lex_numeral _ head.1 head.2 (by decide)

theorem lex_getChatMembersText (chatId : SizeT) :
    lex (cString (copyText (getChatMembersText chatId))) =
      .ok (Statement.copy (.linksOfChat chatId.toNat)).tokens := by
  have head := head_run (i := 10) rfl
  rw [getChatMembersText, copyText_numeral]
  exact lex_numeral _ head.1 head.2 (by decide)

theorem lex_getTrelloTokenText (userId : SizeT) :
    lex (cString (copyText (getTrelloTokenText userId))) =
      .ok (Statement.copy (.tokensOf userId.toNat)).tokens := by
  have head := head_run (i := 11) rfl
  rw [getTrelloTokenText, copyText_numeral]
  exact lex_numeral _ head.1 head.2 (by decide)

theorem lex_insertLinkText (userId chatId : SizeT) :
    lex (cString (insertLinkText userId chatId)) =
      .ok (Statement.insert (.link userId.toNat chatId.toNat)).tokens := by
  have head := head_run (i := 12) rfl
  have run : (⟨[], .start⟩ : LexState).run
      (ascii "INSERT INTO UserID_ChatID (user_id, chat_id) Values (" ++
        stdToString userId ++ ascii ", ") =
      ⟨[word "insert", word "into", word "userid_chatid", .symbol 40, word "user_id",
        .symbol 44, word "chat_id", .symbol 41, word "values", .symbol 40,
        number userId.toNat, .symbol 44], .start⟩ := by
    rw [LexState.run_append, LexState.run_append, head.1, stdToString, run_decimal]
    rfl
  exact lex_numeral _ run (by simp [stdToString, ascii]) (by decide)

theorem lex_checkLinkText (userId chatId : SizeT) :
    lex (cString (checkLinkText userId chatId)) =
      .ok (Statement.select (.link userId.toNat chatId.toNat)).tokens := by
  have head := head_run (i := 13) rfl
  have run : (⟨[], .start⟩ : LexState).run
      (ascii "SELECT user_id, chat_id FROM UserID_ChatID WHERE user_id = " ++
        stdToString userId ++ ascii " AND chat_id = ") =
      ⟨[word "select", word "user_id", .symbol 44, word "chat_id", word "from",
        word "userid_chatid", word "where", word "user_id", .operator 61,
        number userId.toNat, word "and", word "chat_id", .operator 61], .start⟩ := by
    rw [LexState.run_append, LexState.run_append, head.1, stdToString, run_decimal]
    rfl
  have read := lex_numeral chatId.toNat run (by simp [stdToString, ascii])
    List.not_mem_nil
  rw [List.append_nil] at read
  exact read

/-! User text and the six statements that carry it. -/

/-- A statement text as a function of the user text in it, with the statement it
is meant to be. -/
structure TextForm where
  text : Bytes → Bytes
  statement : Bytes → Statement

def textForms (chatId userId : SizeT) : List TextForm :=
  [⟨addMessageText chatId userId,
      fun text => .insert (.message chatId.toNat userId.toNat text)⟩,
    ⟨addChatText, fun text => .insert (.chat text)⟩,
    ⟨addUserText, fun text => .insert (.user text)⟩,
    ⟨fun text => copyText (findUserText text), fun text => .copy (.userByName text)⟩,
    ⟨fun text => copyText (getChatIdText text), fun text => .copy (.chatByName text)⟩,
    ⟨setTrelloTokenText userId, fun text => .insert (.token userId.toNat text)⟩]

theorem lex_textForm {chatId userId : SizeT} {form : TextForm}
    (member : form ∈ textForms chatId userId) {text : Bytes} (clean : 0 ∉ text) :
    lex (cString (form.text text)) = .ok (form.statement text).tokens := by
  simp only [textForms, List.mem_cons, List.not_mem_nil, or_false] at member
  rcases member with rfl | rfl | rfl | rfl | rfl | rfl
  · exact lex_addMessageText chatId userId clean
  · exact lex_addChatText clean
  · exact lex_addUserText clean
  · exact lex_findUserText clean
  · exact lex_getChatIdText clean
  · exact lex_setTrelloTokenText userId clean

theorem lex_textForm_cut {chatId userId : SizeT} {form : TextForm}
    (member : form ∈ textForms chatId userId) {text : Bytes} (cut : 0 ∈ text) :
    lex (cString (form.text text)) = .error .unterminated := by
  simp only [textForms, List.mem_cons, List.not_mem_nil, or_false] at member
  rcases member with rfl | rfl | rfl | rfl | rfl | rfl
  · exact lex_addMessageText_cut chatId userId cut
  · exact lex_addChatText_cut cut
  · exact lex_addUserText_cut cut
  · exact lex_findUserText_cut cut
  · exact lex_getChatIdText_cut cut
  · exact lex_setTrelloTokenText_cut userId cut

theorem textForm_tokens {chatId userId : SizeT} {form : TextForm}
    (member : form ∈ textForms chatId userId) :
    ∃ before after : List Token,
      (∀ token ∈ before ++ after, ∀ value, token ≠ .string value) ∧
        ∀ text, (form.statement text).tokens = before ++ .string text :: after := by
  simp only [textForms, List.mem_cons, List.not_mem_nil, or_false] at member
  rcases member with rfl | rfl | rfl | rfl | rfl | rfl
  · exact ⟨[word "insert", word "into", word "messages", .symbol 40, word "chat_id",
      .symbol 44, word "sender_id", .symbol 44, word "message_text", .symbol 41,
      word "values", .symbol 40, number chatId.toNat, .symbol 44,
      number userId.toNat, .symbol 44], [.symbol 41],
      by simp [word, number], fun text => rfl⟩
  · exact ⟨[word "insert", word "into", word "chats", .symbol 40, word "chat_name",
      .symbol 41, word "values", .symbol 40], [.symbol 41],
      by simp [word], fun text => rfl⟩
  · exact ⟨[word "insert", word "into", word "users", .symbol 40, word "user_name",
      .symbol 41, word "values", .symbol 40], [.symbol 41],
      by simp [word], fun text => rfl⟩
  · exact ⟨[word "copy", .symbol 40, word "select", word "user_id", .symbol 44,
      word "user_name", word "from", word "users", word "where",
      word "user_name", .operator 61], [.symbol 41, word "to", word "stdout"],
      by simp [word], fun text => rfl⟩
  · exact ⟨[word "copy", .symbol 40, word "select", word "chat_id", .symbol 44,
      word "chat_name", word "from", word "chats", word "where",
      word "chat_name", .operator 61], [.symbol 41, word "to", word "stdout"],
      by simp [word], fun text => rfl⟩
  · exact ⟨[word "insert", word "into", word "userid_trellotoken", .symbol 40,
      word "user_id", .symbol 44, word "trello_token", .symbol 41, word "values",
      .symbol 40, number userId.toNat, .symbol 44], [.symbol 41],
      by simp [word, number], fun text => rfl⟩

/-- No user text ends its constant: the statement is the intended one with the
text as the value of its only constant, or the text is cut at a NUL and the
constant never closes. -/
theorem userText_never_escapes (chatId userId : SizeT) :
    ∀ form ∈ textForms chatId userId,
      ∃ before after : List Token,
        (∀ token ∈ before ++ after, ∀ value, token ≠ .string value) ∧
          ∀ text : Bytes,
            (form.statement text).tokens = before ++ .string text :: after ∧
              (0 ∉ text → lex (cString (form.text text)) =
                .ok (form.statement text).tokens) ∧
              (0 ∈ text → lex (cString (form.text text)) = .error .unterminated) := by
  intro form member
  obtain ⟨before, after, plain, tokens⟩ := textForm_tokens member
  refine ⟨before, after, plain, fun text => ⟨tokens text, ?_, ?_⟩⟩
  · exact lex_textForm member
  · exact lex_textForm_cut member

theorem userText_never_escapes_quote :
    lex (cString (addUserText (ascii "'); DROP TABLE Users; --"))) =
      .ok (Statement.insert (.user (ascii "'); DROP TABLE Users; --"))).tokens := by
  obtain ⟨before, after, plain, reads⟩ := userText_never_escapes 1 1
    ⟨addUserText, fun text => .insert (.user text)⟩ (by simp [textForms])
  exact (reads (ascii "'); DROP TABLE Users; --")).2.1 (by decide)

end BpkMessenger.Server.Database
