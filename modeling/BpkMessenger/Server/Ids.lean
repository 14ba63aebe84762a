import BpkMessenger.Server.Service

namespace BpkMessenger.Server

open Text Sql Database

/-! The ids of a call, and those in the statement texts its method builds. -/

def Call.ids : Call → List SizeT
  | .addMessage chatId senderId _ => [chatId, senderId]
  | .linkUserToChat userId chatId => [userId, chatId]
  | .getChatName chatId | .getChatHistory chatId | .getChatMembers chatId => [chatId]
  | .getChatList userId | .getUserName userId => [userId]
  | .setTrelloToken userId _ | .getTrelloToken userId => [userId]
  | _ => []

def Query.ids : Query → List Nat
  | .userById literal => [decimalValue literal]
  | .chatById chatId | .linksOfChat chatId | .messagesOf chatId => [chatId]
  | .linksOfUser userId | .tokensOf userId => [userId]
  | .link userId chatId => [userId, chatId]
  | _ => []

def Statement.ids : Statement → List Nat
  | .insert (.link userId chatId) => [userId, chatId]
  | .insert (.message chatId senderId _) => [chatId, senderId]
  | .insert (.token userId _) => [userId]
  | .insert _ => []
  | .select query | .copy query => query.ids

/-- The text of the user in a call. -/
def Call.userText : Call → Bytes
  | .findUser userName | .addUser userName => userName
  | .addChat chatName | .getChatId chatName => chatName
  | .addMessage _ _ messageText => messageText
  | .setTrelloToken _ trelloToken => trelloToken
  | _ => []

/-- The statement texts of a call's method. -/
def Call.texts : Call → List Bytes
  | .findUser userName => [copyText (findUserText userName)]
  | .addUser userName => [addUserText userName]
  | .addChat chatName => [addChatText chatName]
  | .addMessage chatId senderId messageText => [addMessageText chatId senderId messageText]
  | .linkUserToChat userId chatId =>
      [checkLinkText userId chatId, insertLinkText userId chatId]
  | .getChatName chatId => [copyText (getChatNameText chatId)]
  | .getChatId chatName => [copyText (getChatIdText chatName)]
  | .getChatHistory chatId => [copyText (getChatHistoryText chatId)]
  | .getChatList userId => [copyText (getChatListText userId)]
  | .setTrelloToken userId trelloToken => [setTrelloTokenText userId trelloToken]
  | .getTrelloToken userId => [copyText (getTrelloTokenText userId)]
  | .getChatMembers chatId => [copyText (getChatMembersText chatId)]
  | .getUserName userId => [copyText (getUserNameText userId)]

/-- The text is a statement about these ids; a NUL in the user's text leaves none. -/
def Denotes (text userText : Bytes) (ids : List SizeT) : Prop :=
  (∃ statement : Statement, lex (cString text) = .ok statement.tokens ∧
    statement.ids = ids.map UInt64.toNat) ∨
      0 ∈ userText ∧ lex (cString text) = .error .unterminated

private theorem denotes_constant {text userText : Bytes} {ids : List SizeT}
    {statement : Statement}
    (lexed : 0 ∉ userText → lex (cString text) = .ok statement.tokens)
    (cut : 0 ∈ userText → lex (cString text) = .error .unterminated)
    (same : statement.ids = ids.map UInt64.toNat) : Denotes text userText ids := by
  by_cases clean : 0 ∈ userText
  · exact .inr ⟨clean, cut clean⟩
  · exact .inl ⟨statement, lexed clean, same⟩

theorem Call.texts_denote {call : Call} {text : Bytes} (member : text ∈ call.texts) :
    Denotes text call.userText call.ids := by
  cases call with
  | linkUserToChat userId chatId =>
      rcases List.mem_cons.mp member with rfl | member
      · exact .inl ⟨_, lex_checkLinkText userId chatId, rfl⟩
      · rw [List.mem_singleton.mp member]
        exact .inl ⟨_, lex_insertLinkText userId chatId, rfl⟩
  | findUser userName =>
      rw [List.mem_singleton.mp member]
      exact denotes_constant lex_findUserText lex_findUserText_cut rfl
  | addUser userName =>
      rw [List.mem_singleton.mp member]
      exact denotes_constant lex_addUserText lex_addUserText_cut rfl
  | addChat chatName =>
      rw [List.mem_singleton.mp member]
      exact denotes_constant lex_addChatText lex_addChatText_cut rfl
  | getChatId chatName =>
      rw [List.mem_singleton.mp member]
      exact denotes_constant lex_getChatIdText lex_getChatIdText_cut rfl
  | addMessage chatId senderId messageText =>
      rw [List.mem_singleton.mp member]
      exact denotes_constant (lex_addMessageText chatId senderId)
        (lex_addMessageText_cut chatId senderId) rfl
  | setTrelloToken userId trelloToken =>
      rw [List.mem_singleton.mp member]
      exact denotes_constant (lex_setTrelloTokenText userId)
        (lex_setTrelloTokenText_cut userId) rfl
  | getChatName chatId =>
      rw [List.mem_singleton.mp member]
      exact .inl ⟨_, lex_getChatNameText chatId, rfl⟩
  | getChatHistory chatId =>
      rw [List.mem_singleton.mp member]
      exact .inl ⟨_, lex_getChatHistoryText chatId, rfl⟩
  | getChatList userId =>
      rw [List.mem_singleton.mp member]
      exact .inl ⟨_, lex_getChatListText userId, rfl⟩
  | getChatMembers chatId =>
      rw [List.mem_singleton.mp member]
      exact .inl ⟨_, lex_getChatMembersText chatId, rfl⟩
  | getTrelloToken userId =>
      rw [List.mem_singleton.mp member]
      exact .inl ⟨_, lex_getTrelloTokenText userId, rfl⟩
  | getUserName userId =>
      rw [List.mem_singleton.mp member]
      refine .inl ⟨_, lex_getUserNameText userId, ?_⟩
      simp [Statement.ids, Query.ids, Call.ids]

/-! Two services that take the texts of a call alike answer it alike. -/

section Texts

variable {pg other : Postgres} (carry : pg.Chance → other.Chance)

def Session.moved (session : Session pg) : Session other :=
  ⟨session.committed, session.working, session.chances.map carry⟩

/-- The work goes the same way at both services. -/
def Alike (first : Work pg α) (second : Work other α) : Prop :=
  ∀ session, second (session.moved carry) =
    ((first session).1, (first session).2.moved carry)

variable {carry}

theorem Alike.pure (result : α) :
    Alike carry (Pure.pure result : Work pg α) (Pure.pure result : Work other α) :=
  fun _ => rfl

theorem Alike.lift (result : Except DatabaseException α) :
    Alike carry (Work.lift result : Work pg α) (Work.lift result : Work other α) :=
  fun _ => rfl

theorem Alike.bind {first : Work pg α} {second : Work other α} {next : α → Work pg β}
    {following : α → Work other β} (alike : Alike carry first second)
    (onward : ∀ result, Alike carry (next result) (following result)) :
    Alike carry (first >>= next) (second >>= following) := by
  intro session
  rw [Work.run_bind, Work.run_bind, alike session]
  rcases first session with ⟨exception | result, after⟩
  · rfl
  · exact onward result after

theorem Alike.request {operation : pg.Chance → Session pg → Except PgError (α × Session pg)}
    {operating : other.Chance → Session other → Except PgError (α × Session other)}
    (same : ∀ chance session, operating (carry chance) (session.moved carry) =
      (operation chance session).map fun outcome => (outcome.1, outcome.2.moved carry)) :
    Alike carry (Work.request operation) (Work.request operating) := by
  intro session
  obtain ⟨committed, working, chances⟩ := session
  cases chances with
  | nil => rfl
  | cons chance chances =>
      have done := same chance ⟨committed, working, chance :: chances⟩
      simp only [Session.moved, List.map_cons] at done
      simp only [Work.request, Session.moved, List.map_cons, done]
      cases operation chance ⟨committed, working, chance :: chances⟩ <;> rfl

theorem Alike.start (begins : ∀ chance, other.begins (carry chance) = pg.begins chance) :
    Alike carry (Work.start : Work pg Unit) (Work.start : Work other Unit) := by
  refine Alike.request fun chance session => ?_
  rw [begins]
  cases pg.begins chance <;> rfl

theorem Alike.commit (commits : ∀ chance, other.commits (carry chance) = pg.commits chance) :
    Alike carry (Work.commit : Work pg Unit) (Work.commit : Work other Unit) := by
  refine Alike.request fun chance session => ?_
  rw [commits]
  cases pg.commits chance <;> rfl

theorem Alike.exec {text : Bytes}
    (same : ∀ chance store, other.exec (carry chance) store text = pg.exec chance store text) :
    Alike carry (Work.exec text : Work pg (List Row)) (Work.exec text) := by
  refine Alike.request fun chance session => ?_
  change (other.exec (carry chance) session.working text >>= _) = _
  rw [same]
  cases pg.exec chance session.working text <;> rfl

theorem Alike.attempt {body : Work pg Reply} {second : Work other Reply}
    (alike : Alike carry body second) (chances : List pg.Chance) (store : Store) :
    attempt second (chances.map carry) store = attempt body chances store := by
  have ran := alike ⟨store, store, chances⟩
  simp only [Session.moved] at ran
  simp only [Server.attempt, ran]
  rcases body ⟨store, store, chances⟩ with ⟨exception | reply, after⟩ <;> rfl

/-- A call puts no other text than these to the service. -/
theorem Call.run_texts (call : Call)
    (begins : ∀ chance, other.begins (carry chance) = pg.begins chance)
    (commits : ∀ chance, other.commits (carry chance) = pg.commits chance)
    (same : ∀ text ∈ call.texts, ∀ chance store,
      other.exec (carry chance) store text = pg.exec chance store text)
    (chances : List pg.Chance) (store : Store) :
    call.run (chances.map carry) store = call.run chances store := by
  have executes (text : Bytes) (only : call.texts = [text]) :
      execute text (chances.map carry) store = execute text chances store := by
    refine Alike.attempt (.bind (.start begins) fun _ => .bind (.exec ?_) fun _ =>
      .bind (.commit commits) fun _ => .pure _) chances store
    exact same text (by simp [only])
  have answers (query : Bytes) (read : List Row → Except DatabaseException Reply)
      (only : call.texts = [copyText query]) :
      answer query read (chances.map carry) store = answer query read chances store := by
    refine Alike.attempt (.bind (.start begins) fun _ => .bind (.exec ?_) fun _ =>
      .lift _) chances store
    exact same (copyText query) (by simp [only])
  cases call with
  | linkUserToChat userId chatId =>
      refine Alike.attempt (.bind (.start begins) fun _ =>
        .bind (.exec (same _ (by simp [Call.texts]))) fun rows => ?_) chances store
      cases rows.isEmpty with
      | false => exact .bind (.commit commits) fun _ => .pure _
      | true =>
          exact .bind (.exec (same _ (by simp [Call.texts]))) fun _ =>
            .bind (.commit commits) fun _ => .pure _
  | addUser | addChat | addMessage | setTrelloToken => exact executes _ rfl
  | _ => exact answers _ _ rfl

end Texts

end BpkMessenger.Server
