import BpkMessenger.Client.Membership

namespace BpkMessenger.Client

open Text Server Interaction

/-! The chosen chat of a main window, which is kept as a row of the chat list and
as an id. -/

variable {pg : Postgres} {ι : Type}

/-- The window in which Send was pressed and the chat its message goes to. -/
def sending (value : Interaction.Client Store Window Event ClientRequest Reply Output) :
    Option (MainWindow × SizeT) :=
  match value.activity with
  | .running (.main window) _ (.ask (.addMessage chatId _ _) _ _) => some (window, chatId)
  | _ => none

/-- A list of another length has the chosen chat in its row. -/
def MainWindow.KeepsRow (window : MainWindow) (chatIds : List SizeT) : Prop :=
  chatIds.length ≠ window.numOfChats → window.currentChatId ≠ 0 →
    chatIds[window.currentChat]? = some window.currentChatId

instance (window : MainWindow) (chatIds : List SizeT) : Decidable (window.KeepsRow chatIds) :=
  inferInstanceAs (Decidable (_ → _ → _))

def Action.isTimerChat : Action → Bool
  | .timerChat => true
  | _ => false

/-- Every chat-list tick that rebuilds the list finds the chosen chat in its row. -/
def keepsRow : Requirement ι := fun _ window event _ exchange =>
  match window with
  | .main window =>
      event.action = .timerChat → exchange.request = .getChatList window.user.userId →
        ∀ written, exchange.reply = .document written → window.KeepsRow (listedIds written)
  | _ => True

structure Selection (window : MainWindow) : Prop where
  noItem : window.iconToChatId none = 0
  shown : 0 ∉ window.shown
  chosen : window.currentChatId ≠ 0 → window.listWidget2 ≠ [] →
    window.shown[window.currentChat]? = some window.currentChatId
  first : window.currentChatId = 0 → window.currentChat = 0
  chatNames : window.chatNames.clear.elements = []

def Window.Selected : Window → Prop
  | .main window => Selection window
  | _ => True

/-- Row and id agree unless the list is empty and a chat is chosen, or the other
way round. -/
theorem Selection.agrees_iff {window : MainWindow} (selection : Selection window) :
    window.iconToChatId (window.item window.currentChat) = window.currentChatId ↔
      (window.listWidget2 = [] ↔ window.currentChatId = 0) := by
  obtain ⟨noItem, shown, chosen, first, -⟩ := selection
  by_cases empty : window.listWidget2 = []
  · have outside : window.item window.currentChat = none := by
      rw [MainWindow.item, empty]
      rfl
    rw [outside, noItem, eq_comm]
    exact ⟨fun zero => iff_of_true empty zero, fun same => same.mp empty⟩
  · by_cases zero : window.currentChatId = 0
    · have inside := List.length_pos_of_ne_nil empty
      have row := shown_item inside
      rw [first zero, zero]
      refine ⟨fun absent => ?_, fun same => absurd (same.mpr rfl) empty⟩
      rw [absent] at row
      exact absurd (List.mem_of_getElem? row) shown
    · have row := chosen zero empty
      obtain ⟨inside, -⟩ := List.getElem?_eq_some_iff.mp row
      rw [MainWindow.shown, List.length_map] at inside
      rw [shown_item inside, Option.some.injEq] at row
      exact iff_of_true row (iff_of_false empty zero)

section Handlers

variable {trace : Trace} {store : Store}

theorem Selection.sameChats {window result : MainWindow} (selection : Selection window)
    (same : SameChats window result) : Selection result := by
  obtain ⟨noItem, shown, chosen, first, chatNames⟩ := selection
  have rows : result.shown = window.shown := by
    rw [MainWindow.shown, same.listWidget2, same.iconToChatId]
    rfl
  refine ⟨?_, ?_, ?_, ?_, ?_⟩
  · rwa [same.iconToChatId]
  · rwa [rows]
  · rwa [rows, same.listWidget2, same.currentChat, same.currentChatId]
  · rwa [same.currentChat, same.currentChatId]
  · rwa [same.chatNames]

theorem Selection.fetched {window result : MainWindow} (selection : Selection window)
    (fetched : Fetched window result trace) : Selection result := by
  obtain ⟨chats, chatNames, rfl, elements, cleared, fetches⟩ := fetched
  exact ⟨selection.noItem, selection.shown, selection.chosen, selection.first,
    cleared.trans selection.chatNames⟩

theorem zero_notMem_chatIds {userId : SizeT} {chats : List ChatRow}
    (valid : Valid trace) (past : ∀ exchange ∈ trace, exchange.after.Grows store)
    (fetches : Fetches userId chats trace) : 0 ∉ chatIds chats := by
  intro member
  obtain ⟨chat, chatMember, zero⟩ := List.mem_map.mp member
  exact chatId_ne_zero (fetches.linked valid past chat chatMember) zero

theorem Selection.clicked {window : MainWindow} {row : Nat}
    (selection : Selection window) (inside : row < window.listWidget2.length) :
    Selection { window with
      currentChat := row
      currentChatId := window.iconToChatId (window.item row) } := by
  have here := shown_item inside
  refine ⟨selection.noItem, selection.shown, fun _ _ => here, ?_, selection.chatNames⟩
  intro zero
  change window.iconToChatId (window.item row) = 0 at zero
  rw [zero] at here
  exact absurd (List.mem_of_getElem? here) selection.shown

theorem Selection.created {fresh : Allocator} {user : User} {result : MainWindow}
    (valid : Valid trace) (past : ∀ exchange ∈ trace, exchange.after.Grows store)
    (created : Created fresh user result trace) : Selection result := by
  obtain ⟨fetched, rebuilt, redrawn, fetches, rebuilds, ⟨listWidget, size, rfl⟩, rfl⟩ :=
    created
  obtain ⟨chats, chatNames, rfl, elements, cleared, listed⟩ := fetches
  obtain ⟨⟨iconToName, same⟩, -, shown, noItem, -⟩ :=
    updateChatsUi_rebuilds elements rebuilds
  have currentChat : rebuilt.currentChat = 0 := by rw [same]; rfl
  have names : rebuilt.chatNames = chatNames := by rw [same]; rfl
  refine ⟨noItem, ?_, ?_, fun _ => currentChat, ?_⟩
  · change 0 ∉ rebuilt.shown
    rw [shown]
    exact zero_notMem_chatIds valid past listed
  · intro _ nonempty
    change rebuilt.shown[rebuilt.currentChat]? = _
    rw [currentChat]
    exact shown_item (List.length_pos_of_ne_nil nonempty)
  · change rebuilt.chatNames.clear.elements = []
    rw [names]
    exact cleared

theorem Selection.rebuilt {fresh : Allocator} {window fetched rebuilt : MainWindow}
    (selection : Selection window) (valid : Valid trace)
    (past : ∀ exchange ∈ trace, exchange.after.Grows store)
    (fetches : Fetched window fetched trace)
    (differs : fetched.numOfChats ≠ fetched.sizeOfAnswer)
    (rebuilds : updateChatsUi fresh fetched = .ok rebuilt)
    (keeps : ∀ exchange ∈ trace, exchange.request = .getChatList window.user.userId →
      ∀ written, exchange.reply = .document written →
        window.KeepsRow (listedIds written)) :
    Selection { rebuilt with numOfChats := rebuilt.listWidget2.length } := by
  obtain ⟨chats, chatNames, rfl, elements, cleared, listed⟩ := fetches
  rw [selection.chatNames, List.nil_append] at elements
  obtain ⟨⟨iconToName, same⟩, -, shown, noItem, -⟩ :=
    updateChatsUi_rebuilds elements rebuilds
  obtain ⟨exchange, member, written, asks, replied, ids⟩ := listed.listed
  have kept := keeps exchange member asks written replied
  have count : (listedIds written).length ≠ window.numOfChats := by
    intro equal
    apply differs
    rw [ids, chatIds, List.length_map] at equal
    change window.numOfChats = chatNames.size
    rw [size_eq_length_elements, elements, chatDocuments, List.length_map, equal]
  have currentChat : rebuilt.currentChat = window.currentChat := by rw [same]; rfl
  have currentChatId : rebuilt.currentChatId = window.currentChatId := by rw [same]; rfl
  have names : rebuilt.chatNames = chatNames := by rw [same]; rfl
  refine ⟨?_, ?_, ?_, ?_, ?_⟩
  · exact noItem.trans selection.noItem
  · change 0 ∉ rebuilt.shown
    rw [shown]
    exact zero_notMem_chatIds valid past listed
  · intro chosen _
    change rebuilt.currentChatId ≠ 0 at chosen
    change rebuilt.shown[rebuilt.currentChat]? = some rebuilt.currentChatId
    rw [currentChatId] at chosen
    rw [shown, ← ids, currentChat, currentChatId]
    exact kept count chosen
  · intro zero
    change rebuilt.currentChatId = 0 at zero
    change rebuilt.currentChat = 0
    rw [currentChatId] at zero
    rw [currentChat]
    exact selection.first zero
  · change rebuilt.chatNames.clear.elements = []
    rw [names]
    exact cleared.trans selection.chatNames

theorem Changes.selection {client : ι} {window result : MainWindow} {event : Event}
    (changes : Changes window event result trace) (selection : Selection window)
    (valid : Valid trace) (past : ∀ exchange ∈ trace, exchange.after.Grows store)
    (meeting : Meeting keepsRow client (.main window) event trace) : Selection result := by
  cases changes with
  | kept same => exact selection.sameChats same
  | clicked action inside same => exact (selection.clicked inside).sameChats same
  | fetched action fetches same => exact selection.fetched fetches
  | rebuilt action fetches differs rebuilds =>
      apply selection.rebuilt valid past fetches differs rebuilds
      intro exchange member
      obtain ⟨before, rest, split⟩ := List.append_of_mem member
      exact meeting before exchange rest split action
  | added action fetches =>
      apply Selection.fetched _ fetches
      exact ⟨selection.noItem, List.not_mem_nil, fun _ nonempty => absurd rfl nonempty,
        selection.first, selection.chatNames⟩

theorem messenger_selected :
    Verified (messenger pg) Answered Store.Grows (keepsRow (ι := ι)) Sends Next
      fun _ window _ => window.Selected where
  safe := handler_safe
  stable := fun _ selected => selected
  preserved := by
    intro client window event store result trace selected valid meeting past next
    cases next with
    | known loggedIn created => exact Selection.created valid past created
    | authorised created => exact Selection.created valid past created
    | main changes => exact changes.selection selected valid past meeting
    | _ => exact trivial

end Handlers

theorem sending_eq_some {value : Interaction.Client Store Window Event ClientRequest Reply
    Output} {window : MainWindow} {chatId : SizeT}
    (sent : sending value = some (window, chatId)) :
    ∃ event senderId text again next, value.activity =
      .running (.main window) event (.ask (.addMessage chatId senderId text) again next) := by
  unfold sending at sent
  split at sent
  · next running =>
      cases sent
      exact ⟨_, _, _, _, _, running⟩
  · contradiction

/-- A message goes to the chat that is looked at exactly if, when Send is pressed,
the list is empty just when no chat is chosen. -/
theorem sending_current_iff [DecidableEq ι] {start state : System ι}
    (starts : start.Starts) (reached : Reaches (messenger pg) keepsRow start state)
    {client : ι} {window : MainWindow} {chatId : SizeT}
    (sent : sending (state.clients client) = some (window, chatId)) :
    chatId = window.currentChatId ↔
      (window.listWidget2 = [] ↔ window.currentChatId = 0) := by
  obtain ⟨event, senderId, text, again, next, running⟩ := sending_eq_some sent
  have initial : ∀ other, Holds Answered Store.Grows keepsRow Sends Next
      (fun _ window _ => window.Selected) start.store other (start.clients other) := by
    intro other
    simp only [Holds, starts other]
    exact trivial
  have underway := reached.underway (messenger_lawful pg) messenger_selected initial running
  obtain ⟨main, same, action, rfl, -⟩ := underway.sending
  cases same
  exact Selection.agrees_iff underway.held

private theorem sending_of_run {test : Test Unit Store Window Event ClientRequest Reply}
    {condition : Requirement Unit}
    (implies : ∀ client window event trace exchange,
      test client window event trace exchange = true →
        condition client window event trace exchange)
    {store : Store} {moves : List (Move Unit Event (List Reference.Draw))}
    {ids : SizeT × SizeT}
    (ran : ((loggedOut store).run (messenger Reference.postgres) test moves).map
      (fun state => (sending (state.clients ())).map fun sent =>
        (sent.2, sent.1.currentChatId)) = some (some ids)) :
    ∃ (state : System Unit) (window : MainWindow),
      Reaches (messenger Reference.postgres) condition (loggedOut store) state ∧
        sending (state.clients ()) = some (window, ids.1) ∧
          window.currentChatId = ids.2 := by
  obtain ⟨state, found, read⟩ := Option.map_eq_some_iff.mp ran
  obtain ⟨⟨window, chatId⟩, sent, rfl⟩ := Option.map_eq_some_iff.mp read
  exact ⟨state, window, Reaches.of_run implies .start found, sent, rfl⟩

/-- The chat that a message is on its way to, and the one that is looked at. -/
private def sendingRun (test : Test Unit Store Window Event ClientRequest Reply)
    (moves : List (Move Unit Event (List Reference.Draw))) : Option (Option (SizeT × SizeT)) :=
  ((loggedOut annAlone).run (messenger Reference.postgres) test
    (handlerRun () (.authButton (ascii "ann")) 0 4 ++ moves)).map fun state =>
      (sending (state.clients ())).map fun sent => (sent.2, sent.1.currentChatId)

private def keepsRowTest : Test Unit Store Window Event ClientRequest Reply :=
  fun _ window event _ exchange =>
    match window, exchange.request, exchange.reply with
    | .main window, .getChatList _, .document written =>
        !event.action.isTimerChat || window.KeepsRow (listedIds written)
    | _, _, _ => true

private theorem keepsRow_of_test {client : Unit} {window : Window} {event : Event} {trace : Trace}
    {exchange : Exchange Store ClientRequest Reply}
    (passes : keepsRowTest client window event trace exchange = true) :
    keepsRow client window event trace exchange := by
  cases window with
  | main window =>
      intro tick asked written replied
      unfold keepsRowTest at passes
      rw [asked, replied, tick] at passes
      exact of_decide_eq_true passes
  | _ => exact trivial

/-- Ann adds a chat in both runs. In the first one a tick fills the list again. -/
private theorem sendingRuns :
    sendingRun keepsRowTest
        (handlerRun () (.addChat (ascii "work")) 2 6 ++ handlerRun () .timerChat 0 3 ++
          handlerRun () (.sendButton (ascii "hi")) 0 0) = some (some (1, 1)) ∧
      sendingRun (fun _ _ _ _ _ => true) (handlerRun () (.addChat (ascii "work")) 2 6 ++
        handlerRun () (.sendButton (ascii "hi")) 0 0) = some (some (0, 1)) := by
  decide +kernel

theorem sending_current_annAlone :
    ∃ (state : System Unit) (window : MainWindow),
      sending (state.clients ()) = some (window, 1) ∧
        (1 = window.currentChatId ↔
          (window.listWidget2 = [] ↔ window.currentChatId = 0)) := by
  obtain ⟨state, window, reached, sent, -⟩ := @sending_of_run _ keepsRow
    (fun _ _ _ _ _ => keepsRow_of_test) _ _ _ sendingRuns.1
  exact ⟨state, window, sent,
    sending_current_iff (loggedOut_starts annAlone) reached sent⟩

/-- Ann adds a chat, and sends a message before the list is filled again. -/
theorem sending_elsewhere :
    ∃ (state : System Unit) (window : MainWindow) (chatId : SizeT),
      Reaches (messenger Reference.postgres) unrestricted (loggedOut annAlone) state ∧
        sending (state.clients ()) = some (window, chatId) ∧
          chatId ≠ window.currentChatId := by
  obtain ⟨state, window, reached, sent, current⟩ :=
    @sending_of_run _ unrestricted (fun _ _ _ _ _ _ => trivial) _ _ _ sendingRuns.2
  refine ⟨state, window, 0, reached, sent, ?_⟩
  rw [current]
  decide

end BpkMessenger.Client
