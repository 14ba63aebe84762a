import BpkMessenger.Client.ChatList
import BpkMessenger.Server.Part
import BpkMessenger.Server.Reference

namespace BpkMessenger.Client

open Text Server Interaction

/-! The shipped clients around one server.  What a client shows and sends belongs
to chats its user is linked to, although the server never checks it. -/

variable {pg : Postgres} {ι : Type}

/-- A request to which the server sends nothing back is never answered. -/
def messenger (pg : Postgres) :
    Machine Store Window Event ClientRequest Reply Output (List pg.Chance) where
  handler := handler
  serve chances store request :=
    match onMessage chances store request.payload .text with
    | ([⟨_, .reply reply⟩], after) => (some reply, after)
    | (_, after) => (none, after)

abbrev System (ι : Type) := State ι Store Window Event ClientRequest Reply Output

abbrev Requirement (ι : Type) := Condition ι Store Window Event ClientRequest Reply

def unrestricted : Requirement ι := fun _ _ _ _ _ => True

/-- No client has logged in. -/
def System.Starts (state : System ι) : Prop :=
  ∀ client, (state.clients client).activity = .idle .auth

theorem serve_cases {chances : List pg.Chance} {store after : Store}
    {request : ClientRequest} {reply : Option Reply}
    (served : (messenger pg).serve chances store request = (reply, after)) :
    reply = none ∧ after = store ∨
      ∃ answer, reply = some answer ∧ Answers store request answer after := by
  simp only [messenger] at served
  rcases onMessage_request chances store request with silent |
    ⟨answer, stored, answers, sent⟩
  · rw [silent] at served
    cases served
    exact .inl ⟨rfl, rfl⟩
  · rw [sent] at served
    cases served
    exact .inr ⟨answer, rfl, answers⟩

theorem serve_spelled {request : ClientRequest} {call : Call}
    (spelled : Spelled request.payload call) (chances : List pg.Chance) (store : Store) :
    (messenger pg).serve chances store request =
      (some (call.run chances store).1, (call.run chances store).2) := by
  simp only [messenger, onMessage_call (dispatch_of_spelled spelled)]

theorem messenger_lawful_of {grows : Store → Store → Prop} (refl : ∀ store, grows store store)
    (trans : ∀ {first second third}, grows first second → grows second third →
      grows first third)
    (kept : ∀ {store after call reply}, Served store call reply after → grows store after) :
    Lawful (messenger pg) Answered grows where
  refl := refl
  trans := trans
  answered := by
    intro chances store request reply after served
    rcases serve_cases served with ⟨none, -⟩ | ⟨answer, same, answers⟩
    · contradiction
    · cases same
      exact answers
  grown := by
    intro chances store request reply after served
    rcases serve_cases served with ⟨-, rfl⟩ | ⟨answer, -, call, encodes, answers⟩
    · exact refl after
    · exact kept answers

theorem messenger_lawful (pg : Postgres) :
    Lawful (messenger pg) Answered Store.Grows :=
  messenger_lawful_of Store.Grows.refl Store.Grows.trans Served.grows

theorem meets_unrestricted (state : System ι)
    (move : Move ι Event (List pg.Chance)) :
    Meets (messenger pg) unrestricted state move := by
  cases move with
  | start client event => exact trivial
  | exchange client chances => exact fun _ _ _ _ _ _ _ _ _ => trivial

/-- The user is a member of the chat, or the id is the one `operator[]` makes up. -/
def Allowed (user : User) (store : Store) (chatId : SizeT) : Prop :=
  OwnChat user.userId store chatId

structure Membership (window : MainWindow) (store : Store) : Prop where
  entries : ∀ item, Allowed window.user store (window.iconToChatId item)
  current : Allowed window.user store window.currentChatId
  chatNames : window.chatNames.clear.elements = []

def Window.Member : Window → Store → Prop
  | .main window, store => Membership window store
  | _, _ => True

theorem Allowed.grows {user : User} {store after : Store} {chatId : SizeT}
    (grown : store.Grows after) (allowed : Allowed user store chatId) :
    Allowed user after chatId :=
  allowed.imp_right grown.linked

theorem Membership.grows {window : MainWindow} {store after : Store}
    (grown : store.Grows after) (membership : Membership window store) :
    Membership window after :=
  ⟨fun item => (membership.entries item).grows grown, membership.current.grows grown,
    membership.chatNames⟩

section Handlers

variable {trace : Trace} {store : Store}

theorem Membership.sameChats {window result : MainWindow}
    (membership : Membership window store) (same : SameChats window result) :
    Membership result store := by
  obtain ⟨entries, current, chatNames⟩ := membership
  refine ⟨?_, ?_, ?_⟩
  · rw [same.user, same.iconToChatId]
    exact entries
  · rw [same.user, same.currentChatId]
    exact current
  · rw [same.chatNames]
    exact chatNames

theorem Membership.fetched {window result : MainWindow}
    (membership : Membership window store) (fetched : Fetched window result trace) :
    Membership result store := by
  obtain ⟨chats, chatNames, rfl, elements, cleared, fetches⟩ := fetched
  exact ⟨membership.entries, membership.current, cleared.trans membership.chatNames⟩

theorem Membership.rebuilt {fresh : Allocator} {window fetched rebuilt : MainWindow}
    (membership : Membership window store) (valid : Valid trace)
    (past : ∀ exchange ∈ trace, exchange.after.Grows store)
    (fetches : Fetched window fetched trace)
    (rebuilds : updateChatsUi fresh fetched = .ok rebuilt) :
    Membership rebuilt store := by
  obtain ⟨chats, chatNames, rfl, elements, cleared, listed⟩ := fetches
  rw [membership.chatNames, List.nil_append] at elements
  obtain ⟨⟨iconToName, same⟩, -, -, -, entries⟩ := updateChatsUi_rebuilds elements rebuilds
  have user : rebuilt.user = window.user := by rw [same]; rfl
  have current : rebuilt.currentChatId = window.currentChatId := by rw [same]; rfl
  have names : rebuilt.chatNames = chatNames := by rw [same]; rfl
  refine ⟨?_, ?_, ?_⟩
  · intro item
    rw [user]
    rcases entries item with kept | listedId
    · rw [kept]
      exact membership.entries item
    · obtain ⟨chat, member, chatId⟩ := List.mem_map.mp listedId
      have linked := listed.linked valid past chat member
      right
      rw [← chatId, toNat_chatId linked]
      exact linked
  · rw [user, current]
    exact membership.current
  · rw [names]
    exact cleared.trans membership.chatNames

theorem Membership.created {fresh : Allocator} {user : User} {result : MainWindow}
    (valid : Valid trace) (past : ∀ exchange ∈ trace, exchange.after.Grows store)
    (created : Created fresh user result trace) : Membership result store := by
  obtain ⟨fetched, rebuilt, redrawn, fetches, rebuilds, ⟨listWidget, size, rfl⟩, rfl⟩ :=
    created
  have start : Membership { user := user } store :=
    ⟨fun _ => .inl rfl, .inl rfl, rfl⟩
  have fetches : Fetched { user := user } { fetched with numOfChats := 0 } trace := by
    obtain ⟨chats, chatNames, rfl, rest⟩ := fetches
    exact ⟨chats, chatNames, rfl, rest⟩
  have membership := start.rebuilt valid past fetches rebuilds
  exact ⟨membership.entries, membership.entries _, membership.chatNames⟩

theorem Changes.membership {window result : MainWindow} {event : Event}
    (changes : Changes window event result trace) (membership : Membership window store)
    (valid : Valid trace) (past : ∀ exchange ∈ trace, exchange.after.Grows store) :
    Membership result store := by
  cases changes with
  | kept same => exact membership.sameChats same
  | clicked action inside same =>
      apply Membership.sameChats _ same
      exact ⟨membership.entries, membership.entries _, membership.chatNames⟩
  | fetched action fetches same => exact membership.fetched fetches
  | rebuilt action fetches differs rebuilds =>
      obtain ⟨entries, current, chatNames⟩ :=
        membership.rebuilt valid past fetches rebuilds
      exact ⟨entries, current, chatNames⟩
  | added action fetches =>
      apply Membership.fetched _ fetches
      exact ⟨membership.entries, membership.current, membership.chatNames⟩

theorem messenger_member (condition : Requirement ι) :
    Verified (messenger pg) Answered Store.Grows condition Sends Next
      fun _ => Window.Member where
  safe := handler_safe
  stable := by
    intro client window store after grown member
    cases window with
    | main window => exact Membership.grows grown member
    | _ => exact trivial
  preserved := by
    intro client window event store result trace member valid meeting past next
    cases next with
    | known loggedIn created => exact Membership.created valid past created
    | authorised created => exact Membership.created valid past created
    | main changes => exact changes.membership member valid past
    | _ => exact trivial

end Handlers

theorem Sends.allowed {window : Window} {event : Event} {trace : Trace} {store : Store}
    {chatId senderId : SizeT} {text : Bytes} (member : window.Member store)
    (sends : Sends window event trace (.addMessage chatId senderId text)) :
    chatId = 0 ∨ store.Linked senderId.toNat chatId.toNat := by
  obtain ⟨main, rfl, action, rfl, rfl⟩ := sends
  exact Membership.entries member _

def MembersSpeak (store : Store) : Prop :=
  ∀ row ∈ store.messages, store.Linked row.senderId row.chatId

theorem MembersSpeak.answers {window : Window} {event : Event} {trace : Trace}
    {store after : Store} {request : ClientRequest} {reply : Reply}
    (speak : MembersSpeak store) (member : window.Member store)
    (sends : Sends window event trace request)
    (answers : Answers store request reply after) : MembersSpeak after := by
  obtain ⟨call, encodes, served⟩ := answers
  have kept : ∀ row ∈ store.messages, after.Linked row.senderId row.chatId :=
    fun row stored => served.grows.linked (speak row stored)
  intro row stored
  have written := served.messages
  rw [written, List.mem_append] at stored
  rcases stored with earlier | new
  · exact kept row earlier
  · cases encodes with
    | @addMessage chatId senderId text =>
        cases reply with
        | success =>
            have same := List.mem_singleton.mp new
            subst same
            rcases sends.allowed member with zero | linked
            · -- the foreign key: there is no chat 0
              have posted : ⟨chatId.toNat, senderId.toNat, text⟩ ∈ after.messages := by
                rw [written]
                exact List.mem_append_right _ new
              have positive :=
                (Store.hasChat_pos (after.consistent.messageChat _ posted)).1
              rw [zero, UInt64.toNat_zero] at positive
              contradiction
            · exact served.grows.linked linked
        | _ => exact absurd new List.not_mem_nil
    | _ => exact absurd new List.not_mem_nil

theorem System.Starts.member {state : System ι} (starts : state.Starts)
    (condition : Requirement ι) (client : ι) :
    Holds Answered Store.Grows condition Sends Next (fun _ => Window.Member) state.store
      client (state.clients client) := by
  simp only [Holds, starts client]
  exact trivial

/-- Only members speak: of any number of clients, in every state they reach. -/
theorem membersSpeak_of_reaches [DecidableEq ι] {start state : System ι}
    (starts : start.Starts) (first : MembersSpeak start.store)
    (reached : Reaches (messenger pg) unrestricted start state) :
    MembersSpeak state.store := by
  apply Reaches.keeps (messenger_lawful pg) (messenger_member unrestricted)
    (starts.member unrestricted) first _ reached
  intro client window event request again next trace chances store reply after underway
    served speak
  rcases serve_cases served with ⟨-, rfl⟩ | ⟨answer, -, answers⟩
  · exact speak
  · exact speak.answers underway.held underway.sending answers

/-! Runs at the reference database. -/

def event (action : Action) : Event where
  action := action
  fresh := ⟨id, Function.injective_id⟩
  trello := ⟨[], fun _ => .error .parseError⟩

/-- A handler run whose requests all go through, drawing this id for a new row. -/
def handlerRun (client : ι) (action : Action) (id requests : Nat) :
    List (Move ι Event (List Reference.Draw)) :=
  .start client (event action) ::
    List.replicate requests (.exchange client (List.replicate 4 ⟨true, id⟩))

def loggedOut (store : Store) : System ι := ⟨store, fun _ => ⟨.idle .auth, []⟩⟩

theorem loggedOut_starts (store : Store) : System.Starts (loggedOut store : System ι) :=
  fun _ => rfl

/-- A run with a last move, and what is seen around that move. -/
def lastSeen {α : Type} (store : Store)
    (test : Test Unit Store Window Event ClientRequest Reply)
    (moves : List (Move Unit Event (List Reference.Draw)))
    (move : Move Unit Event (List Reference.Draw))
    (seen : System Unit → System Unit → Option α) : Option α :=
  ((loggedOut store).run (messenger Reference.postgres) test moves).bind fun state =>
    (state.step (messenger Reference.postgres) move).bind fun after =>
      if state.passes test after move then seen state after else none

theorem lastSeen_eq_some {α : Type} {store : Store}
    {test : Test Unit Store Window Event ClientRequest Reply} {condition : Requirement Unit}
    (implies : ∀ client window event trace exchange,
      test client window event trace exchange = true →
        condition client window event trace exchange)
    {moves : List (Move Unit Event (List Reference.Draw))}
    {move : Move Unit Event (List Reference.Draw)}
    {seen : System Unit → System Unit → Option α} {value : α}
    (ran : lastSeen store test moves move seen = some value) :
    ∃ state after, Reaches (messenger Reference.postgres) condition (loggedOut store) state ∧
      Meets (messenger Reference.postgres) condition state move ∧
      state.step (messenger Reference.postgres) move = some after ∧
      seen state after = some value := by
  obtain ⟨state, found, rest⟩ := Option.bind_eq_some_iff.mp ran
  obtain ⟨after, stepped, last⟩ := Option.bind_eq_some_iff.mp rest
  cases passes : state.passes test after move with
  | false => simp [passes] at last
  | true =>
      rw [if_pos passes] at last
      exact ⟨state, after, Reaches.of_run implies .start found,
        meets_of_passes implies stepped passes, stepped, last⟩

def annAlone : Store where
  users := [⟨1, ascii "ann"⟩]
  chats := [⟨1, ascii "ann notes"⟩]
  userIdChatId := [⟨1, 1⟩]
  messages := []
  userIdTrelloToken := []
  consistent := by decide

def annAndBob : Store where
  users := [⟨1, ascii "ann"⟩, ⟨2, ascii "bob"⟩]
  chats := [⟨1, ascii "ann and bob"⟩]
  userIdChatId := [⟨1, 1⟩, ⟨2, 1⟩]
  messages := []
  userIdTrelloToken := []
  consistent := by decide

theorem membersSpeak_annAlone :
    ∃ state : System Unit, MembersSpeak state.store ∧
      state.store.messages = [⟨1, 1, ascii "hi"⟩] := by
  have ran : ((loggedOut annAlone).run (messenger Reference.postgres)
      (fun _ _ _ _ _ => true)
      (handlerRun () (.authButton (ascii "ann")) 0 4 ++
        handlerRun () (.sendButton (ascii "hi")) 0 1)).map
          (fun state => state.store.messages) = some [⟨1, 1, ascii "hi"⟩] := by
    decide +kernel
  obtain ⟨state, found, messages⟩ := Option.map_eq_some_iff.mp ran
  refine ⟨state, ?_, messages⟩
  exact membersSpeak_of_reaches (loggedOut_starts annAlone)
    (fun _ member => absurd member List.not_mem_nil)
    (Reaches.of_run (fun _ _ _ _ _ _ => trivial) .start found)

end BpkMessenger.Client
