import BpkMessenger.Client.Membership

namespace BpkMessenger.Client

open Text Server Interaction

/-! Who makes whom a member of which chat. -/

variable {pg : Postgres} {ι : Type}

def OwnUser (store : Store) (userId : Nat) : Window → Event → Prop
  | .auth, event => ∃ username,
      event.action = .authButton username ∧ ⟨userId, username⟩ ∈ store.users
  | .trelloAuth user, _ => user.userId.toNat = userId
  | .main window, _ => window.user.userId.toNat = userId

/-- The waiting client invites into a chat of its own user, or has created the chat
for its user in this handler run. -/
inductive Entered (state : System ι) (client : ι) (userId chatId : Nat) : Prop
  | invited {window : MainWindow} {event : Event} {program : Act Window}
      {userName : Bytes}
      (running : (state.clients client).activity = .running (.main window) event program)
      (action : event.action = .addMember userName)
      (member : state.store.Linked window.user.userId.toNat chatId)
  | created {window : Window} {event : Event} {program : Act Window} {chatName : Bytes}
      {creation : Exchange Store ClientRequest Reply}
      (running : (state.clients client).activity = .running window event program)
      (own : OwnUser state.store userId window event)
      (member : creation ∈ (state.clients client).trace)
      (creates : creation.request = .addChat chatName) (success : creation.reply = .success)
      (before : ¬ creation.before.HasChat chatId) (after : creation.after.HasChat chatId)

def notes (username : Bytes) : Bytes := username ++ ascii " notes"

/-- A first login that could not create its chat finds none of that name, unless
its user is in it already. -/
def notesOwn : Requirement ι := fun _ window event before exchange =>
  match window, event.action with
  | .auth, .authButton username =>
      exchange.request = .getChatId (notes username) →
        Creates (notes username) before ∨
          ∀ chat ∈ exchange.before.chats, chat.chatName = notes username →
            ∀ user ∈ exchange.before.users, user.userName = username →
              exchange.before.Linked user.userId chat.chatId
  | _, _ => True

/-! What the server reads in a link request. -/

private theorem linkArguments_null {userId : Nat} (userFits : userId < 2 ^ 64) :
    LinkArguments (decimal userId ++ 32 :: ascii "null") (UInt64.ofNat userId) 0 := by
  have readsUser : ReadsInteger (decimal userId ++ 32 :: ascii "null") userId
      (32 :: ascii "null") := readsInteger_decimal userId (by simp; decide)
  have missing : ∀ value rest, ¬ ReadsInteger (32 :: ascii "null") value rest := by
    intro value rest reads
    exact (readsInteger_iff.mp reads).1 (by decide)
  have arguments := LinkArguments.two (.numeral readsUser (by omega)) (.missing missing)
  rwa [ofInt_natCast] at arguments

theorem encodes_link_decimal {userId chatId : Nat} {user chat : SizeT}
    (userFits : userId < 2 ^ 64) (chatFits : chatId < 2 ^ 64)
    (encodes : Encodes (.linkUserToChat (decimal userId) (decimal chatId))
      (.linkUserToChat user chat)) :
    user.toNat = userId ∧ chat.toNat = chatId := by
  cases encodes with
  | linkUserToChat reads =>
      obtain ⟨rfl, rfl⟩ := reads.unique (linkArguments_decimal userFits chatFits)
      rw [UInt64.toNat_ofNat', UInt64.toNat_ofNat']
      omega

theorem encodes_link_null {userId : Nat} {user chat : SizeT} (userFits : userId < 2 ^ 64)
    (encodes : Encodes (.linkUserToChat (decimal userId) (ascii "null"))
      (.linkUserToChat user chat)) : chat.toNat = 0 := by
  cases encodes with
  | linkUserToChat reads =>
      obtain ⟨-, rfl⟩ := reads.unique (linkArguments_null userFits)
      rfl

/-! The chat a handler looks up. -/

theorem answers_addChat {store after : Store} {chatName : Bytes}
    (answers : Answers store (.addChat chatName) .success after) :
    ∃ chatId stored, varchar 50 chatName = some stored ∧
      after.toTables = store.toTables.add (.chat ⟨chatId, stored⟩) := by
  obtain ⟨call, encodes, served⟩ := answers
  cases encodes
  cases served with
  | inserted inserts clean encoded stores added =>
      cases inserts
      cases stores with
      | @chat _ stored chatId fits => exact ⟨chatId, stored, fits, added⟩

theorem LooksUp.chat {chatName chatId : Bytes} {before trace : Trace}
    (valid : Valid trace) (looksUp : LooksUp chatName chatId before trace) :
    ∃ lookup rest, trace = before ++ lookup :: rest ∧
      lookup.request = .getChatId chatName ∧
        (chatId = ascii "null" ∨ ∃ chat ∈ lookup.before.chats,
          chat.chatName = chatName ∧ chatId = decimal chat.chatId) := by
  obtain ⟨lookup, rest, written, split, looks, replied, dumped⟩ := looksUp
  refine ⟨lookup, rest, split, looks, ?_⟩
  have answered := valid.answered lookup (by rw [split]; simp)
  rw [Answered, looks, replied] at answered
  rcases answers_getChatId answered with ⟨-, value⟩ | ⟨chat, member, same, value⟩
  · rw [value] at dumped
    exact .inl (Except.ok.inj dumped).symm
  · rw [value] at dumped
    exact .inr ⟨chat, member, same, (Except.ok.inj dumped).symm⟩

/-- The chat that was created and then looked up is the one that the creation added. -/
theorem Creates.inserted {chatName : Bytes} {before rest trace : Trace} {chatId : Nat}
    {lookup : Exchange Store ClientRequest Reply} {chat : ChatRow}
    (creates : Creates chatName before) (valid : Valid trace)
    (split : trace = before ++ lookup :: rest) (member : chat ∈ lookup.before.chats)
    (named : chat.chatName = chatName) (sameChat : chat.chatId = chatId) :
    ∃ creation ∈ trace, creation.request = .addChat chatName ∧
      creation.reply = .success ∧ ¬ creation.before.HasChat chatId ∧
        creation.after.HasChat chatId := by
  subst split sameChat
  obtain ⟨creation, earlier, asks, success⟩ := creates
  have answered := valid.answered creation (List.mem_append_left _ earlier)
  rw [Answered, asks, success] at answered
  obtain ⟨chatId, stored, fits, added⟩ := answers_addChat answered
  have grown : creation.after.Grows lookup.before :=
    (List.pairwise_append.mp valid.ordered).2.2 creation earlier lookup List.mem_cons_self
  have chats : creation.after.chats = creation.before.chats ++ [⟨chatId, stored⟩] := by
    rw [added]
    rfl
  have inserted : ⟨chatId, stored⟩ ∈ creation.after.chats := by
    rw [chats]
    exact List.mem_append_right _ (List.mem_singleton_self _)
  have short : characterLength chatName ≤ 50 := by
    rw [← named]
    exact lookup.before.consistent.chatLength chat member
  have storedName := varchar_of_length_le short fits
  have same : chat = ⟨chatId, stored⟩ :=
    Store.chat_of_name member (grown.chats inserted) (named.trans storedName.symm)
  subst same
  refine ⟨creation, List.mem_append_left _ earlier, asks, success, ?_, ⟨_, inserted, rfl⟩⟩
  intro before
  obtain ⟨other, otherMember, sameId⟩ := before
  have distinct := creation.after.consistent.chatIds
  rw [chats, List.map_append, List.nodup_append] at distinct
  exact distinct.2.2 other.chatId (List.mem_map_of_mem otherMember) chatId
    (List.mem_singleton_self _) sameId

theorem LooksUp.linked {userId : Nat} {chatName chatId : Bytes} {before trace : Trace}
    {user chat : SizeT} (valid : Valid trace) (looksUp : LooksUp chatName chatId before trace)
    (userFits : userId < 2 ^ 64)
    (encodes : Encodes (.linkUserToChat (decimal userId) chatId) (.linkUserToChat user chat))
    (real : 1 ≤ chat.toNat) :
    user.toNat = userId ∧ ∃ lookup rest, trace = before ++ lookup :: rest ∧
      lookup.request = .getChatId chatName ∧
        ∃ row ∈ lookup.before.chats, row.chatName = chatName ∧ row.chatId = chat.toNat := by
  obtain ⟨lookup, rest, split, looks, rfl | ⟨row, member, named, rfl⟩⟩ := looksUp.chat valid
  · rw [encodes_link_null userFits encodes] at real
    contradiction
  · have bound := (lookup.before.consistent.chatRange row member).2
    obtain ⟨sameUser, sameChat⟩ := encodes_link_decimal userFits (by omega) encodes
    exact ⟨sameUser, lookup, rest, split, looks, row, member, named, sameChat.symm⟩

/-- The user that a lookup found. -/
theorem found_user {username : Bytes} {userId : SizeT} {written : Document}
    {found : Exchange Store ClientRequest Reply} (answered : Answered found)
    (finds : found.request = .findUser username) (replied : found.reply = .document written)
    (sized : sizeAt .userId written.value = .ok userId) :
    ⟨userId.toNat, username⟩ ∈ found.before.users := by
  rw [Answered, finds, replied] at answered
  obtain ⟨user, stored, rfl, value⟩ := answers_findUser answered
  rw [value] at sized
  have bound := (found.before.consistent.userRange user stored).2
  have same : userId.toNat = user.userId := by
    rw [← Except.ok.inj sized, UInt64.toNat_ofNat']
    omega
  rw [same]
  exact stored

theorem LoggedIn.user {username : Bytes} {userId : SizeT} {trace : Trace} {store : Store}
    (answered : ∀ exchange ∈ trace, Answered exchange)
    (past : ∀ exchange ∈ trace, exchange.after.Grows store)
    (loggedIn : LoggedIn username userId trace) :
    ⟨userId.toNat, username⟩ ∈ store.users := by
  obtain ⟨exchange, member, finds, written, replied, sized⟩ := loggedIn
  have stored := found_user (answered exchange member) finds replied sized
  exact ((answered exchange member).grows.trans (past exchange member)).users stored

theorem invited_chat {userName userId : Bytes} {chatId user chat : SizeT} {trace : Trace}
    {found : Exchange Store ClientRequest Reply} {written : Document} (valid : Valid trace)
    (member : found ∈ trace) (finds : found.request = .findUser userName)
    (replied : found.reply = .document written)
    (dumped : dumpAt .userId written.value = .ok userId)
    (encodes : Encodes (.linkUserToChat userId (stdToString chatId))
      (.linkUserToChat user chat)) : chat.toNat = chatId.toNat := by
  have answered := valid.answered found member
  rw [Answered, finds, replied] at answered
  obtain ⟨row, stored, -, value⟩ := answers_findUser answered
  rw [value] at dumped
  have written : userId = decimal row.userId := (Except.ok.inj dumped).symm
  subst written
  have bound := (found.before.consistent.userRange row stored).2
  exact (encodes_link_decimal (by omega) chatId.toNat_lt encodes).2

/-- A user enters a chat by creating it or by a member's invitation, in every run in
which no first login takes over a chat of its name. -/
theorem entered_of_linked [DecidableEq ι] {start state after : System ι}
    (starts : start.Starts) (reached : Reaches (messenger pg) notesOwn start state)
    {move : Move ι Event (List pg.Chance)}
    (stepped : state.step (messenger pg) move = some after) {userId chatId : Nat}
    (new : ¬ state.store.Linked userId chatId) (linked : after.store.Linked userId chatId) :
    ∃ client chances, move = .exchange client chances ∧
      Entered state client userId chatId := by
  cases State.stepped stepped with
  | start idle handled => exact absurd linked new
  | unanswered running served =>
      rcases serve_cases served with ⟨-, rfl⟩ | ⟨answer, impossible, -⟩
      · exact absurd linked new
      · contradiction
  | @answered client chances event window request again next reply store running served =>
      refine ⟨client, chances, rfl, ?_⟩
      rcases serve_cases served with ⟨impossible, -⟩ | ⟨answer, -, call, encodes, call_served⟩
      · contradiction
      have underway := reached.underway (messenger_lawful pg) (messenger_member notesOwn)
        (starts.member notesOwn) running
      have valid := underway.chained
      rcases call_served.linked_cases linked with earlier | ⟨user, chat, rfl, rfl, rfl⟩
      · exact absurd earlier new
      have real := (Store.hasChat_pos (Store.linked_chat linked)).1
      cases encodes with
      | linkUserToChat reads =>
          cases (underway.sending : Links _ _ _ _ _) with
          | invited action member finds replied dumped =>
              have same := invited_chat valid member finds replied dumped
                (.linkUserToChat reads)
              rcases Membership.current underway.held with zero | allowed
              · rw [same, zero] at real
                contradiction
              · exact .invited running action (same ▸ allowed)
          | @created window _ before _ chatName _ action creates looksUp =>
              obtain ⟨sameUser, lookup, rest, split, looks, row, rowMember, named, sameChat⟩ :=
                looksUp.linked valid window.user.userId.toNat_lt (.linkUserToChat reads) real
              obtain ⟨creation, member, asks, success, absent, present⟩ :=
                creates.inserted valid split rowMember named sameChat
              exact .created running sameUser.symm member asks success absent present
          | @first _ before _ username _ userId action loggedIn looksUp =>
              obtain ⟨sameUser, lookup, rest, split, looks, row, rowMember, named, sameChat⟩ :=
                looksUp.linked valid userId.toNat_lt (.linkUserToChat reads) real
              have own := underway.meeting before lookup rest split
              simp only [notesOwn, action] at own
              have member : ∀ exchange ∈ before,
                  exchange ∈ (state.clients client).trace := by
                intro exchange earlier
                rw [split]
                exact List.mem_append_left _ earlier
              have answered : ∀ exchange ∈ before, Answered exchange :=
                fun exchange earlier => valid.answered exchange (member exchange earlier)
              rcases own looks with creates | inside
              · obtain ⟨creation, inTrace, asks, success, absent, present⟩ :=
                  creates.inserted valid split rowMember named sameChat
                have user := loggedIn.user answered fun exchange earlier =>
                  underway.past exchange (member exchange earlier)
                rw [← sameUser] at user
                exact .created running ⟨username, action, user⟩ inTrace asks success absent
                  present
              · -- the chat was somebody's, but its own user is in it already
                have registered := loggedIn.user answered fun exchange earlier => by
                  rw [split] at valid
                  exact (List.pairwise_append.mp valid.ordered).2.2 exchange earlier lookup
                    List.mem_cons_self
                have already := inside row rowMember named _ registered rfl
                rw [← sameUser, sameChat] at already
                have lookupMember : lookup ∈ (state.clients client).trace := by
                  rw [split]
                  exact List.mem_append_right _ List.mem_cons_self
                have grown := (valid.answered lookup lookupMember).grows.trans
                  (underway.past lookup lookupMember)
                exact absurd (grown.linked already) new

/-! Bob's first login beside Ann. -/

def createsBefore : Test Unit Store Window Event ClientRequest Reply :=
  fun _ _ _ before exchange =>
    match exchange.request with
    | .getChatId chatName => before.any fun creation =>
        creation.request = .addChat chatName && isSuccess creation.reply
    | _ => true

theorem notesOwn_of_createsBefore (client : Unit) (window : Window) (event : Event)
    (before : Trace) (exchange : Exchange Store ClientRequest Reply)
    (passes : createsBefore client window event before exchange = true) :
    notesOwn client window event before exchange := by
  unfold notesOwn
  split
  · intro looks
    simp only [createsBefore, looks, List.any_eq_true, Bool.and_eq_true,
      decide_eq_true_eq] at passes
    obtain ⟨creation, member, asks, success⟩ := passes
    exact .inl ⟨creation, member, asks, isSuccess_iff.mp success⟩
  · exact trivial

/-- Ann has taken the name that Bob's first login gives its chat. -/
def annsBobNotes : Store where
  users := [⟨1, ascii "ann"⟩]
  chats := [⟨1, ascii "ann notes"⟩, ⟨2, ascii "bob notes"⟩]
  userIdChatId := [⟨1, 1⟩, ⟨1, 2⟩]
  messages := []
  userIdTrelloToken := []
  consistent := by decide

def createdNothing
    (value : Interaction.Client Store Window Event ClientRequest Reply Output) : Bool :=
  match value.activity with
  | .running .auth _ _ => value.trace.all fun exchange =>
      match exchange.request with
      | .addChat _ => !isSuccess exchange.reply
      | _ => true
  | _ => false

/-- Bob creates nothing, is not in the chat, and then is in it. -/
private def entering (state after : System Unit) : Option (Bool × Bool × Bool) :=
  some (createdNothing (state.clients ()), decide (state.store.Linked 2 2),
    decide (after.store.Linked 2 2))

private def enteringRun (store : Store)
    (test : Test Unit Store Window Event ClientRequest Reply) : Option (Bool × Bool × Bool) :=
  lastSeen store test (handlerRun () (.authButton (ascii "bob")) 2 5)
    (.exchange () (List.replicate 4 ⟨true, 2⟩)) entering

private theorem enteringRuns :
    enteringRun annAlone createsBefore = some (false, false, true) ∧
      enteringRun annsBobNotes (fun _ _ _ _ _ => true) = some (true, false, true) := by
  decide +kernel

private theorem entering_eq_some {state after : System Unit} {nothing : Bool}
    (seen : entering state after = some (nothing, false, true)) :
    createdNothing (state.clients ()) = nothing ∧ ¬ state.store.Linked 2 2 ∧
      after.store.Linked 2 2 := by
  simp only [entering, Option.some.injEq, Prod.mk.injEq, decide_eq_true_eq,
    decide_eq_false_iff_not] at seen
  exact seen

theorem entered_annAlone :
    ∃ state : System Unit, Entered state () 2 2 := by
  obtain ⟨state, after, reached, -, stepped, seen⟩ :=
    lastSeen_eq_some notesOwn_of_createsBefore enteringRuns.1
  obtain ⟨-, new, linked⟩ := entering_eq_some seen
  obtain ⟨client, chances, moved, entered⟩ := entered_of_linked (loggedOut_starts annAlone)
    reached stepped new linked
  exact ⟨state, entered⟩

theorem not_entered_of_createdNothing {state : System ι} {client : ι} {userId chatId : Nat}
    (nothing : createdNothing (state.clients client) = true) :
    ¬ Entered state client userId chatId := by
  intro entered
  cases entered with
  | invited running action member => simp [createdNothing, running] at nothing
  | @created window event program chatName creation running own member creates success =>
      cases window with
      | auth =>
          simp only [createdNothing, running, List.all_eq_true] at nothing
          have refused := nothing creation member
          simp [creates, success, isSuccess] at refused
      | _ => simp [createdNothing, running] at nothing

/-- Bob's first login makes him a member of Ann's chat. -/
theorem entered_uninvited :
    ∃ (state after : System Unit) (move : Move Unit Event (List Reference.Draw)),
      Reaches (messenger Reference.postgres) unrestricted (loggedOut annsBobNotes) state ∧
        state.step (messenger Reference.postgres) move = some after ∧
          ¬ state.store.Linked 2 2 ∧ after.store.Linked 2 2 ∧
            ∀ client, ¬ Entered state client 2 2 := by
  obtain ⟨state, after, reached, -, stepped, seen⟩ :=
    @lastSeen_eq_some _ _ _ unrestricted (fun _ _ _ _ _ _ => trivial) _ _ _ _ enteringRuns.2
  obtain ⟨nothing, new, linked⟩ := entering_eq_some seen
  exact ⟨state, after, _, reached, stepped, new, linked,
    fun _ => not_entered_of_createdNothing nothing⟩

end BpkMessenger.Client
