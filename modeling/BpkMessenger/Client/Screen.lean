import BpkMessenger.Client.MessageRows
import BpkMessenger.Client.Shown
import BpkMessenger.Interaction.Lasting

namespace BpkMessenger.Client

open Text Server Interaction

/-! The conversation on the screen, along a run. -/

variable {pg : Postgres} {ι : Type}

theorem window_onScreen {activity : Activity Window Event ClientRequest Reply Output}
    {main : MainWindow} (shows : onScreen activity = some main) :
    activity.window = some (.main main) := by
  unfold onScreen at shows
  split at shows
  · cases shows
    rfl
  · cases shows
    rfl
  · contradiction

/-! Main windows along a run. -/

theorem System.Starts.keeps {holds : MainWindow → Store → Prop}
    {post : Window → Event → Window → Trace → Prop} {state : System ι}
    (starts : state.Starts) (condition : Requirement ι) (client : ι) :
    Holds Answered Store.Precedes condition Sends post (fun _ => Window.Keeps holds)
      state.store client (state.clients client) := by
  simp only [Holds, starts client]
  exact trivial

/-- A main window is followed by main windows only. -/
def Window.Related (related : MainWindow → MainWindow → Prop) (first second : Window) : Prop :=
  ∀ main, first = .main main → ∃ result, second = .main result ∧ related main result

section Related

variable [DecidableEq ι] {start state final : System ι} {client : ι}

theorem Follows.ended (starts : start.Starts)
    (reached : Reaches (messenger pg) unrestricted start state)
    {move : Move ι Event (List pg.Chance)} {window result : Window} {event : Event}
    {program : Act Window} {trace : Trace} {store : Store}
    (advances : Advances (messenger pg) state move client window event program trace store)
    (ended : program.outcome = some (some result)) : Follows window event result trace := by
  have lawful := messenger_precedes pg
  have verified := @Maintained.verified pg ι _ conversation_maintained unrestricted
  have holding := Reaches.holds lawful verified (starts.keeps unrestricted) reached
  exact (advances.underway lawful verified holding (meets_unrestricted state move)).safe.outcome
    ended

/-- What every handler makes of a main window, the main windows of a client are to each
other. -/
theorem main_lasts {related : MainWindow → MainWindow → Prop} {earlier stays : Requirement ι}
    (refl : ∀ main, related main main)
    (trans : ∀ {first second third}, related first second → related second third →
      related first third)
    (weaker : ∀ {other window event trace exchange},
      stays other window event trace exchange → earlier other window event trace exchange)
    (starts : start.Starts)
    (left : ∀ {middle move main event program trace store result},
      Reaches (messenger pg) earlier start middle → Meets (messenger pg) stays middle move →
        Advances (messenger pg) middle move client (.main main) event program trace store →
          program.outcome = some (some (.main result)) → Leaves main event result trace →
            related main result)
    (reached : Reaches (messenger pg) earlier start state)
    (later : Reaches (messenger pg) stays state final) {main : MainWindow} {window : Window}
    (first : onScreen (state.clients client).activity = some main)
    (last : (final.clients client).activity.window = some window) :
    ∃ result, window = .main result ∧ related main result := by
  have lasts : Window.Related related (.main main) window := by
    refine later.lasts (fun window main same => ⟨main, same, refl main⟩) ?_ ?_
      (window_onScreen first) last
    · intro first second third before after main same
      obtain ⟨middle, same, kept⟩ := before main same
      obtain ⟨result, same, onward⟩ := after middle same
      exact ⟨result, same, trans kept onward⟩
    · intro middle move window event program trace store after passed meets advances ended main
        same
      subst same
      have passed : Reaches (messenger pg) earlier start middle :=
        reached.trans (passed.mono weaker)
      cases Follows.ended starts (passed.mono fun _ => trivial) advances ended with
      | main leaves => exact ⟨_, rfl, left passed meets advances ended leaves⟩
  exact lasts main rfl

end Related

/-! Rows that stay. -/

/-- No reply comes for a click of this client on a chat. -/
def unclicked (client : ι) : Requirement ι :=
  fun other _ event _ _ => other = client → ∀ row, event.action ≠ .itemClicked row

def MessageView.Incoming (view : MessageView) : Prop :=
  ∃ text, view = .incoming text

/-- The same chat is shown to the same user, and none of these rows has gone. -/
structure MainWindow.Lasts (views : MessageView → Prop) (main result : MainWindow) : Prop where
  user : result.user = main.user
  currentChatId : result.currentChatId = main.currentChatId
  label : result.label = main.label
  rows : ∀ view, views view → main.listWidget.count view ≤ result.listWidget.count view

/-- These rows are stored, each as often as it is shown. -/
def MainWindow.Stored (views : MessageView → Prop) (main : MainWindow) (store : Store) : Prop :=
  ∀ view, views view → main.listWidget.count view ≤
    (rendering main.user main.currentChatId store).count view

section Views

variable {views : MessageView → Prop}

theorem MainWindow.Lasts.refl (main : MainWindow) : main.Lasts views main :=
  ⟨rfl, rfl, rfl, fun _ _ => Nat.le_refl _⟩

theorem MainWindow.Lasts.trans {first second third : MainWindow}
    (left : first.Lasts views second) (right : second.Lasts views third) :
    first.Lasts views third :=
  ⟨right.user.trans left.user, right.currentChatId.trans left.currentChatId,
    right.label.trans left.label,
    fun view kind => (left.rows view kind).trans (right.rows view kind)⟩

/-- A redrawn view has at least the rows that were stored when they were shown. -/
theorem Drawn.lasts {main result : MainWindow} {trace : Trace} {store : Store}
    (drawn : Drawn main.currentChatId main result trace)
    (before : ∀ exchange ∈ trace, exchange.before.Precedes store)
    (seen : ∀ exchange ∈ trace, main.Stored views exchange.before) : main.Lasts views result := by
  obtain ⟨exchange, member, history, -, -, -, ⟨-, rfl⟩ | ⟨-, listWidget, perm, rfl⟩⟩ :=
    drawn.replied before
  · exact .refl _
  · refine ⟨rfl, rfl, rfl, fun view kind => ?_⟩
    calc main.listWidget.count view
        ≤ (rendering main.user main.currentChatId exchange.before).count view :=
          seen exchange member view kind
      _ = listWidget.count view := (perm.count_eq _).symm

theorem Leaves.lasts {main result : MainWindow} {event : Event} {trace : Trace} {store : Store}
    (leaves : Leaves main event result trace)
    (stays : ∀ exchange ∈ trace, ∀ row, event.action ≠ .itemClicked row)
    (before : ∀ exchange ∈ trace, exchange.before.Precedes store)
    (seen : ∀ exchange ∈ trace, main.Stored views exchange.before) : main.Lasts views result := by
  cases leaves with
  | unchanged quiet => exact .refl _
  | sent action =>
      refine ⟨rfl, rfl, rfl, fun view _ => ?_⟩
      rw [List.count_append]
      exact Nat.le_add_right _ _
  | clicked action inside drawn =>
      obtain ⟨exchange, member, -⟩ := drawn
      exact absurd action (stays exchange member _)
  | polled action drawn => exact drawn.lasts before seen
  | rebuilt action gathered differs rebuilds =>
      obtain ⟨chats, chatNames, rfl, -⟩ := gathered
      obtain ⟨listWidget2, iconToChatId, iconToName, rfl⟩ := updateChatsUi_withList rebuilds
      exact ⟨rfl, rfl, rfl, fun _ _ => Nat.le_refl _⟩
  | fetched action gathered counted =>
      obtain ⟨chats, chatNames, rfl, -⟩ := gathered
      exact ⟨rfl, rfl, rfl, fun _ _ => Nat.le_refl _⟩
  | added action gathered =>
      obtain ⟨chats, chatNames, rfl, -⟩ := gathered
      exact ⟨rfl, rfl, rfl, fun _ _ => Nat.le_refl _⟩
  | viewed action => exact ⟨rfl, rfl, rfl, fun _ _ => Nat.le_refl _⟩

end Views

section Lasts

variable [DecidableEq ι] {start state final : System ι} {client : ι}

/-- Rows that have been stored at every exchange of their client stay on the screen for as
long as its user chooses no other chat. -/
theorem rows_last {views : MessageView → Prop} {earlier stays : Requirement ι}
    (weaker : ∀ {other window event trace exchange},
      stays other window event trace exchange → earlier other window event trace exchange)
    (chooses : ∀ {other window event trace exchange},
      stays other window event trace exchange → unclicked client other window event trace exchange)
    (starts : start.Starts)
    (seen : ∀ {middle move main event program trace store result},
      Reaches (messenger pg) earlier start middle →
        Advances (messenger pg) middle move client (.main main) event program trace store →
          program.outcome = some (some (.main result)) →
            ∀ exchange ∈ trace, main.Stored views exchange.before)
    (reached : Reaches (messenger pg) earlier start state)
    (later : Reaches (messenger pg) stays state final) {main : MainWindow} {window : Window}
    (first : onScreen (state.clients client).activity = some main)
    (last : (final.clients client).activity.window = some window) :
    ∃ result, window = .main result ∧ main.Lasts views result := by
  refine main_lasts MainWindow.Lasts.refl MainWindow.Lasts.trans weaker starts ?_ reached later
    first last
  intro middle move main event program trace store result passed meets advances ended leaves
  obtain ⟨-, ordered, past, -, -⟩ :=
    conversation_maintained.ended starts (passed.mono fun _ => trivial) advances ended
  refine leaves.lasts (fun exchange member => ?_) (Chained.before_precedes ordered past)
    (seen passed advances ended)
  exact Advances.meets_last (fun stays => chooses stays rfl) meets advances
    (List.ne_nil_of_mem member)

/-- Once shown, the messages of others stay for as long as the user chooses no other chat. -/
theorem incoming_lasts (starts : start.Starts)
    (reached : Reaches (messenger pg) unrestricted start state)
    (later : Reaches (messenger pg) (unclicked client) state final) {main result : MainWindow}
    (first : onScreen (state.clients client).activity = some main)
    (last : onScreen (final.clients client).activity = some result) :
    main.Lasts MessageView.Incoming result := by
  have lasts : ∃ found, Window.main result = .main found ∧
      main.Lasts MessageView.Incoming found := by
    refine rows_last (fun _ => trivial) id starts ?_ reached later first (window_onScreen last)
    intro middle move main event program trace store result passed advances ended exchange member
    obtain ⟨-, -, -, -, seen⟩ := conversation_maintained.ended starts passed advances ended
    intro view kind
    obtain ⟨text, rfl⟩ := kind
    exact (seen exchange member).incoming text
  obtain ⟨found, same, kept⟩ := lasts
  cases same
  exact kept

end Lasts

/-! Own messages. -/

/-- Every message that this client sends is for the chat that it shows, and is stored. -/
def delivers (client : ι) : Requirement ι :=
  fun other window _ _ exchange => other = client → ∀ main chatId senderId text,
    window = .main main → exchange.request = .addMessage chatId senderId text →
      chatId = main.currentChatId ∧ exchange.reply = .success

/-- Own messages are stored, each as often as it is shown. -/
def Genuine (main : MainWindow) (store : Store) : Prop :=
  ∀ text, main.listWidget.count (.outgoing text) ≤
    store.messages.count ⟨main.currentChatId.toNat, main.user.userId.toNat, text⟩

/-- The request of the send button. -/
def Posted (main : MainWindow) (text : Bytes) (trace : Trace) : Prop :=
  ∃ exchange ∈ trace, ∃ chatId, exchange.request = .addMessage chatId main.user.userId text

def Posts (window : Window) (event : Event) (result : Window) (trace : Trace) : Prop :=
  ∀ main text, window = .main main → event.action = .sendButton text →
    result = .main main ∨ Posted main text trace

theorem sendButton_posts (main : MainWindow) (text : Bytes) :
    Safe Ordered (fun _ _ => True) (fun result trace => result = main ∨ Posted main text trace)
      (main.sendButton text) [] := by
  unfold MainWindow.sendButton
  by_cases empty : text = []
  · rw [if_pos empty]
    exact Safe.done (.inl rfl)
  · rw [if_neg empty]
    apply Safe.bind_send trivial
    intro exchange same ordered
    have posted : Posted main text ([] ++ [exchange]) :=
      ⟨exchange, List.mem_singleton_self exchange, _, same⟩
    cases exchange.reply with
    | fail => exact Safe.bind_report (Safe.done (.inr posted))
    | _ => exact Safe.done (.inr posted)

theorem handler_posts {window : Window} {event : Event} {program : Act Window}
    (handled : handler window event = some program) :
    Safe Ordered (fun _ _ => True) (Posts window event) program [] := by
  by_cases pressed : ∃ text, event.action = .sendButton text
  · obtain ⟨text, action⟩ := pressed
    cases window with
    | main main =>
        simp only [handler, MainWindow.handler, action, Option.map_some,
          Option.some.injEq] at handled
        subst handled
        apply Safe.bind (sendButton_posts main text) Chained.nil
        intro result final longer ordered posted
        apply Safe.done
        intro other sent same sends
        cases same
        rw [action] at sends
        cases sends
        exact posted.imp_left (congrArg Window.main)
    | _ => simp [handler, action] at handled
  · apply (Safe.unasked (fun _ _ => trivial) program []).weaken
    intro result final unasked main text same action
    exact absurd ⟨text, action⟩ pressed

/-! What a refreshed view has of own messages. -/

theorem Genuine.stable {main : MainWindow} {store after : Store}
    (precedes : store.Precedes after) (genuine : Genuine main store) : Genuine main after :=
  fun text => (genuine text).trans (precedes.messages.sublist.count_le _)

theorem Genuine.of_perm {main : MainWindow} {store : Store}
    (perm : main.listWidget.Perm (rendering main.user main.currentChatId store)) :
    Genuine main store := by
  intro text
  rw [perm.count_eq, count_outgoing]

/-- A message that was sent for the chat that is shown, and stored. -/
theorem Genuine.sent {main : MainWindow} {text : Bytes}
    {exchange : Exchange Store ClientRequest Reply} {size : Nat}
    (genuine : Genuine main exchange.before) (answered : Answered exchange)
    (asked : exchange.request = .addMessage main.currentChatId main.user.userId text)
    (stored : exchange.reply = .success) :
    Genuine { main with
      listWidget := main.listWidget ++ [.outgoing text]
      currentChatMessagesSize := size } exchange.after := by
  obtain ⟨call, encodes, served⟩ := answered
  rw [asked] at encodes
  cases encodes
  intro other
  have one : [MessageView.outgoing text].count (.outgoing other) =
      [(⟨main.currentChatId.toNat, main.user.userId.toNat, text⟩ : MessageRow)].count
        ⟨main.currentChatId.toNat, main.user.userId.toNat, other⟩ := by
    simp [List.count_singleton]
  rw [served.messages, stored, posted, List.count_append, List.count_append, one]
  exact Nat.add_le_add_right (genuine other) _

theorem Drawn.genuine {chatId : SizeT} {window result : MainWindow} {trace : Trace}
    {store : Store} (drawn : Drawn chatId window result trace)
    (before : ∀ exchange ∈ trace, exchange.before.Precedes store)
    (kept : Genuine { window with currentChatId := chatId } store) :
    Genuine { result with currentChatId := chatId } store := by
  obtain ⟨exchange, member, history, -, -, -, ⟨-, rfl⟩ | ⟨-, listWidget, perm, rfl⟩⟩ :=
    drawn.replied before
  · exact kept
  · exact (Genuine.of_perm perm).stable (before exchange member)

theorem Genuine.empty {main : MainWindow} (store : Store) (none : main.listWidget = []) :
    Genuine main store := by
  intro text
  rw [none, List.count_nil]
  exact Nat.zero_le _

theorem Built.genuine {fresh : Allocator} {user : User} {main : MainWindow} {trace : Trace}
    {store : Store} (built : Built fresh user main trace)
    (before : ∀ exchange ∈ trace, exchange.before.Precedes store) : Genuine main store := by
  obtain ⟨fetched, rebuilt, redrawn, gathered, rebuilds, drawn, rfl⟩ := built
  obtain ⟨chats, chatNames, rfl, -⟩ := gathered
  obtain ⟨listWidget2, iconToChatId, iconToName, rfl⟩ := updateChatsUi_withList rebuilds
  exact drawn.genuine before (Genuine.empty store rfl)

theorem Leaves.genuine {main result : MainWindow} {event : Event} {trace : Trace} {store : Store}
    (leaves : Leaves main event result trace) (ordered : Ordered trace)
    (past : ∀ exchange ∈ trace, exchange.after.Precedes store)
    (posts : Posts (.main main) event (.main result) trace)
    (delivered : ∀ exchange ∈ trace, ∀ chatId senderId text,
      exchange.request = .addMessage chatId senderId text →
        chatId = main.currentChatId ∧ exchange.reply = .success)
    (genuine : Genuine main store) (seen : ∀ exchange ∈ trace, Genuine main exchange.before) :
    Genuine result store := by
  have before := Chained.before_precedes ordered past
  cases leaves with
  | @sent text _ action =>
      rcases posts main text rfl action with same | ⟨exchange, member, chatId, asked⟩
      · rw [Window.main.inj same]
        exact genuine
      · obtain ⟨rfl, stored⟩ := delivered exchange member _ _ _ asked
        exact ((seen exchange member).sent (ordered.answered exchange member) asked
          stored).stable (past exchange member)
  | clicked action inside drawn => exact drawn.genuine before (Genuine.empty store rfl)
  | polled action drawn =>
      obtain ⟨listWidget, size, rfl⟩ := drawn.redrawn
      exact drawn.genuine before genuine
  | rebuilt action gathered differs rebuilds =>
      obtain ⟨chats, chatNames, rfl, -⟩ := gathered
      obtain ⟨listWidget2, iconToChatId, iconToName, rfl⟩ := updateChatsUi_withList rebuilds
      exact genuine
  | fetched action gathered counted =>
      obtain ⟨chats, chatNames, rfl, -⟩ := gathered
      exact genuine
  | added action gathered =>
      obtain ⟨chats, chatNames, rfl, -⟩ := gathered
      exact genuine
  | _ => exact genuine

theorem genuine_attested (client : ι) :
    Attested Answered Store.Precedes (delivers client)
      (fun window event result trace =>
        Follows window event result trace ∧ Posts window event result trace)
      fun other window store => other = client → window.Keeps Genuine store where
  stable := by
    intro other window store after precedes kept own
    cases window with
    | main main => exact (kept own).stable precedes
    | _ => exact trivial
  preserved := by
    intro other window event result trace store ordered meeting past kept seen both own
    obtain ⟨follows, posts⟩ := both
    have before := Chained.before_precedes ordered past
    cases follows with
    | known loggedIn built => exact built.genuine before
    | authorised built => exact built.genuine before
    | @main main result _ _ leaves =>
        refine leaves.genuine ordered past posts ?_ (kept own) fun exchange member =>
          seen exchange member own
        intro exchange member chatId senderId text asked
        obtain ⟨earlier, rest, split⟩ := List.append_of_mem member
        exact meeting earlier exchange rest split own main chatId senderId text rfl asked
    | _ => exact trivial

section Runs

variable [DecidableEq ι] {start state : System ι} {client : ι}

/-- In a run in which a client sends to the chat that it shows only, and every message is stored. -/
theorem genuine_upheld (starts : start.Starts)
    (reached : Reaches (messenger pg) (delivers client) start state) (other : ι) :
    Upheld (fun other window store => other = client → window.Keeps Genuine store) state.store
      other (state.clients other) := by
  have verified := (@Maintained.verified pg ι _ conversation_maintained (delivers client)).and
    handler_posts
  refine Reaches.upheld (messenger_precedes pg) verified (genuine_attested client)
    (starts.keeps (delivers client)) (fun first => ⟨fun window shows own => ?_, ?_⟩) reached other
  · rw [starts first] at shows
    cases shows
    exact trivial
  · simp only [Witnessed, starts first]

theorem Genuine.stored {main : MainWindow} {store : Store} (genuine : Genuine main store)
    (conversation : Conversation main.currentChatId main store) :
    main.Stored (fun _ => True) store := by
  intro view _
  cases view with
  | outgoing text => exact (genuine text).trans_eq (count_outgoing _ _ _ text).symm
  | incoming text => exact conversation.incoming text

/-- Then every row of the view is a message that is stored, each as often as it is shown. -/
theorem screen_stored (starts : start.Starts)
    (reached : Reaches (messenger pg) (delivers client) start state) {main : MainWindow}
    (shows : onScreen (state.clients client).activity = some main) :
    main.listWidget.Subperm (rendering main.user main.currentChatId state.store) := by
  have genuine : Genuine main state.store :=
    (genuine_upheld starts reached client).now _ (window_onScreen shows) rfl
  have stored := genuine.stored
    (conversation_maintained.onScreen starts (reached.mono fun _ => trivial) shows)
  exact List.subperm_ext_iff.mpr fun view _ => stored view trivial

theorem stored_seen (starts : start.Starts)
    (reached : Reaches (messenger pg) (delivers client) start state)
    {move : Move ι Event (List pg.Chance)} {main result : MainWindow} {event : Event}
    {program : Act Window} {trace : Trace} {store : Store}
    (advances : Advances (messenger pg) state move client (.main main) event program trace store)
    (ended : program.outcome = some (some (.main result))) :
    ∀ exchange ∈ trace, main.Stored (fun _ => True) exchange.before := by
  obtain ⟨-, -, -, -, seen⟩ :=
    conversation_maintained.ended starts (reached.mono fun _ => trivial) advances ended
  have upheld := advances.upheld (messenger_precedes pg) (genuine_attested client)
    (genuine_upheld starts reached)
  intro exchange member
  exact Genuine.stored (upheld.2 exchange member rfl) (seen exchange member)

/-- Then a tick leaves exactly the messages of the chat that are stored when it reads them. -/
theorem tick_faithful (starts : start.Starts)
    (reached : Reaches (messenger pg) (delivers client) start state)
    {move : Move ι Event (List pg.Chance)} {main result : MainWindow} {event : Event}
    (action : event.action = .timerMessage) {program : Act Window} {trace : Trace} {store : Store}
    (advances : Advances (messenger pg) state move client (.main main) event program trace store)
    (ended : program.outcome = some (some (.main result))) :
    ∃ exchange ∈ trace, exchange.request = .getChatHistory main.currentChatId ∧
      result.listWidget.Perm (rendering main.user main.currentChatId exchange.before) := by
  obtain ⟨leaves, ordered, past, -, seen⟩ :=
    conversation_maintained.ended starts (reached.mono fun _ => trivial) advances ended
  have stored := stored_seen starts reached advances ended
  cases leaves with
  | polled tick drawn =>
      obtain ⟨exchange, member, history, asked, -, -, ⟨counted, rfl⟩ | ⟨-, _, perm, rfl⟩⟩ :=
        drawn.replied (Chained.before_precedes ordered past)
      · have size := (seen exchange member).size
        have all := stored exchange member
        refine ⟨exchange, member, asked, perm_of_counts ?_ (fun text => all _ trivial)
          fun text => all _ trivial⟩
        rw [← size, counted, rendering, List.length_map]
      · exact ⟨exchange, member, asked, perm⟩
  | unchanged quiet =>
      rw [action] at quiet
      contradiction
  | sent other | clicked other | rebuilt other | fetched other | added other | viewed other =>
      rw [action] at other
      contradiction

end Runs

/-! Ann and Bob talk. -/

def annTalks : List (Move Bool Event (List Reference.Draw)) :=
  handlerRun false (.authButton (ascii "bob")) 0 4 ++
    handlerRun true (.authButton (ascii "ann")) 0 4 ++
    handlerRun true (.sendButton (ascii "hi")) 0 1 ++
    handlerRun false (.sendButton (ascii "yo")) 0 1

def deliversTest (client : Bool) :
    Test Bool Store Window Event ClientRequest Reply :=
  fun other window _ _ exchange =>
    match window, exchange.request with
    | .main main, .addMessage chatId _ _ =>
        other != client || chatId == main.currentChatId && isSuccess exchange.reply
    | _, _ => true

theorem delivers_of_test {client other : Bool} {window : Window} {event : Event}
    {trace : Trace} {exchange : Exchange Store ClientRequest Reply}
    (passes : deliversTest client other window event trace exchange = true) :
    delivers client other window event trace exchange := by
  intro own main chatId senderId text same asked
  subst own same
  simpa [deliversTest, asked, isSuccess_iff] using passes

def unclickedTest (client : Bool) :
    Test Bool Store Window Event ClientRequest Reply :=
  fun other _ event _ _ =>
    match event.action with
    | .itemClicked _ => other != client
    | _ => true

theorem unclicked_of_test {client other : Bool} {window : Window} {event : Event}
    {trace : Trace} {exchange : Exchange Store ClientRequest Reply}
    (passes : unclickedTest client other window event trace exchange = true) :
    unclicked client other window event trace exchange := by
  intro own row clicked
  subst own
  simp [unclickedTest, clicked] at passes

def annRows : List MessageView :=
  [.outgoing (ascii "hi"), .incoming (ascii "bob: yo")]

/-- Ann's rows, and those after Bob has written once more. -/
private theorem annWaits :
    (((loggedOut annAndBob).run (messenger Reference.postgres) (deliversTest true)
      (annTalks ++ handlerRun true .timerMessage 0 2)).bind fun state =>
        (state.run (messenger Reference.postgres) (unclickedTest true)
          (handlerRun false (.sendButton (ascii "hey")) 0 1 ++
            handlerRun true .timerMessage 0 3)).bind fun final =>
              (onScreen (state.clients true).activity).bind fun main =>
                (onScreen (final.clients true).activity).map fun result =>
                  (main.listWidget, result.listWidget)) =
      some (annRows, annRows ++ [.incoming (ascii "bob: hey")]) := by
  decide +kernel

theorem incoming_lasts_ann :
    ∃ main result : MainWindow, main.listWidget = annRows ∧
      result.listWidget = annRows ++ [.incoming (ascii "bob: hey")] ∧
        main.Lasts MessageView.Incoming result := by
  obtain ⟨state, ran, rest⟩ := Option.bind_eq_some_iff.mp annWaits
  obtain ⟨final, later, rest⟩ := Option.bind_eq_some_iff.mp rest
  obtain ⟨main, first, rest⟩ := Option.bind_eq_some_iff.mp rest
  obtain ⟨result, last, rows⟩ := Option.map_eq_some_iff.mp rest
  obtain ⟨before, after⟩ := Prod.mk.inj rows
  exact ⟨main, result, before, after, incoming_lasts (loggedOut_starts annAndBob)
    (Reaches.of_run (fun _ _ _ _ _ _ => trivial) .start ran)
    (Reaches.of_run (fun _ _ _ _ _ => unclicked_of_test) .start later) first last⟩

theorem screen_stored_ann :
    ∃ (state : System Bool) (main : MainWindow), main.listWidget = annRows ∧
      main.listWidget.Subperm (rendering main.user main.currentChatId state.store) := by
  obtain ⟨state, ran, rest⟩ := Option.bind_eq_some_iff.mp annWaits
  obtain ⟨final, -, rest⟩ := Option.bind_eq_some_iff.mp rest
  obtain ⟨main, shows, rest⟩ := Option.bind_eq_some_iff.mp rest
  obtain ⟨result, -, rows⟩ := Option.map_eq_some_iff.mp rest
  exact ⟨state, main, (Prod.mk.inj rows).1, screen_stored (loggedOut_starts annAndBob)
    (Reaches.of_run (fun _ _ _ _ _ => delivers_of_test) .start ran) shows⟩

end BpkMessenger.Client
