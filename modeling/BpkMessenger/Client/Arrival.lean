import BpkMessenger.Client.Screen

namespace BpkMessenger.Client

open Text Server Interaction

/-! What is stored for a user comes to his screen. -/

variable {pg : Postgres} {ι : Type}

theorem onScreen_of_window {activity : Activity Window Event ClientRequest Reply Output}
    {main : MainWindow} (shows : activity.window = some (.main main)) :
    onScreen activity = some main := by
  cases activity with
  | idle window =>
      cases shows
      rfl
  | running window event program =>
      cases shows
      rfl
  | halted => contradiction

/-- A client whose windows stay main windows, of which something comes to hold. -/
theorem onScreen_stays [DecidableEq ι] {execution : Execution ι (messenger pg)} {client : ι}
    {n : Nat} {good : MainWindow → Prop}
    (stays : ∃ m ≥ n, ∀ k ≥ m, ∃ window,
      ((execution.states k).clients client).activity.window = some window ∧
        ∃ main, window = .main main ∧ good main) :
    ∃ m ≥ n, ∀ k ≥ m, ∃ main,
      onScreen ((execution.states k).clients client).activity = some main ∧ good main := by
  obtain ⟨m, later, holds⟩ := stays
  refine ⟨m, later, fun k beyond => ?_⟩
  obtain ⟨window, shows, main, rfl, holds⟩ := holds k beyond
  exact ⟨main, onScreen_of_window shows, holds⟩

/-! Messages. -/

/-- What both conditions say. -/
def watching (client : ι) : Requirement ι :=
  fun other window event trace exchange =>
    delivers client other window event trace exchange ∧
      unclicked client other window event trace exchange

theorem watching_meets {client : ι} {state : System ι} {move : Move ι Event (List pg.Chance)}
    (stored : Meets (messenger pg) (delivers client) state move)
    (stays : Meets (messenger pg) (unclicked client) state move) :
    Meets (messenger pg) (watching client) state move := by
  cases move with
  | start other event => exact trivial
  | exchange other chances =>
      intro window event request again next reply after running served
      exact ⟨stored _ _ _ _ _ _ _ running served, stays _ _ _ _ _ _ _ running served⟩

section Watches

variable [DecidableEq ι]

/-- From some point on a user looks at one chat, and the timer of the messages fires again and
again; every message of his own has been stored, and was for the chat that was shown. -/
structure Watches (execution : Execution ι (messenger pg)) (client : ι) (n : Nat) : Prop where
  starts : System.Starts (execution.states 0)
  delivered : ∀ m, Meets (messenger pg) (delivers client) (execution.states m) (execution.moves m)
  stays : ∀ m ≥ n, Meets (messenger pg) (unclicked client) (execution.states m)
    (execution.moves m)
  ticks : ∀ m, ∃ p ≥ m, ∃ event : Event, event.action = .timerMessage ∧
    execution.moves p = .start client event

variable {execution : Execution ι (messenger pg)} {client : ι} {n : Nat}

theorem Watches.reached (watches : Watches execution client n) (m : Nat) :
    Reaches (messenger pg) (delivers client) (execution.states 0) (execution.states m) :=
  Execution.reaches (Nat.zero_le m) fun m _ => watches.delivered m

/-- From then on no row goes. -/
theorem Watches.lasts (watches : Watches execution client n) {first last : Nat}
    (after : n ≤ first) (later : first ≤ last) {main : MainWindow} {window : Window}
    (shows : onScreen ((execution.states first).clients client).activity = some main)
    (shown : ((execution.states last).clients client).activity.window = some window) :
    ∃ result, window = .main result ∧ main.Lasts (fun _ => True) result := by
  have meets : ∀ m, first ≤ m → Meets (messenger pg) (watching client) (execution.states m)
      (execution.moves m) :=
    fun m above => watching_meets (watches.delivered m) (watches.stays m (after.trans above))
  exact rows_last And.left And.right watches.starts
    (fun passed advances ended => stored_seen watches.starts passed advances ended)
    (watches.reached first) (Execution.reaches later meets) shows shown

/-- A message that is stored in the chat that a user looks at is on his screen from some point
on for good. -/
theorem message_arrives (watches : Watches execution client n) {main : MainWindow}
    (shows : onScreen ((execution.states n).clients client).activity = some main)
    {message : MessageRow} (stored : message ∈ (execution.states n).store.messages)
    (chat : message.chatId = main.currentChatId.toNat) :
    ∃ m ≥ n, ∀ k ≥ m, ∃ result,
      onScreen ((execution.states k).clients client).activity = some result ∧
        rowView main.user (execution.states n).store.users message ∈ result.listWidget := by
  apply onScreen_stays
  apply Execution.comes_to_stay (messenger_precedes pg) watches.ticks
  · intro last window event program trace store result after action advances outcome seen
    obtain ⟨before, rfl, kept⟩ :=
      watches.lasts (Nat.le_refl n) after shows advances.window
    have passed := watches.reached last
    cases Follows.ended watches.starts (passed.mono fun _ => trivial) advances outcome with
    | @main _ result _ _ leaves =>
        obtain ⟨exchange, member, -, perm⟩ :=
          tick_faithful watches.starts passed action advances outcome
        have precedes := seen exchange member
        refine ⟨result, rfl, ?_⟩
        rw [perm.mem_iff, kept.user, kept.currentChatId, rowView_precedes precedes stored]
        apply List.mem_map_of_mem
        exact List.mem_filter.mpr ⟨precedes.messages.subset stored, decide_eq_true chat⟩
  · intro first last window result after later before shown listed
    obtain ⟨earlier, rfl, member⟩ := listed
    obtain ⟨result, rfl, stays⟩ :=
      watches.lasts after later (onScreen_of_window before) shown
    refine ⟨result, rfl, List.count_pos_iff.mp ?_⟩
    exact (List.count_pos_iff.mpr member).trans_le (stays.rows _ trivial)

end Watches

/-! Chats. -/

/-- No reply comes for a chat that this client adds; that would clear its list. -/
def unadded (client : ι) : Requirement ι :=
  fun other _ event _ _ => other = client → ∀ chatName, event.action ≠ .addChat chatName

/-- The list is empty only as long as no chats were counted. -/
def MainWindow.Filled (main : MainWindow) : Prop :=
  main.listWidget2 = [] → main.numOfChats = 0

/-- The same user, and no chat has gone from the list. -/
structure MainWindow.Extends (main result : MainWindow) : Prop where
  user : result.user = main.user
  rows : main.rows ⊆ result.rows
  filled : main.Filled → result.Filled

theorem MainWindow.Extends.refl (main : MainWindow) : main.Extends main :=
  ⟨rfl, fun _ member => member, id⟩

theorem MainWindow.Extends.trans {first second third : MainWindow}
    (left : first.Extends second) (right : second.Extends third) : first.Extends third :=
  ⟨right.user.trans left.user, fun _ member => right.rows (left.rows member),
    fun filled => right.filled (left.filled filled)⟩

/-- Every chat that is linked to the user is fetched. -/
theorem Reports.mem {window fetched : MainWindow} {listed store : Store} {chats : List ChatRow}
    (reports : Reports window fetched listed store chats) (precedes : listed.Precedes store)
    {chat : ChatRow} (stored : chat ∈ listed.chats)
    (linked : listed.Linked window.user.userId.toNat chat.chatId) : chat ∈ chats := by
  have ids : chat.chatId ∈ linkedChats window.user listed :=
    List.mem_map.mpr ⟨_, List.mem_filter.mpr ⟨linked, decide_eq_true rfl⟩, rfl⟩
  obtain ⟨found, member, same⟩ := List.mem_map.mp (reports.linked.mem_iff.mpr ids)
  have equal := List.inj_on_of_nodup_map store.consistent.chatIds (reports.stored member)
    (precedes.chats.subset stored) same
  rwa [← equal]

theorem Reports.rows_subset {main fetched : MainWindow} {listed store : Store}
    {chats : List ChatRow} (reports : Reports main fetched listed store chats)
    (listing : Listing main listed) (precedes : listed.Precedes store) :
    main.rows ⊆ chats.map chatRow := by
  rcases listing.rows with empty | ⟨earlier, others, before, linked, stored, rows, -⟩
  · rw [MainWindow.rows, empty]
    exact List.nil_subset _
  · rw [rows]
    intro row member
    obtain ⟨chat, known, rfl⟩ := List.mem_map.mp member
    have own := linked_of_mem_linkedChats (linked.subset (List.mem_map_of_mem known))
    exact List.mem_map_of_mem
      (reports.mem precedes (stored known) (before.links.subset own))

theorem Leaves.extends {main result : MainWindow} {event : Event} {trace : Trace} {store : Store}
    (leaves : Leaves main event result trace)
    (stays : ∀ exchange ∈ trace, ∀ chatName, event.action ≠ .addChat chatName)
    (before : ∀ exchange ∈ trace, exchange.before.Precedes store)
    (listing : Listing main store) (seen : ∀ exchange ∈ trace, Listing main exchange.before) :
    main.Extends result := by
  cases leaves with
  | clicked action inside drawn =>
      obtain ⟨listWidget, size, rfl⟩ := drawn.redrawn
      exact ⟨rfl, fun _ member => member, id⟩
  | polled action drawn =>
      obtain ⟨listWidget, size, rfl⟩ := drawn.redrawn
      exact ⟨rfl, fun _ member => member, id⟩
  | fetched action gathered counted =>
      obtain ⟨chats, chatNames, rfl, -⟩ := gathered
      exact ⟨rfl, fun _ member => member, id⟩
  | @rebuilt fetched rebuilt _ action gathered differs rebuilds =>
      obtain ⟨exchange, member, -, chats, reports⟩ := gathered.reports listing.chatNames before
      have rows := updateChatsUi_rows reports.elements rebuilds
      have user := (reports.listing (before exchange member) rebuilds).1
      refine ⟨user, ?_, fun _ empty => congrArg List.length empty⟩
      change main.rows ⊆ rebuilt.rows
      rw [rows]
      exact reports.rows_subset (seen exchange member) (before exchange member)
  | added action gathered =>
      obtain ⟨-, -, -, -, -, ⟨exchange, member, -⟩, -⟩ := gathered
      exact absurd action (stays exchange member _)
  | _ => exact ⟨rfl, fun _ member => member, id⟩

/-- A tick of the timer of the chats shows every chat that was linked when it asked. -/
theorem Leaves.lists {main result : MainWindow} {event : Event} {trace : Trace}
    {store known : Store} (leaves : Leaves main event result trace)
    (action : event.action = .timerChat) (filled : main.Filled)
    (before : ∀ exchange ∈ trace, exchange.before.Precedes store)
    (listing : Listing main store) (seen : ∀ exchange ∈ trace, Listing main exchange.before)
    (later : ∀ exchange ∈ trace, known.Precedes exchange.before) {chat : ChatRow}
    (stored : chat ∈ known.chats) (linked : known.Linked main.user.userId.toNat chat.chatId) :
    chatRow chat ∈ result.rows := by
  cases leaves with
  | @rebuilt fetched rebuilt _ tick gathered differs rebuilds =>
      obtain ⟨exchange, member, -, chats, reports⟩ := gathered.reports listing.chatNames before
      change chatRow chat ∈ rebuilt.rows
      rw [updateChatsUi_rows reports.elements rebuilds]
      have precedes := later exchange member
      exact List.mem_map_of_mem (reports.mem (before exchange member)
        (precedes.chats.subset stored) (precedes.links.subset linked))
  | fetched tick gathered counted =>
      obtain ⟨exchange, member, -, chats, reports⟩ := gathered.reports listing.chatNames before
      have precedes := later exchange member
      have found := reports.mem (before exchange member) (precedes.chats.subset stored)
        (precedes.links.subset linked)
      rw [reports.same] at counted ⊢
      have counted : main.numOfChats = chats.length := counted
      have shown : main.listWidget2 ≠ [] := by
        intro empty
        rw [filled empty] at counted
        exact absurd counted.symm (List.length_pos_of_mem found).ne'
      have rows := (seen exchange member).rows_perm (before exchange member) reports counted shown
      exact rows.symm.subset (List.mem_map_of_mem found)
  | unchanged quiet =>
      rw [action] at quiet
      contradiction
  | sent other | clicked other | polled other | added other | viewed other =>
      rw [action] at other
      contradiction

section Invited

variable [DecidableEq ι] {execution : Execution ι (messenger pg)} {client : ι} {n : Nat}

theorem chats_last (starts : System.Starts (execution.states 0))
    (stays : ∀ m ≥ n, Meets (messenger pg) (unadded client) (execution.states m)
      (execution.moves m)) {first last : Nat} (after : n ≤ first) (later : first ≤ last)
    {main : MainWindow} {window : Window}
    (shows : onScreen ((execution.states first).clients client).activity = some main)
    (shown : ((execution.states last).clients client).activity.window = some window) :
    ∃ result, window = .main result ∧ main.Extends result := by
  have passed : Reaches (messenger pg) unrestricted (execution.states 0)
      (execution.states first) :=
    Execution.reaches (Nat.zero_le first) fun m _ => meets_unrestricted _ _
  refine main_lasts MainWindow.Extends.refl MainWindow.Extends.trans (fun _ => trivial) starts ?_
    passed (Execution.reaches later fun m above => stays m (after.trans above)) shows shown
  intro middle move main event program trace store result passed meets advances ended leaves
  obtain ⟨-, ordered, past, listing, seen⟩ :=
    listing_maintained.ended starts passed advances ended
  refine leaves.extends (fun exchange member => ?_) (Chained.before_precedes ordered past) listing
    seen
  exact Advances.meets_last (fun stays => stays rfl) meets advances (List.ne_nil_of_mem member)

/-- A chat that a user is linked to is in his list from some point on for good, if the timer of
the chats fires again and again and he adds no chat himself. -/
theorem chat_arrives (starts : System.Starts (execution.states 0))
    (stays : ∀ m ≥ n, Meets (messenger pg) (unadded client) (execution.states m)
      (execution.moves m))
    (ticks : ∀ m, ∃ p ≥ m, ∃ event : Event, event.action = .timerChat ∧
      execution.moves p = .start client event) {main : MainWindow}
    (shows : onScreen ((execution.states n).clients client).activity = some main)
    (filled : main.Filled) {chat : ChatRow} (stored : chat ∈ (execution.states n).store.chats)
    (linked : (execution.states n).store.Linked main.user.userId.toNat chat.chatId) :
    ∃ m ≥ n, ∀ k ≥ m, ∃ result,
      onScreen ((execution.states k).clients client).activity = some result ∧
        chatRow chat ∈ result.rows := by
  apply onScreen_stays
  apply Execution.comes_to_stay (messenger_precedes pg) ticks
  · intro last window event program trace store result after action advances outcome seen
    obtain ⟨before, rfl, kept⟩ :=
      chats_last starts stays (Nat.le_refl n) after shows advances.window
    have passed : Reaches (messenger pg) unrestricted (execution.states 0)
        (execution.states last) :=
      Execution.reaches (Nat.zero_le last) fun m _ => meets_unrestricted _ _
    cases Follows.ended starts passed advances outcome with
    | @main _ result _ _ leaves =>
        obtain ⟨-, ordered, past, listing, held⟩ :=
          listing_maintained.ended starts passed advances outcome
        refine ⟨result, rfl, leaves.lists action (kept.filled filled)
          (Chained.before_precedes ordered past) listing held seen stored ?_⟩
        rw [kept.user]
        exact linked
  · intro first last window result after later before shown listed
    obtain ⟨earlier, rfl, member⟩ := listed
    obtain ⟨result, rfl, extends_⟩ :=
      chats_last starts stays after later (onScreen_of_window before) shown
    exact ⟨result, rfl, extends_.rows member⟩

end Invited

/-! Ann's timer fires for ever. -/

private def talked : Store where
  users := [⟨1, ascii "ann"⟩, ⟨2, ascii "bob"⟩]
  chats := [⟨1, ascii "ann and bob"⟩]
  userIdChatId := [⟨1, 1⟩, ⟨2, 1⟩]
  messages := [⟨1, 1, ascii "hi"⟩, ⟨1, 2, ascii "yo"⟩]
  userIdTrelloToken := []
  consistent := by decide

private def tickTest : Test Bool Store Window Event ClientRequest Reply :=
  fun other window event trace exchange =>
    deliversTest true other window event trace exchange &&
      unclickedTest true other window event trace exchange

private theorem watching_of_test {other : Bool} {window : Window} {event : Event}
    {trace : Trace} {exchange : Exchange Store ClientRequest Reply}
    (passes : tickTest other window event trace exchange = true) :
    watching true other window event trace exchange := by
  obtain ⟨delivered, stays⟩ := Bool.and_eq_true_iff.mp passes
  exact ⟨delivers_of_test delivered, unclicked_of_test stays⟩

/-- A reply that is a document, and what is read off it. -/
private theorem document_served {α : Type} (read : Json Key → α) {value : α} {store : Store}
    {request : ClientRequest}
    (reads : (((messenger Reference.postgres).serve (draws true 0) store request).1.map
        fun reply => (parse reply).toOption.map read,
      ((messenger Reference.postgres).serve (draws true 0) store request).2.toTables) =
        (some (some value), store.toTables)) :
    ∃ written : Document, read written.value = value ∧
      (messenger Reference.postgres).serve (draws true 0) store request =
        (some (.document written), store) := by
  rcases served : (messenger Reference.postgres).serve (draws true 0) store request with
    ⟨answer, after⟩
  rw [served] at reads
  obtain ⟨answered, kept⟩ := Prod.mk.inj reads
  obtain ⟨reply, rfl, parsed⟩ := Option.map_eq_some_iff.mp answered
  obtain ⟨document, found, same⟩ := Option.map_eq_some_iff.mp parsed
  obtain ⟨written, rfl, rfl⟩ := parse_eq_ok (eq_ok_of_toOption found)
  have kept : after = store := Store.ext kept
  rw [kept]
  exact ⟨written, same, rfl⟩

/-- The history of the chat is read, and has as many messages as are shown. -/
private theorem history_talked : ∃ written : Document, written.value.size = 2 ∧
    (messenger Reference.postgres).serve (draws true 0) talked (.getChatHistory 1) =
      (some (.document written), talked) := by
  apply document_served Json.size
  decide +kernel

private theorem timerMessage_asks (main : MainWindow) :
    ∃ next, main.timerMessage =
        .ask (.getChatHistory main.currentChatId) (fun _ => false) next ∧
      ∀ written : Document, written.value.size = main.currentChatMessagesSize →
        next (.document written) = .done main := by
  refine ⟨_, rfl, fun written size => ?_⟩
  change (if main.currentChatMessagesSize ≠ written.value.size then _ else Program.done main) = _
  rw [if_neg (not_not.mpr size.symm)]

/-- Where Ann's timer finds her, each time. -/
private def Rests (main : MainWindow) (state : System Bool) : Prop :=
  state.store = talked ∧ (state.clients true).activity = .idle (.main main)

private theorem rests_again {main : MainWindow} (chat : main.currentChatId = 1)
    (size : main.currentChatMessagesSize = 2) (state : System Bool) (rests : Rests main state) :
    Leads (messenger Reference.postgres) tickTest (Rests main) state
      (handlerRun true .timerMessage 0 1) := by
  obtain ⟨store, idle⟩ := rests
  obtain ⟨next, asks, quiet⟩ := timerMessage_asks main
  obtain ⟨written, two, served⟩ := history_talked
  have handled : (messenger Reference.postgres).handler (.main main) (event .timerMessage) =
      some (.ask (.getChatHistory 1) (fun _ => false) fun reply =>
        next reply >>= fun window => .done (.main window)) := by
    change some (main.timerMessage >>= _) = _
    rw [asks, chat]
    rfl
  apply Leads.starting idle handled
  rw [store]
  change Leads _ _ _ _ [.exchange true (draws true 0)]
  refine Leads.exchanging served rfl rfl ⟨_, rfl, rfl, ?_⟩
  rw [quiet written (two.trans size.symm)]
  simp only [State.put, Function.update_self]
  rfl

private def idleMain (state : System Bool) : Option MainWindow :=
  match (state.clients true).activity with
  | .idle (.main main) => some main
  | _ => none

private theorem idleMain_eq_some {state : System Bool} {main : MainWindow}
    (found : idleMain state = some main) :
    (state.clients true).activity = .idle (.main main) := by
  unfold idleMain at found
  split at found
  · next idle =>
      cases found
      exact idle
  · contradiction

/-- Ann's rows when Bob has written, and what a tick leaves. -/
private theorem annTicksOnce :
    (((loggedOut annAndBob).run (messenger Reference.postgres) tickTest annTalks).bind
      fun state => (state.run (messenger Reference.postgres) tickTest
        (handlerRun true .timerMessage 0 2)).bind fun after =>
          (onScreen (state.clients true).activity).bind fun main =>
            (idleMain after).map fun result =>
              (main.listWidget, main.currentChatId, result.currentChatId,
                result.currentChatMessagesSize, state.store.toTables, after.store.toTables)) =
      some ([.outgoing (ascii "hi")], 1, 1, 2, talked.toTables, talked.toTables) := by
  decide +kernel

theorem message_arrives_ann :
    ∃ (execution : Execution Bool (messenger Reference.postgres)) (n : Nat) (main : MainWindow),
      main.listWidget = [.outgoing (ascii "hi")] ∧
        (⟨1, 2, ascii "yo"⟩ : MessageRow) ∈ (execution.states n).store.messages ∧
        ∃ m ≥ n, ∀ k ≥ m, ∃ result,
          onScreen ((execution.states k).clients true).activity = some result ∧
            rowView main.user (execution.states n).store.users ⟨1, 2, ascii "yo"⟩ ∈
              result.listWidget := by
  obtain ⟨state, ran, rest⟩ := Option.bind_eq_some_iff.mp annTicksOnce
  obtain ⟨after, later, rest⟩ := Option.bind_eq_some_iff.mp rest
  obtain ⟨main, shows, rest⟩ := Option.bind_eq_some_iff.mp rest
  obtain ⟨result, found, seen⟩ := Option.map_eq_some_iff.mp rest
  simp only [Prod.mk.injEq] at seen
  obtain ⟨rows, chat, same, size, tables, kept⟩ := seen
  obtain ⟨execution, origin, reached, turns, meets⟩ := Execution.of_rounds
    (fun _ _ _ _ _ => watching_of_test) ran later ⟨Store.ext kept, idleMain_eq_some found⟩
    (rests_again same size)
  have now : execution.states annTalks.length = state := reached
  have watches : Watches execution true annTalks.length := by
    refine ⟨?_, fun m => (meets m).mono And.left, fun m _ => (meets m).mono And.right,
      fun m => ?_⟩
    · rw [origin]
      exact loggedOut_starts annAndBob
    · obtain ⟨p, after, starts⟩ := turns m
      exact ⟨p, after, event .timerMessage, rfl, starts⟩
  have stored : (⟨1, 2, ascii "yo"⟩ : MessageRow) ∈
      (execution.states annTalks.length).store.messages := by
    rw [now, tables]
    exact List.mem_cons_of_mem _ List.mem_cons_self
  refine ⟨execution, annTalks.length, main, rows, stored, message_arrives watches ?_ stored ?_⟩
  · rw [now]
    exact shows
  · rw [chat]
    rfl

/-! Bob invites Ann. -/

private def bobAlone : Store where
  users := [⟨1, ascii "ann"⟩, ⟨2, ascii "bob"⟩]
  chats := [⟨1, ascii "bob notes"⟩]
  userIdChatId := [⟨2, 1⟩]
  messages := []
  userIdTrelloToken := []
  consistent := by decide

private def annInvited : Store where
  users := [⟨1, ascii "ann"⟩, ⟨2, ascii "bob"⟩]
  chats := [⟨1, ascii "bob notes"⟩]
  userIdChatId := [⟨2, 1⟩, ⟨1, 1⟩]
  messages := []
  userIdTrelloToken := []
  consistent := by decide

private def bobInvites : List (Move Bool Event (List Reference.Draw)) :=
  handlerRun true (.authButton (ascii "ann")) 0 3 ++
    handlerRun false (.authButton (ascii "bob")) 0 4 ++
    handlerRun false (.addMember (ascii "ann")) 0 2

private def unaddedTest : Test Bool Store Window Event ClientRequest Reply :=
  fun other _ event _ _ =>
    match event.action with
    | .addChat _ => other != true
    | _ => true

private theorem unadded_of_test {other : Bool} {window : Window} {event : Event} {trace : Trace}
    {exchange : Exchange Store ClientRequest Reply}
    (passes : unaddedTest other window event trace exchange = true) :
    unadded true other window event trace exchange := by
  intro own chatName added
  subst own
  simp [unaddedTest, added] at passes

/-- The one chat of the list, by the text that is asked for. -/
private theorem list_annInvited : ∃ written : Document,
    (written.value.elements.map fun x => (dumpAt .chatId x).toOption) = [some (ascii "1")] ∧
      (messenger Reference.postgres).serve (draws true 0) annInvited (.getChatList 1) =
        (some (.document written), annInvited) := by
  apply document_served fun value => value.elements.map fun x => (dumpAt .chatId x).toOption
  decide +kernel

private theorem name_annInvited : ∃ written : Document, written.value.size = 2 ∧
    (messenger Reference.postgres).serve (draws true 0) annInvited (.getChatName (ascii "1")) =
      (some (.document written), annInvited) := by
  apply document_served Json.size
  decide +kernel

private theorem fetchChatName_asks (chatNames : Json Key) {x : Json Key} {chatId : Bytes}
    (id : dumpAt .chatId x = .ok chatId) :
    ∃ next, fetchChatName chatNames x = .ask (.getChatName chatId) (fun _ => false) next ∧
      ∀ named : Document, next (.document named) = Program.lift (chatNames.pushBack named.value) := by
  unfold fetchChatName
  rw [id]
  exact ⟨_, rfl, fun _ => rfl⟩

private theorem updateChats_asks (window : MainWindow) :
    ∃ next, updateChats window =
        .ask (.getChatList window.user.userId) (fun _ => false) next ∧
      ∀ written : Document, next (.document written) =
        written.value.elements.foldlM fetchChatName window.chatNames.clear >>= fun chatNames =>
          .done { window with chatNames := chatNames, sizeOfAnswer := chatNames.size } :=
  ⟨_, rfl, fun _ => rfl⟩

private theorem timerChat_asks {fresh : Allocator} {main : MainWindow} {elements : List (Json Key)}
    (names : main.chatNames = .array elements) (count : main.numOfChats = 1) :
    ∃ next, main.timerChat fresh =
        .ask (.getChatList main.user.userId) (fun _ => false) next ∧
      ∀ (written : Document) (x : Json Key), written.value.elements = [x] →
        dumpAt .chatId x = .ok (ascii "1") →
          ∃ rest, next (.document written) =
              .ask (.getChatName (ascii "1")) (fun _ => false) rest ∧
            ∀ named : Document, rest (.document named) =
              .done { main with chatNames := .array [named.value], sizeOfAnswer := 1 } := by
  obtain ⟨resume, updates, resumed⟩ := updateChats_asks main
  unfold MainWindow.timerChat
  rw [updates]
  refine ⟨fun reply => resume reply >>= _, rfl, fun written x listed id => ?_⟩
  obtain ⟨next, asks, answered⟩ := fetchChatName_asks main.chatNames.clear id
  beta_reduce
  rw [resumed, listed, List.foldlM_cons, asks]
  refine ⟨_, rfl, fun named => ?_⟩
  beta_reduce
  rw [answered, names]
  change (if main.numOfChats ≠ 1 then _ else Program.done _) = _
  rw [if_neg (not_not.mpr count)]
  rfl

/-- Where Ann's timer finds her when she has the chat, each time. -/
private def Lists (state : System Bool) : Prop :=
  state.store = annInvited ∧ ∃ (main : MainWindow) (elements : List (Json Key)),
    (state.clients true).activity = .idle (.main main) ∧ main.user.userId = 1 ∧
      main.numOfChats = 1 ∧ main.chatNames = .array elements

private theorem lists_again (state : System Bool) (lists : Lists state) :
    Leads (messenger Reference.postgres) unaddedTest Lists state
      (handlerRun true .timerChat 0 2) := by
  obtain ⟨store, main, elements, idle, user, count, names⟩ := lists
  obtain ⟨next, asks, resumes⟩ := timerChat_asks names count
  obtain ⟨written, ids, listed⟩ := list_annInvited
  obtain ⟨named, -, answered⟩ := name_annInvited
  obtain ⟨x, only, id⟩ := List.map_eq_singleton_iff.mp ids
  obtain ⟨rest, fetches, finishes⟩ := resumes written x only (eq_ok_of_toOption id)
  rw [user] at asks
  have handled : (messenger Reference.postgres).handler (.main main) (event .timerChat) =
      some (.ask (.getChatList 1) (fun _ => false) fun reply =>
        next reply >>= fun window => .done (.main window)) := by
    change some (main.timerChat _ >>= _) = _
    rw [asks]
    rfl
  apply Leads.starting idle handled
  rw [store]
  change Leads _ _ _ _ [.exchange true (draws true 0), .exchange true (draws true 0)]
  refine Leads.exchanging listed rfl rfl ?_
  rw [fetches]
  refine Leads.exchanging answered rfl rfl ?_
  refine ⟨_, rfl, rfl, { main with chatNames := .array [named.value], sizeOfAnswer := 1 },
    [named.value], ?_, user, count, rfl⟩
  rw [finishes]
  simp only [State.put, Function.update_self]
  rfl

private def counted (main : MainWindow) : Option (SizeT × Nat) :=
  match main.chatNames with
  | .array _ => some (main.user.userId, main.numOfChats)
  | _ => none

private theorem counted_eq_some {main : MainWindow} {userId : SizeT} {count : Nat}
    (counts : counted main = some (userId, count)) :
    main.user.userId = userId ∧ main.numOfChats = count ∧
      ∃ elements, main.chatNames = .array elements := by
  unfold counted at counts
  split at counts
  · next elements names =>
      cases counts
      exact ⟨rfl, rfl, elements, names⟩
  · contradiction

/-- Ann's list when Bob has invited her, and what a tick leaves. -/
private theorem annListsOnce :
    (((loggedOut bobAlone).run (messenger Reference.postgres) unaddedTest bobInvites).bind
      fun state => (state.run (messenger Reference.postgres) unaddedTest
        (handlerRun true .timerChat 0 2)).bind fun after =>
          (onScreen (state.clients true).activity).bind fun main =>
            (idleMain after).map fun result =>
              (decide (main.rows = [] ∧ main.user.userId = 1 ∧ main.numOfChats = 0),
                state.store.toTables, counted result, after.store.toTables)) =
      some (true, annInvited.toTables, some (1, 1), annInvited.toTables) := by
  decide +kernel

theorem chat_arrives_ann :
    ∃ (execution : Execution Bool (messenger Reference.postgres)) (n : Nat) (main : MainWindow),
      main.rows = [] ∧
        (⟨1, ascii "bob notes"⟩ : ChatRow) ∈ (execution.states n).store.chats ∧
        ∃ m ≥ n, ∀ k ≥ m, ∃ result,
          onScreen ((execution.states k).clients true).activity = some result ∧
            chatRow ⟨1, ascii "bob notes"⟩ ∈ result.rows := by
  obtain ⟨state, ran, rest⟩ := Option.bind_eq_some_iff.mp annListsOnce
  obtain ⟨after, later, rest⟩ := Option.bind_eq_some_iff.mp rest
  obtain ⟨main, shows, rest⟩ := Option.bind_eq_some_iff.mp rest
  obtain ⟨result, found, seen⟩ := Option.map_eq_some_iff.mp rest
  simp only [Prod.mk.injEq] at seen
  obtain ⟨empty, tables, counts, kept⟩ := seen
  obtain ⟨rows, own, zero⟩ := of_decide_eq_true empty
  obtain ⟨user, count, elements, names⟩ := counted_eq_some counts
  have lists : Lists after :=
    ⟨Store.ext kept, result, elements, idleMain_eq_some found, user, count, names⟩
  obtain ⟨execution, origin, reached, turns, meets⟩ := Execution.of_rounds
    (fun _ _ _ _ _ => unadded_of_test) ran later lists lists_again
  have now : execution.states bobInvites.length = state := reached
  have known : (execution.states bobInvites.length).store = annInvited := by
    rw [now]
    exact Store.ext tables
  have stored : (⟨1, ascii "bob notes"⟩ : ChatRow) ∈
      (execution.states bobInvites.length).store.chats := by
    rw [known]
    exact List.mem_cons_self
  refine ⟨execution, bobInvites.length, main, rows, stored,
    chat_arrives ?_ (fun m _ => meets m) (fun m => ?_) ?_ (fun _ => zero) stored ?_⟩
  · rw [origin]
    exact loggedOut_starts bobAlone
  · obtain ⟨p, after, starts⟩ := turns m
    exact ⟨p, after, event .timerChat, rfl, starts⟩
  · rw [now]
    exact shows
  · rw [known, own]
    exact List.mem_cons_of_mem _ List.mem_cons_self

end BpkMessenger.Client
