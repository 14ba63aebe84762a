import BpkMessenger.Client.Contract

namespace BpkMessenger.Client

open Text Server Interaction

/-! The chat list of a main window: the ids behind its rows, and the chats they
stand for. -/

def MainWindow.shown (window : MainWindow) : List SizeT :=
  window.listWidget2.map fun item => window.iconToChatId (some item)

def chatIds (chats : List ChatRow) : List SizeT :=
  chats.map fun chat => UInt64.ofNat chat.chatId

def MainWindow.withList (window : MainWindow) (listWidget2 : List Address)
    (iconToChatId : ItemPtr → SizeT) (iconToName : ItemPtr → Bytes) : MainWindow :=
  { window with
    listWidget2 := listWidget2
    iconToChatId := iconToChatId
    iconToName := iconToName }

/-- The list of a window with the items of these chats. -/
structure Rebuilding (fresh : Allocator) (window : MainWindow) (chats : List ChatRow)
    (current : MainWindow) : Prop where
  same : ∃ iconToName,
    current = window.withList current.listWidget2 current.iconToChatId iconToName
  listWidget2 : current.listWidget2 = (List.range chats.length).map fresh.address
  shown : current.shown = chatIds chats
  noItem : current.iconToChatId none = window.iconToChatId none
  entries : ∀ item, current.iconToChatId item = window.iconToChatId item ∨
    current.iconToChatId item ∈ chatIds chats

theorem shown_item {window : MainWindow} {row : Nat}
    (inside : row < window.listWidget2.length) :
    window.shown[row]? = some (window.iconToChatId (window.item row)) := by
  rw [MainWindow.shown, List.getElem?_map, MainWindow.item,
    List.getElem?_eq_getElem inside]
  rfl

theorem address_notMem (fresh : Allocator) (n : Nat) :
    fresh.address n ∉ (List.range n).map fresh.address := by
  intro member
  obtain ⟨earlier, inside, same⟩ := List.mem_map.mp member
  have equal := fresh.injective same
  rw [equal] at inside
  exact absurd inside List.not_mem_range_self

private theorem shown_update {window : MainWindow} {item : Address}
    (new : item ∉ window.listWidget2) (chatId : SizeT) (iconToName : ItemPtr → Bytes) :
    (window.withList (window.listWidget2 ++ [item])
      (Function.update window.iconToChatId (some item) chatId) iconToName).shown =
        window.shown ++ [chatId] := by
  simp only [MainWindow.shown, MainWindow.withList, List.map_append, List.map_singleton,
    Function.update_self]
  congr 1
  apply List.map_congr_left
  intro other member
  apply Function.update_of_ne
  intro same
  rw [Option.some.inj same] at member
  exact new member

theorem Rebuilding.step {fresh : Allocator} {window current next : MainWindow}
    {chats : List ChatRow} {chat : ChatRow}
    (rebuilding : Rebuilding fresh window chats current)
    (added : addChatItem fresh current (chatDocument chat.chatId chat.chatName) =
      .ok next) :
    Rebuilding fresh window (chats ++ [chat]) next := by
  have count : current.listWidget2.length = chats.length := by
    rw [rebuilding.listWidget2, List.length_map, List.length_range]
  have ids : chatIds (chats ++ [chat]) = chatIds chats ++ [UInt64.ofNat chat.chatId] := by
    rw [chatIds, List.map_append, List.map_singleton, chatIds]
  cases added
  refine ⟨?_, ?_, ?_, ?_, ?_⟩
  · obtain ⟨iconToName, same⟩ := rebuilding.same
    let item := fresh.address current.listWidget2.length
    have extended := congrArg (fun other : MainWindow => other.withList
      (current.listWidget2 ++ [item])
      (Function.update current.iconToChatId item (UInt64.ofNat chat.chatId))
      (Function.update current.iconToName item chat.chatName)) same
    exact ⟨_, extended⟩
  · change current.listWidget2 ++ [fresh.address current.listWidget2.length] = _
    rw [count, rebuilding.listWidget2, List.length_append, List.length_singleton,
      List.range_succ, List.map_append, List.map_singleton]
  · rw [ids, ← rebuilding.shown]
    refine shown_update ?_ _ _
    rw [rebuilding.listWidget2, List.length_map, List.length_range]
    exact address_notMem fresh chats.length
  · have other : (none : ItemPtr) ≠ some (fresh.address current.listWidget2.length) :=
      (Option.some_ne_none _).symm
    have kept := Function.update_of_ne other (UInt64.ofNat chat.chatId) current.iconToChatId
    exact kept.trans rebuilding.noItem
  · intro item
    simp only [Function.update_apply, ids, List.mem_append, List.mem_singleton]
    split
    · exact .inr (.inr rfl)
    · exact (rebuilding.entries item).imp_right .inl

/-- Filling the list one chat after the other. -/
theorem updateChatsUi_fold {fresh : Allocator} {window rebuilt : MainWindow}
    {chats : List ChatRow} {holds : List ChatRow → MainWindow → Prop}
    (elements : window.chatNames.elements = chatDocuments chats)
    (rebuilds : updateChatsUi fresh window = .ok rebuilt)
    (start : holds [] { window with listWidget2 := [] })
    (step : ∀ {before chat current next}, holds before current →
      addChatItem fresh current (chatDocument chat.chatId chat.chatName) = .ok next →
        holds (before ++ [chat]) next) : holds chats rebuilt := by
  have general : ∀ rest before current, holds before current →
      (chatDocuments rest).foldlM (addChatItem fresh) current = .ok rebuilt →
        holds (before ++ rest) rebuilt := by
    intro rest
    induction rest with
    | nil =>
        intro before current here folded
        cases folded
        rwa [List.append_nil]
    | cons chat rest induction =>
        intro before current here folded
        rw [chatDocuments, List.map_cons, List.foldlM_cons, bind_eq_ok_iff] at folded
        obtain ⟨next, added, folded⟩ := folded
        have extended := induction (before ++ [chat]) next (step here added) folded
        rwa [List.append_assoc] at extended
  rw [updateChatsUi, elements] at rebuilds
  exact general chats [] _ start rebuilds

theorem updateChatsUi_rebuilds {fresh : Allocator} {window rebuilt : MainWindow}
    {chats : List ChatRow} (elements : window.chatNames.elements = chatDocuments chats)
    (rebuilds : updateChatsUi fresh window = .ok rebuilt) :
    Rebuilding fresh window chats rebuilt :=
  updateChatsUi_fold elements rebuilds ⟨⟨_, rfl⟩, rfl, rfl, rfl, fun _ => .inl rfl⟩
    Rebuilding.step

/-- Nothing but the list is filled. -/
theorem updateChatsUi_withList {fresh : Allocator} {window rebuilt : MainWindow}
    (rebuilds : updateChatsUi fresh window = .ok rebuilt) :
    ∃ listWidget2 iconToChatId iconToName,
      rebuilt = window.withList listWidget2 iconToChatId iconToName := by
  have general : ∀ (elements : List (Json Key)) listWidget2 iconToChatId iconToName,
      elements.foldlM (addChatItem fresh)
          (window.withList listWidget2 iconToChatId iconToName) = .ok rebuilt →
        ∃ listWidget2 iconToChatId iconToName,
          rebuilt = window.withList listWidget2 iconToChatId iconToName := by
    intro elements
    induction elements with
    | nil =>
        intro listWidget2 iconToChatId iconToName folded
        cases folded
        exact ⟨listWidget2, iconToChatId, iconToName, rfl⟩
    | cons x rest induction =>
        intro listWidget2 iconToChatId iconToName folded
        rw [List.foldlM_cons, bind_eq_ok_iff] at folded
        obtain ⟨next, added, folded⟩ := folded
        obtain ⟨chatName, -, added⟩ := bind_eq_ok_iff.mp added
        obtain ⟨chatId, -, added⟩ := bind_eq_ok_iff.mp added
        cases added
        exact induction _ _ _ folded
  exact general window.chatNames.elements [] _ _ rebuilds

/-! The chats of a reply. -/

def listedIds (written : Document) : List SizeT :=
  written.value.elements.filterMap fun x => (sizeAt .chatId x).toOption

theorem Fetches.listed {userId : SizeT} {chats : List ChatRow} {trace : Trace}
    (fetches : Fetches userId chats trace) :
    ∃ exchange ∈ trace, ∃ written : Document, exchange.request = .getChatList userId ∧
      exchange.reply = .document written ∧ listedIds written = chatIds chats := by
  obtain ⟨exchange, member, same, written, rows, replied, matching, value, ids⟩ := fetches
  refine ⟨exchange, member, written, same, replied, ?_⟩
  have read : (fun x => (sizeAt Key.chatId x).toOption) ∘
      (fun row : LinkRow => Json.object [(Key.chatId, Json.number row.chatId)]) =
        fun row => some (UInt64.ofNat row.chatId) := rfl
  have cast : chatIds chats = (chats.map ChatRow.chatId).map UInt64.ofNat := by
    rw [chatIds, List.map_map]
    rfl
  rw [cast, ids, listedIds, value, elements_listDocument, List.filterMap_map, read,
    List.map_map]
  exact congrFun List.filterMap_eq_map rows

theorem Fetches.linked {userId : SizeT} {chats : List ChatRow} {trace : Trace}
    {store : Store} (valid : Valid trace) (fetches : Fetches userId chats trace)
    (past : ∀ exchange ∈ trace, exchange.after.Grows store) :
    ∀ chat ∈ chats, store.Linked userId.toNat chat.chatId := by
  obtain ⟨exchange, member, same, written, rows, replied, matching, value, ids⟩ := fetches
  intro chat chatMember
  have listed : chat.chatId ∈ rows.map LinkRow.chatId := by
    rw [← ids]
    exact List.mem_map_of_mem chatMember
  obtain ⟨row, rowMember, sameId⟩ := List.mem_map.mp listed
  obtain ⟨stored, sameUser⟩ := List.mem_filter.mp (matching.subset rowMember)
  have linked : exchange.before.Linked userId.toNat chat.chatId := by
    rw [← of_decide_eq_true sameUser, ← sameId]
    exact stored
  exact (past exchange member).linked ((valid.answered exchange member).grows.linked linked)

theorem toNat_chatId {store : Store} {userId chatId : Nat}
    (linked : store.Linked userId chatId) : (UInt64.ofNat chatId).toNat = chatId := by
  have bound := (Store.hasChat_pos (Store.linked_chat linked)).2
  rw [UInt64.toNat_ofNat']
  omega

/-- No chat has the id that `operator[]` makes up. -/
theorem chatId_ne_zero {store : Store} {userId chatId : Nat}
    (linked : store.Linked userId chatId) : UInt64.ofNat chatId ≠ 0 := by
  intro zero
  have value := toNat_chatId linked
  rw [zero, UInt64.toNat_zero] at value
  have positive := (Store.hasChat_pos (Store.linked_chat linked)).1
  omega

end BpkMessenger.Client
