import BpkMessenger.Server.Requests

namespace BpkMessenger.Server

open Text

/-! What one message may do to the tables. -/

variable {pg : Postgres}

/-- The row a writing call is to insert, from its arguments. -/
def Call.row : Call → Option NewRow
  | .linkUserToChat userId chatId => some (.link userId.toNat chatId.toNat)
  | call => call.newRow

/-- Only `link_user_to_chat` looks for its row before it inserts it. -/
def NewRow.Present (store : Store) : NewRow → Prop
  | .link userId chatId => store.Linked userId chatId
  | _ => False

/-- One row is appended, as the column types store the given one. -/
def Appended (store : Store) (row : NewRow) (after : Store) : Prop :=
  ∃ stored, row.Stores stored ∧ after.toTables = store.toTables.add stored

theorem Call.row_of_newRow {call : Call} {row : NewRow} (inserts : call.newRow = some row) :
    call.row = some row ∧ ∀ store, ¬ row.Present store := by
  cases call <;> cases inserts <;> exact ⟨rfl, fun _ present => present⟩

theorem Served.appends {store after : Store} {call : Call} {reply : Reply}
    (served : Served store call reply after) :
    (reply = .fail → after = store) ∧ (call.row = none → after = store) ∧
      ∀ row, call.row = some row → reply ≠ .fail →
        reply = .success ∧ (row.Present store → after = store) ∧
          (¬ row.Present store → Appended store row after) := by
  cases served with
  | failed => exact ⟨fun _ => rfl, fun _ => rfl, fun _ _ answered => absurd rfl answered⟩
  | inserted inserts clean encoded stores added =>
      obtain ⟨writes, absent⟩ := Call.row_of_newRow inserts
      refine ⟨fun failed => by contradiction, fun none => ?_, fun row same _ => ?_⟩
      · rw [writes] at none
        contradiction
      · rw [writes] at same
        cases same
        exact ⟨rfl, fun present => absurd present (absent store),
          fun _ => ⟨_, stores, added⟩⟩
  | linkedBefore linked =>
      refine ⟨fun _ => rfl, fun _ => rfl, fun row same _ => ?_⟩
      cases same
      exact ⟨rfl, fun _ => rfl, fun absent => absurd linked absent⟩
  | linked unlinked added =>
      refine ⟨fun failed => by contradiction, fun none => by contradiction,
        fun row same _ => ?_⟩
      cases same
      exact ⟨rfl, fun present => absurd present unlinked, fun _ => ⟨_, .link, added⟩⟩
  | _ => exact ⟨fun _ => rfl, fun _ => rfl, fun _ writes => by contradiction⟩

/-- The tables only grow, by one row of the called method's own at most, and not at
all when no method is called, when the method only reads and when it fails. -/
theorem onMessage_appends (pg : Postgres) (chances : List pg.Chance) (store : Store)
    (payload : Bytes) (opcode : Opcode) :
    ((∀ call, dispatch payload ≠ .ok (some (.call call))) →
      (onMessage chances store payload opcode).2 = store) ∧
    ∀ call, dispatch payload = .ok (some (.call call)) →
      ∃ reply after, onMessage chances store payload opcode =
          ([⟨opcode, .reply reply⟩], after) ∧
        (reply = .fail → after = store) ∧ (call.row = none → after = store) ∧
        ∀ row, call.row = some row → reply ≠ .fail →
          reply = .success ∧ (row.Present store → after = store) ∧
            (¬ row.Present store → Appended store row after) := by
  refine ⟨fun undispatched => ?_, fun call dispatched => ?_⟩
  · exact onMessage_undispatched undispatched chances store opcode
  · refine ⟨_, _, onMessage_call dispatched chances store opcode, ?_⟩
    exact Served.appends (Call.run_served rfl)

/-! A later state begins with the rows of an earlier one, table by table. -/

structure Store.Precedes (first second : Store) : Prop where
  users : first.users <+: second.users
  chats : first.chats <+: second.chats
  links : first.userIdChatId <+: second.userIdChatId
  messages : first.messages <+: second.messages
  tokens : first.userIdTrelloToken <+: second.userIdTrelloToken

namespace Store

theorem Precedes.refl (store : Store) : store.Precedes store :=
  ⟨List.prefix_refl _, List.prefix_refl _, List.prefix_refl _, List.prefix_refl _,
    List.prefix_refl _⟩

theorem Precedes.trans {first second third : Store}
    (left : first.Precedes second) (right : second.Precedes third) :
    first.Precedes third :=
  ⟨left.users.trans right.users, left.chats.trans right.chats,
    left.links.trans right.links, left.messages.trans right.messages,
    left.tokens.trans right.tokens⟩

theorem Precedes.grows {first second : Store} (precedes : first.Precedes second) :
    first.Grows second :=
  ⟨precedes.users.subset, precedes.chats.subset, precedes.links.subset,
    precedes.messages.subset, precedes.tokens.subset⟩

theorem precedes_of_add {first second : Store} {row : StoredRow}
    (added : second.toTables = first.toTables.add row) : first.Precedes second := by
  cases row <;>
    exact ⟨by simp [added, Tables.add], by simp [added, Tables.add],
      by simp [added, Tables.add], by simp [added, Tables.add],
      by simp [added, Tables.add]⟩

end Store

theorem Served.precedes {store after : Store} {call : Call} {reply : Reply}
    (served : Served store call reply after) : store.Precedes after := by
  cases served with
  | inserted inserts clean encoded stores added => exact Store.precedes_of_add added
  | linked unlinked added => exact Store.precedes_of_add added
  | _ => exact Store.Precedes.refl store

end BpkMessenger.Server
