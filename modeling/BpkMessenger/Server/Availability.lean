import BpkMessenger.Server.Reference
import BpkMessenger.Server.Refinement

namespace BpkMessenger.Server

open Text Sql

/-! When the database is up, and what it cannot refuse then. -/

variable {pg : Postgres}

structure Postgres.Up (pg : Postgres) (chance : pg.Chance) : Prop where
  begins : pg.begins chance = true
  commits : pg.commits chance = true
  runs : ∀ store text, pg.exec chance store text ≠ .error .unavailable

/-- No method takes more than four operations. -/
structure Available (chances : List pg.Chance) : Prop where
  enough : 4 ≤ chances.length
  up : ∀ chance ∈ chances, pg.Up chance

theorem Available.first_three {chances : List pg.Chance} (available : Available chances) :
    ∃ first second third rest, chances = first :: second :: third :: rest ∧
      pg.Up first ∧ pg.Up second ∧ pg.Up third := by
  obtain ⟨enough, up⟩ := available
  match chances with
  | first :: second :: third :: rest =>
      exact ⟨first, second, third, rest, rfl, up first (by simp), up second (by simp),
        up third (by simp)⟩

theorem Postgres.Up.insert {chance : pg.Chance} (up : pg.Up chance) {store : Store}
    {text : Bytes} {row : NewRow}
    (lexed : lex (cString text) = .ok (Statement.insert row).tokens)
    (acceptable : row.Acceptable store) :
    ∃ rows after, pg.exec chance store text = .ok (rows, after) := by
  have permitted := pg.documented chance store text (.insert row) lexed
  cases executed : pg.exec chance store text with
  | ok outcome => exact ⟨outcome.1, outcome.2, rfl⟩
  | error error =>
      cases error with
      | unavailable => exact absurd executed (up.runs store text)
      | rejected =>
          rw [executed] at permitted
          exact absurd acceptable permitted

theorem Postgres.Up.copy {chance : pg.Chance} (up : pg.Up chance) {store : Store}
    {text : Bytes} {query : Query}
    (lexed : lex (cString text) = .ok (Statement.copy query).tokens)
    (typed : query.WellTyped) :
    ∃ rows after, pg.exec chance store text = .ok (rows, after) ∧
      rows.Perm (query.rows store.toTables) := by
  have permitted := pg.documented chance store text (.copy query) lexed
  cases executed : pg.exec chance store text with
  | ok outcome =>
      rw [executed] at permitted
      exact ⟨outcome.1, outcome.2, rfl, permitted.2.2⟩
  | error error =>
      cases error with
      | unavailable => exact absurd executed (up.runs store text)
      | rejected =>
          rw [executed] at permitted
          exact absurd typed permitted

/-! Who can be registered. -/

theorem characterLength_append (first second : Bytes) :
    characterLength (first ++ second) = characterLength first + characterLength second := by
  simp only [characterLength, List.filter_append, List.length_append]

theorem characterLength_spaces {text : Bytes} (spaces : text.all (· == 32) = true) :
    characterLength text = text.length := by
  have kept : text.filter (fun byte => !(0x80 ≤ byte && byte < 0xc0)) = text := by
    apply List.filter_eq_self.mpr
    intro byte member
    have space := List.all_eq_true.mp spaces byte member
    rw [beq_iff_eq] at space
    subst space
    decide
  rw [characterLength, kept]

theorem varchar_short {limit : Nat} {text stored : Bytes}
    (fits : varchar limit text = some stored) : characterLength stored ≤ limit := by
  simp only [varchar] at fits
  split at fits
  · next spaces =>
      cases fits
      have whole := characterLength_append
        (text.take (text.length - (characterLength text - limit)))
        (text.drop (text.length - (characterLength text - limit)))
      rw [List.take_append_drop, characterLength_spaces spaces, List.length_drop] at whole
      have bound : characterLength text ≤ text.length := List.length_filter_le _ _
      omega
  · contradiction

/-- The text can be sent, fits the column, is not taken in it, and an id is left. -/
def Registrable (store : Store) (userName : Bytes) : Prop :=
  0 ∉ userName ∧ validUtf8 userName = true ∧
    ∃ stored, varchar 50 userName = some stored ∧
      (∀ user ∈ store.users, user.userName ≠ stored) ∧
        ∃ userId, 1 ≤ userId ∧ userId < 2 ^ 63 ∧ ¬ store.HasUser userId

theorem consistent_addUser {store : Store} {row : UserRow}
    (free : ¬ store.HasUser row.userId) (range : 1 ≤ row.userId ∧ row.userId < 2 ^ 63)
    (unused : ∀ user ∈ store.users, user.userName ≠ row.userName)
    (short : characterLength row.userName ≤ 50) :
    (store.toTables.add (.user row)).Consistent := by
  have consistent := store.consistent
  have grown : ∀ userId, store.HasUser userId →
      (store.toTables.add (.user row)).HasUser userId := by
    intro userId taken
    obtain ⟨user, member, same⟩ := taken
    exact ⟨user, List.mem_append_left [row] member, same⟩
  have column : ∀ {α : Type} (key : UserRow → α), (store.users.map key).Nodup →
      (∀ user ∈ store.users, key user ≠ key row) → ((store.users ++ [row]).map key).Nodup := by
    intro α key distinct new
    rw [List.map_append, List.map_singleton]
    apply distinct.append (List.nodup_singleton _)
    rw [List.disjoint_singleton]
    intro member
    obtain ⟨user, stored, same⟩ := List.mem_map.mp member
    exact new user stored same
  have every : ∀ {holds : UserRow → Prop}, (∀ user ∈ store.users, holds user) → holds row →
      ∀ user ∈ store.users ++ [row], holds user := by
    intro holds earlier new user member
    rcases List.mem_append.mp member with member | member
    · exact earlier user member
    · rw [List.mem_singleton.mp member]
      exact new
  exact {
    userIds := column _ consistent.userIds fun user member same => free ⟨user, member, same⟩
    userNames := column _ consistent.userNames unused
    userRange := every consistent.userRange range
    userLength := every consistent.userLength short
    chatIds := consistent.chatIds
    chatNames := consistent.chatNames
    chatRange := consistent.chatRange
    chatLength := consistent.chatLength
    linkUser := fun link member => grown _ (consistent.linkUser link member)
    linkChat := consistent.linkChat
    messageChat := consistent.messageChat
    messageSender := fun message member => grown _ (consistent.messageSender message member)
    tokenUser := fun token member => grown _ (consistent.tokenUser token member)
    tokenUnique := consistent.tokenUnique }

theorem Registrable.acceptable {store : Store} {userName : Bytes}
    (registrable : Registrable store userName) : (NewRow.user userName).Acceptable store := by
  obtain ⟨-, encoded, stored, fits, unused, userId, positive, bound, free⟩ := registrable
  refine ⟨encoded, .user ⟨userId, stored⟩, ⟨store.toTables.add (.user ⟨userId, stored⟩), ?_⟩,
    .user fits, rfl⟩
  exact consistent_addUser free ⟨positive, bound⟩ unused (varchar_short fits)

theorem Served.registrable {store after : Store} {userName : Bytes}
    (served : Served store (.addUser userName) .success after) :
    Registrable store userName := by
  cases served with
  | inserted inserts clean encoded stores added =>
      cases inserts
      cases stores with
      | @user _ stored userId fits =>
          have users : after.users = store.users ++ [⟨userId, stored⟩] := by
            rw [added]
            rfl
          have ids := after.consistent.userIds
          have names := after.consistent.userNames
          have range := after.consistent.userRange ⟨userId, stored⟩ (by simp [users])
          simp only [users, List.map_append, List.map_singleton, List.nodup_append,
            List.mem_singleton, forall_eq] at ids names
          refine ⟨clean, encoded, stored, fits, fun user member => ?_, userId, range.1, range.2, ?_⟩
          · exact names.2.2 user.userName (List.mem_map_of_mem member)
          · intro taken
            obtain ⟨user, member, same⟩ := taken
            exact ids.2.2 user.userId (List.mem_map_of_mem member) same

/-- Rows stay, so a name that is refused is refused for ever. -/
theorem Registrable.of_grows {store after : Store} {userName : Bytes}
    (grown : store.Grows after) (registrable : Registrable after userName) :
    Registrable store userName := by
  obtain ⟨clean, encoded, stored, fits, unused, userId, positive, bound, free⟩ := registrable
  refine ⟨clean, encoded, stored, fits, fun user member => unused user (grown.users member),
    userId, positive, bound, fun taken => free (grown.hasUser taken)⟩

theorem addUser_refused {chances : List pg.Chance} {store : Store} {userName : Bytes}
    (refused : ¬ Registrable store userName) :
    (Call.addUser userName).run chances store = (.fail, store) := by
  rcases ran : (Call.addUser userName).run chances store with ⟨reply, after⟩
  have served := Call.run_served ran
  cases served with
  | failed => rfl
  | inserted inserts clean encoded stores added =>
      exact absurd (Served.inserted inserts clean encoded stores added).registrable refused

theorem addUser_available {chances : List pg.Chance} (available : Available chances)
    {store : Store} {userName : Bytes} (registrable : Registrable store userName) :
    ∃ after, (Call.addUser userName).run chances store = (.success, after) := by
  obtain ⟨first, second, third, rest, rfl, begins, runs, commits⟩ := available.first_three
  obtain ⟨rows, after, executed⟩ :=
    runs.insert (Database.lex_addUserText registrable.1) registrable.acceptable
  exact ⟨after, execute_of_exec begins.begins executed commits.commits⟩

theorem findUser_available {chances : List pg.Chance} (available : Available chances)
    {store : Store} {userName : Bytes} (clean : 0 ∉ userName)
    (encoded : validUtf8 userName = true)
    (missing : ∀ user ∈ store.users, user.userName ≠ userName) :
    (Call.findUser userName).run chances store = (.userNotFound, store) := by
  obtain ⟨first, second, third, rest, rfl, begins, runs, -⟩ := available.first_three
  obtain ⟨rows, after, executed, matching⟩ := @Postgres.Up.copy _ _ runs store _ _
    (Database.lex_findUserText clean) encoded
  have none : (store.users.filter fun row => row.userName = userName) = [] := by
    simpa using missing
  simp only [Query.rows, none, List.map_nil, List.perm_nil] at matching
  subst matching
  exact findUser_missing begins.begins executed

/-! A service that is always up. -/

namespace Steady

open Classical in
noncomputable def perform (store : Store) (statement : Statement) : Outcome :=
  if permitted : ∃ outcome, statement.Permits store (.ok outcome) then .ok permitted.choose
  else .error .rejected

theorem perform_permitted (store : Store) (statement : Statement) :
    statement.Permits store (perform store statement) := by
  unfold perform
  by_cases permitted : ∃ outcome, statement.Permits store (.ok outcome)
  · rw [dif_pos permitted]
    exact permitted.choose_spec
  · rw [dif_neg permitted]
    have refused : ∀ outcome, ¬ statement.Permits store (.ok outcome) :=
      fun outcome permits => permitted ⟨outcome, permits⟩
    cases statement with
    | insert row =>
        intro served
        obtain ⟨encoded, stored, after, stores, added⟩ := served
        exact refused ([], after) ⟨rfl, encoded, stored, stores, added⟩
    | select query =>
        intro typed
        exact refused (query.rows store.toTables, store) ⟨typed, rfl, .refl _⟩
    | copy query =>
        intro typed
        exact refused (query.rows store.toTables, store) ⟨typed, rfl, .refl _⟩

noncomputable def run (store : Store) (text : Bytes) : Outcome :=
  match lex (cString text) with
  | .error _ => .error .rejected
  | .ok tokens =>
      match Reference.parse tokens with
      | none => .error .rejected
      | some statement => perform store statement

noncomputable def postgres : Postgres where
  Chance := Unit
  begins _ := true
  commits _ := true
  exec _ := run
  documented := by
    intro chance store text statement lexed
    simp only [run, lexed, Reference.parse_tokens]
    exact perform_permitted store statement
  malformed := by
    intro chance store text lexed
    exact ⟨.rejected, by simp only [run, lexed]⟩

theorem perform_ne_unavailable (store : Store) (statement : Statement) :
    perform store statement ≠ .error .unavailable := by
  unfold perform
  split <;> simp

theorem up : postgres.Up () := by
  refine ⟨rfl, rfl, fun store text => ?_⟩
  change run store text ≠ .error .unavailable
  unfold run
  split
  · simp
  · split
    · simp
    · exact perform_ne_unavailable store _

theorem available : @Available postgres (List.replicate 4 ()) :=
  ⟨List.length_replicate.ge, fun _ _ => up⟩

end Steady

end BpkMessenger.Server
