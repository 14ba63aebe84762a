import BpkMessenger.Client.Membership
import BpkMessenger.Interaction.Ending
import BpkMessenger.Server.Appending

namespace BpkMessenger.Client

open Text Server Interaction

/-! What a main window shows and what it remembers of the server, while the tables
get longer. -/

variable {pg : Postgres} {ι : Type}

theorem messenger_precedes (pg : Postgres) :
    Lawful (messenger pg) Answered Store.Precedes :=
  messenger_lawful_of Store.Precedes.refl Store.Precedes.trans Served.precedes

/-- The exchanges of one client, each on a store that begins with the rows of the
store before. -/
abbrev Ordered : Trace → Prop :=
  Chained Answered Store.Precedes

theorem Answered.precedes {exchange : Exchange Store ClientRequest Reply}
    (answered : Answered exchange) : exchange.before.Precedes exchange.after := by
  obtain ⟨call, encodes, served⟩ := answered
  exact served.precedes

theorem handler_follows_ordered {window : Window} {event : Event} {program : Act Window}
    (handled : handler window event = some program) :
    Safe Ordered (Sends window event) (Follows window event) program [] :=
  (handler_follows handled).restrict fun _ ordered => ordered.mono Store.Precedes.grows

/-- A lookup by a column without duplicates. -/
theorem find?_of_nodup_map {α β : Type} [DecidableEq β] {key : α → β} {rows : List α}
    {row : α} (distinct : (rows.map key).Nodup) (member : row ∈ rows) :
    (rows.find? fun other => key other = key row) = some row := by
  cases found : rows.find? fun other => key other = key row with
  | none =>
      have missing := List.find?_eq_none.mp found row member
      simp at missing
  | some other =>
      have same : key other = key row := by simpa using List.find?_some found
      rw [List.inj_on_of_nodup_map distinct (List.mem_of_find?_eq_some found) member same]

section Maintained

variable {holds : MainWindow → Store → Prop} {trace : Trace} {store : Store}

theorem Chained.before_precedes (ordered : Ordered trace)
    (past : ∀ exchange ∈ trace, exchange.after.Precedes store) :
    ∀ exchange ∈ trace, exchange.before.Precedes store := by
  intro exchange member
  exact (ordered.answered exchange member).precedes.trans (past exchange member)

/-- A relation of main windows to stores that the first window meets, and that every
handler keeps. -/
structure Maintained (holds : MainWindow → Store → Prop) : Prop where
  stable : ∀ {main store after}, store.Precedes after → holds main store → holds main after
  built : ∀ {fresh user main trace store}, Ordered trace →
    (∀ exchange ∈ trace, exchange.after.Precedes store) →
      Built fresh user main trace → holds main store
  left : ∀ {main event result trace store}, holds main store → Ordered trace →
    (∀ exchange ∈ trace, exchange.after.Precedes store) →
      Leaves main event result trace → holds result store

def Window.Keeps (holds : MainWindow → Store → Prop) : Window → Store → Prop
  | .main window, store => holds window store
  | _, _ => True

theorem Maintained.verified (maintained : Maintained holds) (condition : Requirement ι) :
    Verified (messenger pg) Answered Store.Precedes condition Sends Follows
      fun _ => Window.Keeps holds where
  safe := handler_follows_ordered
  stable := by
    intro client window store after precedes kept
    cases window with
    | main main => exact maintained.stable precedes kept
    | _ => exact trivial
  preserved := by
    intro client window event store result trace kept ordered meeting past follows
    cases follows with
    | known loggedIn built => exact maintained.built ordered past built
    | authorised built => exact maintained.built ordered past built
    | main leaves => exact maintained.left kept ordered past leaves
    | _ => exact trivial

/-- A handler that ends in a main window, in any run from logged-out clients. -/
theorem Maintained.ended [DecidableEq ι] (maintained : Maintained holds)
    {start state : System ι} (starts : start.Starts)
    (reached : Reaches (messenger pg) unrestricted start state)
    {move : Move ι Event (List pg.Chance)} {client : ι} {main result : MainWindow}
    {event : Event} {program : Act Window}
    (advances : Advances (messenger pg) state move client (.main main) event program trace
      store)
    (ended : program.outcome = some (some (.main result))) :
    Leaves main event result trace ∧ Ordered trace ∧
      (∀ exchange ∈ trace, exchange.after.Precedes store) ∧ holds main store ∧
      ∀ exchange ∈ trace, holds main exchange.before := by
  have lawful := messenger_precedes pg
  have verified := @Maintained.verified pg ι _ maintained unrestricted
  have idle : ∀ client, Holds Answered Store.Precedes unrestricted Sends Follows
      (fun _ => Window.Keeps holds) start.store client (start.clients client) := by
    intro client
    simp only [Holds, starts client]
    exact trivial
  have quiet : ∀ client, Witnessed (fun _ => Window.Keeps holds) client
      (start.clients client) := by
    intro client
    simp only [Witnessed, starts client]
  have holding := Reaches.holds lawful verified idle reached
  have underway := advances.underway lawful verified holding
    (meets_unrestricted state move)
  have seen := advances.witnessed holding (Reaches.witnessed lawful verified idle quiet reached)
  cases underway.safe.outcome ended with
  | main leaves => exact ⟨leaves, underway.chained, underway.past, underway.held, seen⟩

end Maintained

theorem eq_ok_of_toOption {ε α : Type} {result : Except ε α} {value : α}
    (read : result.toOption = some value) : result = .ok value := by
  cases result with
  | error exception => contradiction
  | ok other =>
      cases read
      rfl

/-! Handlers that end, in runs at the reference database. -/

def draws (up : Bool) (id : Nat) : List Reference.Draw :=
  List.replicate 4 ⟨up, id⟩

/-- The windows before and after a handler that a reply ends, at the end of a run. -/
def lastEnding [DecidableEq ι] (store : Store)
    (moves : List (Move ι Event (List Reference.Draw))) (client : ι) :
    Option (MainWindow × Event × Trace × MainWindow) :=
  ((loggedOut store).run (messenger Reference.postgres) (fun _ _ _ _ _ => true) moves).bind
    fun state =>
      (state.step (messenger Reference.postgres) (.exchange client (draws true 0))).bind
        fun after =>
          match (state.clients client).activity, (after.clients client).activity with
          | .running (.main main) event _, .idle (.main result) =>
              some (main, event, (after.clients client).trace, result)
          | _, _ => none

theorem lastEnding_eq_some [DecidableEq ι] {store : Store}
    {moves : List (Move ι Event (List Reference.Draw))} {client : ι}
    {main result : MainWindow} {event : Event} {trace : Trace}
    (found : lastEnding store moves client = some (main, event, trace, result)) :
    ∃ (state : System ι) (program : Act Window) (after : Store),
      Reaches (messenger Reference.postgres) unrestricted (loggedOut store) state ∧
      Advances (messenger Reference.postgres) state (.exchange client (draws true 0)) client
        (.main main) event program trace after ∧
      program.outcome = some (some (.main result)) := by
  obtain ⟨state, ran, rest⟩ := Option.bind_eq_some_iff.mp found
  obtain ⟨after, stepped, last⟩ := Option.bind_eq_some_iff.mp rest
  have reached := Reaches.of_run (fun _ _ _ _ _ _ => trivial) .start ran
  split at last
  · next running idle =>
      cases last
      obtain ⟨program, advances, ended⟩ := Advances.of_step running stepped idle
      exact ⟨state, program, after.store, reached, advances, ended⟩
  · contradiction

end BpkMessenger.Client
