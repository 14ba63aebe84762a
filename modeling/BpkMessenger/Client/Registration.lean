import BpkMessenger.Client.Reading
import BpkMessenger.Interaction.Execution
import BpkMessenger.Server.Availability

namespace BpkMessenger.Client

open Text Server Interaction

/-! The loop in which a new user is registered. -/

variable {pg : Postgres} {ι : Type}

/-- The client waits for the reply to an `add_user`. -/
def Registering (state : System ι) (client : ι) (username : Bytes) : Prop :=
  ∃ window event again next, (state.clients client).activity =
    .running window event (.ask (.addUser username) again next)

theorem authButton_registers (fresh : Allocator) (username : Bytes) :
    ∃ next rest, authButton fresh username = .ask (.findUser username) (fun _ => false) next ∧
      next .userNotFound = .ask (.addUser username) (fun reply => !isSuccess reply) rest ∧
      ∀ reply, ∃ later, rest reply = .ask (.findUser username) (fun _ => false) later :=
  ⟨_, _, rfl, rfl, fun _ => ⟨_, rfl⟩⟩

section Loop

variable [DecidableEq ι] {execution : Execution ι (messenger pg)} {client : ι} {event : Event}
  {username : Bytes} {rest : Reply → Act Window}

/-- The reply that ends the loop, for a name that can be registered. -/
theorem registered_leaves {n : Nat} {chances : List pg.Chance}
    (running : ((execution.states n).clients client).activity =
      .running .auth event (.ask (.addUser username) (fun reply => !isSuccess reply) rest))
    (goesOn : ∀ reply, ∃ later, rest reply = .ask (.findUser username) (fun _ => false) later)
    (exchanged : execution.moves n = .exchange client chances) (available : Available chances)
    (registrable : Registrable (execution.states n).store username) :
    ¬ Registering (execution.states (n + 1)) client username := by
  have served := serve_spelled (spelled_addUser username) chances (execution.states n).store
  obtain ⟨after, ran⟩ := addUser_available available registrable
  rw [ran] at served
  have left := Execution.answered running exchanged served
  obtain ⟨later, next⟩ := goesOn .success
  simp only [isSuccess, Bool.not_true, Bool.false_eq_true, if_false, next] at left
  intro waits
  obtain ⟨window, event, again, next, waiting⟩ := waits
  rw [left] at waiting
  cases waiting

/-- A name that cannot be registered is asked for again and again. -/
theorem unregistered_stays {n : Nat}
    (running : ((execution.states n).clients client).activity =
      .running .auth event (.ask (.addUser username) (fun reply => !isSuccess reply) rest))
    (refused : ¬ Registrable (execution.states n).store username) {m : Nat} (later : n ≤ m) :
    Registering (execution.states m) client username := by
  refine ⟨_, _, _, _, Execution.repeats running ?_ later⟩
  intro k beyond chances exchanged
  have served := serve_spelled (spelled_addUser username) chances (execution.states k).store
  have failed : ¬ Registrable (execution.states k).store username := fun registrable =>
    refused (registrable.of_grows (Execution.grows (messenger_lawful pg) beyond))
  rw [addUser_refused failed] at served
  exact ⟨_, _, served, rfl⟩

end Loop

/-- A new user gets out of the loop exactly if its name can be registered when it is
first asked for. -/
theorem registration_ends_iff [DecidableEq ι] {execution : Execution ι (messenger pg)}
    {client : ι} (answers : execution.Answers client)
    (available : ∀ m chances, execution.moves m = .exchange client chances →
      Available chances)
    {n : Nat} {event : Event} {username : Bytes}
    (idle : ((execution.states n).clients client).activity = .idle .auth)
    (pressed : execution.moves n = .start client event)
    (action : event.action = .authButton username) {m : Nat}
    (lookup : execution.Next client (n + 1) m)
    (missing : ∃ exchange ∈ ((execution.states (m + 1)).clients client).trace,
      exchange.reply = .userNotFound) :
    ∃ k, execution.Next client (m + 1) k ∧
      Registering (execution.states k) client username ∧
      ((∃ l > k, ¬ Registering (execution.states l) client username) ↔
        Registrable (execution.states k).store username) := by
  obtain ⟨next, rest, asks, registers, goesOn⟩ := authButton_registers event.fresh username
  have stepped := execution.steps n
  simp only [pressed, State.step, idle, messenger, handler, action, asks, Option.map_some,
    Option.some.injEq] at stepped
  have started : (execution.states (n + 1)).clients client =
      ⟨.running .auth event (.ask (.findUser username) (fun _ => false) next), []⟩ := by
    rw [← stepped]
    simp only [State.put, Function.update_self]
    rfl
  have waiting := lookup.kept.trans started
  have searching := congrArg Interaction.Client.activity waiting
  obtain ⟨chances, exchanged⟩ := Execution.exchanges searching lookup.own
  have served := serve_spelled (spelled_findUser username) chances (execution.states m).store
  have found := Execution.answered searching exchanged served
  simp only [Bool.false_eq_true, if_false, waiting, List.nil_append] at found
  obtain ⟨exchange, member, unknown⟩ := missing
  rw [found] at member
  rw [List.mem_singleton.mp member] at unknown
  change (Call.run _ _ _).1 = _ at unknown
  rw [unknown, registers] at found
  have loops := congrArg Interaction.Client.activity found
  obtain ⟨k, first⟩ := answers.next loops
  have running := (congrArg Interaction.Client.activity first.kept).trans loops
  obtain ⟨draws, asked⟩ := Execution.exchanges running first.own
  refine ⟨k, first, ⟨_, _, _, _, running⟩, ?_, fun registrable => ?_⟩
  · intro ends
    obtain ⟨l, later, left⟩ := ends
    by_contra refused
    exact left (unregistered_stays running refused (Nat.le_of_lt later))
  · exact ⟨k + 1, Nat.lt_succ_self k,
      registered_leaves running goesOn asked (available k draws asked) registrable⟩

/-! A name that cannot be registered on empty tables, at a service that is always up. -/

private def loopMoves (username : Bytes) : Nat → Move Unit Event (List Steady.postgres.Chance)
  | 0 => .start () (login username)
  | _ + 1 => .exchange () (List.replicate 4 ())

private def InLoop (username : Bytes) : Nat → System Unit → Prop
  | 0, state => state = loggedOut .empty
  | 1, state => state = loggingIn username
  | n + 2, state => state.store = .empty ∧ ∃ rest, (state.clients ()).activity =
      .running .auth (login username)
        (.ask (.addUser username) (fun reply => !isSuccess reply) rest) ∧
      (n = 0 → ∃ exchange ∈ (state.clients ()).trace, exchange.reply = .userNotFound)

private theorem loggingIn_registers (username : Bytes) :
    (loggingIn username).store = .empty ∧
    ∃ next rest, ((loggingIn username).clients ()).activity =
        .running .auth (login username) (.ask (.findUser username) (fun _ => false) next) ∧
      next .userNotFound = .ask (.addUser username) (fun reply => !isSuccess reply) rest :=
  ⟨rfl, _, _, rfl, rfl⟩

private theorem inLoop_step {username : Bytes} (clean : 0 ∉ username)
    (encoded : validUtf8 username = true) (refused : ¬ Registrable .empty username) (n : Nat)
    (state : System Unit) (inLoop : InLoop username n state) :
    ∃ after, state.step (messenger Steady.postgres) (loopMoves username n) = some after ∧
      InLoop username (n + 1) after := by
  match n with
  | 0 =>
      subst inLoop
      exact ⟨_, loggingIn_pressed Steady.postgres username, rfl⟩
  | 1 =>
      subst inLoop
      obtain ⟨store, next, rest, searching, registers⟩ := loggingIn_registers username
      have served := serve_spelled (spelled_findUser username)
        (List.replicate 4 () : List Steady.postgres.Chance) (loggingIn username).store
      rw [findUser_available Steady.available clean encoded
        (by rw [store]; exact fun user member => absurd member List.not_mem_nil)] at served
      refine ⟨_, (Advances.answered searching served).step, store, rest, ?_, fun _ => ?_⟩
      · simp only [State.put, Function.update_self, Bool.false_eq_true, if_false, registers]
        rfl
      · simp only [State.put, Function.update_self]
        exact ⟨_, List.mem_append_right _ (List.mem_singleton_self _), rfl⟩
  | n + 2 =>
      obtain ⟨store, rest, running, -⟩ := inLoop
      have served := serve_spelled (spelled_addUser username)
        (List.replicate 4 () : List Steady.postgres.Chance) state.store
      rw [store, addUser_refused refused, ← store] at served
      refine ⟨_, (Advances.answered running served).step, store, rest, ?_, by simp⟩
      simp only [State.put, Function.update_self]
      rfl

/-- From empty tables, with every request answered and the database up, the name is not
found, and asked for without end. -/
structure Endless (execution : Execution Unit (messenger Steady.postgres)) (username : Bytes) :
    Prop where
  starts : execution.states 0 = loggedOut .empty
  answers : execution.Answers ()
  available : ∀ m chances, execution.moves m = .exchange () chances → Available chances
  pressed : execution.moves 0 = .start () (login username)
  lookup : execution.Next () 1 1
  missing : ∃ exchange ∈ ((execution.states 2).clients ()).trace, exchange.reply = .userNotFound
  stays : ∀ l ≥ 2, Registering (execution.states l) () username

private theorem endless_of_refused {username : Bytes} (clean : 0 ∉ username)
    (encoded : validUtf8 username = true) (refused : ¬ Registrable .empty username) :
    ∃ execution, Endless execution username := by
  have made : ∃ execution : Execution Unit (messenger Steady.postgres),
      execution.states 0 = loggedOut .empty ∧ execution.moves = loopMoves username ∧
        ∀ n, InLoop username n (execution.states n) :=
    Execution.of_invariant _ rfl (inLoop_step clean encoded refused)
  obtain ⟨execution, start, moves, inLoop⟩ := made
  refine ⟨execution, start, fun n window event program _ => ⟨n, Nat.le_refl n, rfl⟩, ?_, ?_,
    ⟨Nat.le_refl 1, rfl, fun m first before => absurd before (Nat.not_lt_of_le first)⟩, ?_, ?_⟩
  · intro m chances exchanged
    rw [moves] at exchanged
    cases m with
    | zero => contradiction
    | succ m =>
        cases exchanged
        exact Steady.available
  · rw [moves]
    rfl
  · obtain ⟨-, rest, -, found⟩ := inLoop 2
    exact found rfl
  · intro l later
    obtain ⟨k, rfl⟩ := Nat.exists_eq_add_of_le' later
    obtain ⟨-, rest, running, -⟩ := inLoop (k + 2)
    exact ⟨_, _, _, _, running⟩

def longName : Bytes := List.replicate 51 97

private theorem longName_clean : 0 ∉ longName ∧ validUtf8 longName = true :=
  ⟨by simp [longName], validUtf8_of_ascii (by simp [longName])⟩

private theorem longName_refused : ¬ Registrable .empty longName := by
  intro registrable
  obtain ⟨-, -, stored, fits, -⟩ := registrable
  have none : varchar 50 longName = none := by decide
  rw [none] at fits
  contradiction

theorem registration_ends_iff_longName :
    ∃ (execution : Execution Unit (messenger Steady.postgres)) (k : Nat),
      execution.moves 0 = .start () (login longName) ∧
      ((∃ l > k, ¬ Registering (execution.states l) () longName) ↔
        Registrable (execution.states k).store longName) := by
  obtain ⟨execution, endless⟩ :=
    endless_of_refused longName_clean.1 longName_clean.2 longName_refused
  have idle : ((execution.states 0).clients ()).activity = .idle .auth := by
    rw [endless.starts]
    rfl
  obtain ⟨k, -, -, ends⟩ := registration_ends_iff endless.answers endless.available idle
    endless.pressed rfl endless.lookup endless.missing
  exact ⟨execution, k, endless.pressed, ends⟩

/-- A name of 51 letters is asked for without end. -/
theorem registration_endless : ∃ execution, Endless execution longName :=
  endless_of_refused longName_clean.1 longName_clean.2 longName_refused

end BpkMessenger.Client
