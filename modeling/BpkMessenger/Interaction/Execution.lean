import BpkMessenger.Interaction.System
import Mathlib.Data.Nat.Find
import Mathlib.Data.Nat.Init
import Mathlib.Tactic.Choose

namespace BpkMessenger.Interaction

/-! Endless runs. -/

variable {ι σ W Event Request Reply Output Chance : Type} [DecidableEq ι]

def Move.client : Move ι Event Chance → ι
  | .start client _ => client
  | .exchange client _ => client

theorem State.step_others {machine : Machine σ W Event Request Reply Output Chance}
    {state after : State ι σ W Event Request Reply Output} {move : Move ι Event Chance}
    {client : ι} (stepped : state.step machine move = some after)
    (other : move.client ≠ client) : after.clients client = state.clients client := by
  cases State.stepped stepped with
  | start idle handled => exact Function.update_of_ne (Ne.symm other) _ _
  | unanswered running served => exact Function.update_of_ne (Ne.symm other) _ _
  | answered running served => exact Function.update_of_ne (Ne.symm other) _ _

theorem Lawful.step_grows {machine : Machine σ W Event Request Reply Output Chance}
    {valid : Exchange σ Request Reply → Prop} {grows : σ → σ → Prop}
    (lawful : Lawful machine valid grows)
    {state after : State ι σ W Event Request Reply Output} {move : Move ι Event Chance}
    (stepped : state.step machine move = some after) : grows state.store after.store := by
  cases State.stepped stepped with
  | start idle handled => exact lawful.refl _
  | unanswered running served => exact lawful.grown served
  | answered running served => exact lawful.grown served

theorem Reaches.grows {machine : Machine σ W Event Request Reply Output Chance}
    {valid : Exchange σ Request Reply → Prop} {grows : σ → σ → Prop}
    (lawful : Lawful machine valid grows) {condition : Condition ι σ W Event Request Reply}
    {start state : State ι σ W Event Request Reply Output}
    (reached : Reaches machine condition start state) : grows start.store state.store := by
  induction reached with
  | start => exact lawful.refl _
  | step reached meets stepped induction =>
      exact lawful.trans induction (lawful.step_grows stepped)

structure Execution (ι : Type) [DecidableEq ι]
    (machine : Machine σ W Event Request Reply Output Chance) where
  states : Nat → State ι σ W Event Request Reply Output
  moves : Nat → Move ι Event Chance
  steps : ∀ n, (states n).step machine (moves n) = some (states (n + 1))

namespace Execution

variable {machine : Machine σ W Event Request Reply Output Chance}
  {execution : Execution ι machine} {client : ι} {window : W} {event : Event}
  {request : Request} {again : Reply → Bool}
  {resume : Reply → Program Request Reply Output W}

/-- A client that waits for a reply gets one sooner or later. -/
def Answers (execution : Execution ι machine) (client : ι) : Prop :=
  ∀ n window event program,
    ((execution.states n).clients client).activity = .running window event program →
      ∃ m ≥ n, (execution.moves m).client = client

/-- The first move of a client from some point on. -/
structure Next (execution : Execution ι machine) (client : ι) (first n : Nat) : Prop where
  later : first ≤ n
  own : (execution.moves n).client = client
  others : ∀ m, first ≤ m → m < n → (execution.moves m).client ≠ client

theorem Next.kept {first n : Nat} (reached : execution.Next client first n) :
    (execution.states n).clients client = (execution.states first).clients client := by
  obtain ⟨later, -, others⟩ := reached
  induction n, later using Nat.le_induction with
  | base => rfl
  | succ n later induction =>
      rw [State.step_others (execution.steps n) (others n later (Nat.lt_succ_self n))]
      exact induction fun m from_first before => others m from_first (Nat.lt_succ_of_lt before)

theorem Answers.next (answers : execution.Answers client) {n : Nat}
    {program : Program Request Reply Output W}
    (running : ((execution.states n).clients client).activity =
      .running window event program) :
    ∃ m, execution.Next client n m := by
  have moves := answers n window event program running
  refine ⟨Nat.find moves, (Nat.find_spec moves).1, (Nat.find_spec moves).2, ?_⟩
  intro m later before own
  exact Nat.find_min moves before ⟨later, own⟩

theorem grows {valid : Exchange σ Request Reply → Prop} {grows : σ → σ → Prop}
    (lawful : Lawful machine valid grows) {first last : Nat} (later : first ≤ last) :
    grows (execution.states first).store (execution.states last).store := by
  induction last, later using Nat.le_induction with
  | base => exact lawful.refl _
  | succ n later induction =>
      exact lawful.trans induction (lawful.step_grows (execution.steps n))

/-- The only move of a client that waits is an exchange. -/
theorem exchanges {n : Nat}
    (running : ((execution.states n).clients client).activity =
      .running window event (.ask request again resume))
    (own : (execution.moves n).client = client) :
    ∃ chance, execution.moves n = .exchange client chance := by
  have stepped := execution.steps n
  generalize execution.moves n = move at stepped own
  cases move with
  | start other event =>
      change other = client at own
      subst own
      simp [State.step, running] at stepped
  | exchange other chance =>
      cases own
      exact ⟨chance, rfl⟩

theorem answered {n : Nat} {chance : Chance} {reply : Reply} {after : σ}
    (running : ((execution.states n).clients client).activity =
      .running window event (.ask request again resume))
    (exchanged : execution.moves n = .exchange client chance)
    (served : machine.serve chance (execution.states n).store request = (some reply, after)) :
    (execution.states (n + 1)).clients client =
      ⟨settle window event (if again reply then .ask request again resume else resume reply),
        ((execution.states n).clients client).trace ++
          [⟨(execution.states n).store, request, reply, after⟩]⟩ := by
  have stepped := execution.steps n
  simp only [exchanged, State.step, running, served, Option.some.injEq] at stepped
  rw [← stepped]
  simp only [State.put, Function.update_self]

/-- A client repeats its request for as long as the replies to it do not satisfy it. -/
theorem repeats {n : Nat}
    (running : ((execution.states n).clients client).activity =
      .running window event (.ask request again resume))
    (refused : ∀ m ≥ n, ∀ chance, execution.moves m = .exchange client chance →
      ∃ reply after, machine.serve chance (execution.states m).store request =
        (some reply, after) ∧ again reply = true) {m : Nat} (later : n ≤ m) :
    ((execution.states m).clients client).activity =
      .running window event (.ask request again resume) := by
  induction m, later using Nat.le_induction with
  | base => exact running
  | succ m later induction =>
      by_cases own : (execution.moves m).client = client
      · obtain ⟨chance, exchanged⟩ := exchanges induction own
        obtain ⟨reply, after, served, repeated⟩ := refused m later chance exchanged
        rw [answered induction exchanged served, if_pos repeated]
        rfl
      · rw [State.step_others (execution.steps m) own]
        exact induction

/-- Moves that an invariant keeps possible make an endless run. -/
theorem of_invariant {start : State ι σ W Event Request Reply Output}
    (moves : Nat → Move ι Event Chance)
    {holds : Nat → State ι σ W Event Request Reply Output → Prop} (first : holds 0 start)
    (kept : ∀ n state, holds n state →
      ∃ after, state.step machine (moves n) = some after ∧ holds (n + 1) after) :
    ∃ execution : Execution ι machine, execution.states 0 = start ∧
      execution.moves = moves ∧ ∀ n, holds n (execution.states n) := by
  choose! after stepped holding using kept
  let states : Nat → State ι σ W Event Request Reply Output :=
    fun n => Nat.rec start (fun n state => after n state) n
  have held : ∀ n, holds n (states n) := by
    intro n
    induction n with
    | zero => exact first
    | succ n induction => exact holding n (states n) induction
  exact ⟨⟨states, moves, fun n => stepped n (states n) (held n)⟩, rfl, rfl, held⟩

end Execution

end BpkMessenger.Interaction
