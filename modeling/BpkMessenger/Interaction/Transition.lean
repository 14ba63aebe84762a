import Mathlib.Data.List.Basic

namespace BpkMessenger.Interaction

/-! Runs of a partial step function, with a condition on the moves. -/

variable {S M : Type} {step : S → M → Option S} {allowed : S → M → Prop}

/-- The states of the runs whose moves are all allowed. -/
inductive Reached (step : S → M → Option S) (allowed : S → M → Prop) (start : S) :
    S → Prop
  | start : Reached step allowed start start
  | step {state after : S} {move : M} (reached : Reached step allowed start state)
      (allows : allowed state move) (stepped : step state move = some after) :
      Reached step allowed start after

/-- A list of moves, each possible and passing a test on the states around it. -/
def run (step : S → M → Option S) (test : S → S → M → Bool) (state : S) :
    List M → Option S
  | [] => some state
  | move :: moves =>
      (step state move).bind fun after =>
        if test state after move then run step test after moves else none

namespace Reached

theorem invariant {start state : S} {holds : S → Prop} (first : holds start)
    (kept : ∀ {state after move}, holds state → allowed state move →
      step state move = some after → holds after)
    (reached : Reached step allowed start state) : holds state := by
  induction reached with
  | start => exact first
  | step reached allows stepped induction => exact kept induction allows stepped

theorem trans {first second third : S} (left : Reached step allowed first second)
    (right : Reached step allowed second third) : Reached step allowed first third := by
  induction right with
  | start => exact left
  | step reached allows stepped induction => exact induction.step allows stepped

/-- A forward simulation: a move of one system is matched by moves of the other. -/
theorem simulated {T N : Type} {next : T → N → Option T} {permitted : T → N → Prop}
    {related : S → T → Prop} {start state : S} {origin : T} (first : related start origin)
    (matched : ∀ {state after move shadow}, related state shadow → allowed state move →
      step state move = some after →
        ∃ final, Reached next permitted shadow final ∧ related after final)
    (reached : Reached step allowed start state) :
    ∃ shadow, Reached next permitted origin shadow ∧ related state shadow := by
  induction reached with
  | start => exact ⟨origin, .start, first⟩
  | step reached allows stepped induction =>
      obtain ⟨shadow, before, here⟩ := induction
      obtain ⟨final, onward, after⟩ := matched here allows stepped
      exact ⟨final, before.trans onward, after⟩

theorem of_run {test : S → S → M → Bool}
    (implies : ∀ {state after move}, step state move = some after →
      test state after move = true → allowed state move)
    {start state final : S} (reached : Reached step allowed start state) {moves : List M}
    (ran : run step test state moves = some final) :
    Reached step allowed start final := by
  induction moves generalizing state with
  | nil =>
      cases ran
      exact reached
  | cons move moves induction =>
      obtain ⟨after, stepped, rest⟩ := Option.bind_eq_some_iff.mp ran
      cases passes : test state after move with
      | false => simp [passes] at rest
      | true =>
          rw [if_pos passes] at rest
          exact induction (reached.step (implies stepped passes) stepped) rest

end Reached

end BpkMessenger.Interaction
