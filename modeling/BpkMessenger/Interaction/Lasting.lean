import BpkMessenger.Interaction.Ending
import BpkMessenger.Interaction.Execution

namespace BpkMessenger.Interaction

/-! What lasts of the windows along a run. -/

variable {ι σ W Event Request Reply Output Chance : Type}

/-- The window as the last handler has left it. -/
def Activity.window : Activity W Event Request Reply Output → Option W
  | .idle window => some window
  | .running window _ _ => some window
  | .halted => none

@[simp] theorem window_idle (window : W) :
    (.idle window : Activity W Event Request Reply Output).window = some window :=
  rfl

@[simp] theorem window_running (window : W) (event : Event)
    (program : Program Request Reply Output W) :
    (Activity.running window event program).window = some window :=
  rfl

@[simp] theorem window_halted :
    (.halted : Activity W Event Request Reply Output).window = none :=
  rfl

theorem window_settle {window result : W} {event : Event}
    {program : Program Request Reply Output W}
    (shows : (settle window event program).window = some result) :
    result = window ∨ program.outcome = some (some result) := by
  induction program with
  | done value => exact .inr (congrArg some shows)
  | throws => contradiction
  | tell output rest induction => exact induction shows
  | ask request again next => exact .inl (Option.some.inj shows).symm

theorem running_of_settle {window other : W} {event action : Event}
    {program rest : Program Request Reply Output W}
    (runs : settle window event program = .running other action rest) :
    other = window ∧ action = event := by
  induction program with
  | done value => contradiction
  | throws => contradiction
  | tell output later induction => exact induction runs
  | ask request again next =>
      cases runs
      exact ⟨rfl, rfl⟩

section Runs

variable {machine : Machine σ W Event Request Reply Output Chance}
  {answers : Exchange σ Request Reply → Prop} {grows : σ → σ → Prop}
  {condition : Condition ι σ W Event Request Reply}
  {sends : W → Event → List (Exchange σ Request Reply) → Request → Prop}
  {post : W → Event → W → List (Exchange σ Request Reply) → Prop}
  {invariant relied : ι → W → σ → Prop}
  {start state : State ι σ W Event Request Reply Output}

theorem Meets.mono {weaker : Condition ι σ W Event Request Reply}
    (implies : ∀ {client window event trace exchange},
      condition client window event trace exchange → weaker client window event trace exchange)
    {move : Move ι Event Chance} (meets : Meets machine condition state move) :
    Meets machine weaker state move := by
  cases move with
  | start client event => exact trivial
  | exchange client chance =>
      intro window event request again next reply after running served
      exact implies (meets window event request again next reply after running served)

theorem Advances.window {move : Move ι Event Chance} {client : ι} {window : W} {event : Event}
    {program : Program Request Reply Output W} {trace : List (Exchange σ Request Reply)}
    {store : σ}
    (advances : Advances machine state move client window event program trace store) :
    (state.clients client).activity.window = some window := by
  cases advances with
  | started idle handled =>
      rw [idle]
      rfl
  | answered running served =>
      rw [running]
      rfl

/-- What a condition says of the events, holds of a handler once it has had a reply. -/
theorem Advances.meets_last {allows : Event → Prop} {move : Move ι Event Chance} {client : ι}
    (implies : ∀ {window event trace exchange},
      condition client window event trace exchange → allows event)
    (meets : Meets machine condition state move) {window : W} {event : Event}
    {program : Program Request Reply Output W} {trace : List (Exchange σ Request Reply)}
    {store : σ}
    (advances : Advances machine state move client window event program trace store)
    (asked : trace ≠ []) : allows event := by
  cases advances with
  | started idle handled => exact absurd rfl asked
  | answered running served => exact implies (meets _ _ _ _ _ _ _ running served)

/-- With what else is shown of the results. -/
theorem Verified.and {asks : W → Event → List (Exchange σ Request Reply) → Request → Prop}
    {also : W → Event → W → List (Exchange σ Request Reply) → Prop}
    (verified : Verified machine answers grows condition sends post invariant)
    (safe : ∀ {window event program}, machine.handler window event = some program →
      Safe (Chained answers grows) (asks window event) (also window event) program []) :
    Verified machine answers grows condition sends
      (fun window event result trace =>
        post window event result trace ∧ also window event result trace) invariant where
  safe handled := (verified.safe handled).and (safe handled)
  stable := verified.stable
  preserved held chained meeting past both :=
    verified.preserved held chained meeting past both.1

section Windows

variable [DecidableEq ι]

theorem Reaches.mono {weaker : Condition ι σ W Event Request Reply}
    (implies : ∀ {client window event trace exchange},
      condition client window event trace exchange → weaker client window event trace exchange)
    (reached : Reaches machine condition start state) : Reaches machine weaker start state := by
  induction reached with
  | start => exact .start
  | step reached meets stepped induction => exact induction.step (meets.mono implies) stepped

/-- A preorder between the windows before and after every handler that ends in a run relates
the windows of any two of its states. -/
theorem Reaches.lasts {related : W → W → Prop} (refl : ∀ window, related window window)
    (trans : ∀ {first second third}, related first second → related second third →
      related first third) {client : ι}
    (ended : ∀ {middle move window event program trace store result},
      Reaches machine condition start middle → Meets machine condition middle move →
        Advances machine middle move client window event program trace store →
          program.outcome = some (some result) → related window result)
    (reached : Reaches machine condition start state) {window result : W}
    (first : (start.clients client).activity.window = some window)
    (last : (state.clients client).activity.window = some result) :
    related window result := by
  induction reached generalizing result with
  | start =>
      rw [first] at last
      cases last
      exact refl window
  | @step middle after move reached meets stepped induction =>
      have advanced : ∀ {mover current event program trace store},
          (middle.clients mover).activity.window = some current →
            Advances machine middle move mover current event program trace store →
              ((middle.put store mover ⟨settle current event program, trace⟩).clients
                client).activity.window = some result → related window result := by
        intro mover current event program trace store before advances shows
        by_cases own : client = mover
        · subst own
          simp only [State.put, Function.update_self] at shows
          rcases window_settle shows with rfl | outcome
          · exact induction before
          · exact trans (induction before) (ended reached meets advances outcome)
        · simp only [State.put, Function.update_of_ne own] at shows
          exact induction shows
      cases State.stepped stepped with
      | start idle handled => exact advanced (by rw [idle]; rfl) (.started idle handled) last
      | @unanswered mover chance event current request again next store running served =>
          by_cases own : client = mover
          · subst own
            simp [State.put] at last
          · simp only [State.put, Function.update_of_ne own] at last
            exact induction last
      | answered running served =>
          exact advanced (by rw [running]; rfl) (.answered running served) last

end Windows

/-! An invariant that a handler keeps because it held at each of its exchanges. -/

structure Attested (answers : Exchange σ Request Reply → Prop) (grows : σ → σ → Prop)
    (condition : Condition ι σ W Event Request Reply)
    (post : W → Event → W → List (Exchange σ Request Reply) → Prop)
    (relied : ι → W → σ → Prop) : Prop where
  stable : ∀ {client window store after}, grows store after →
    relied client window store → relied client window after
  preserved : ∀ {client window event result trace store}, Chained answers grows trace →
    Meeting condition client window event trace →
      (∀ exchange ∈ trace, grows exchange.after store) → relied client window store →
        (∀ exchange ∈ trace, relied client window exchange.before) →
          post window event result trace → relied client result store

/-- It holds of the window, and has held at each exchange of the handler that runs. -/
structure Upheld (relied : ι → W → σ → Prop) (store : σ) (client : ι)
    (value : Client σ W Event Request Reply Output) : Prop where
  now : ∀ window, value.activity.window = some window → relied client window store
  seen : Witnessed relied client value

theorem Upheld.grow (attested : Attested answers grows condition post relied) {store after : σ}
    {client : ι} {value : Client σ W Event Request Reply Output} (grown : grows store after)
    (holds : Upheld relied store client value) : Upheld relied after client value :=
  ⟨fun window shows => attested.stable grown (holds.now window shows), holds.seen⟩

theorem Advances.upheld (lawful : Lawful machine answers grows)
    (attested : Attested answers grows condition post relied)
    (holds : ∀ client, Upheld relied state.store client (state.clients client))
    {move : Move ι Event Chance} {client : ι} {window : W} {event : Event}
    {program : Program Request Reply Output W} {trace : List (Exchange σ Request Reply)}
    {store : σ}
    (advances : Advances machine state move client window event program trace store) :
    relied client window store ∧ ∀ exchange ∈ trace, relied client window exchange.before := by
  have own := holds client
  cases advances with
  | started idle handled =>
      exact ⟨own.now window (by rw [idle]; rfl), fun _ member => absurd member List.not_mem_nil⟩
  | answered running served =>
      have now := own.now window (by rw [running]; rfl)
      have seen := own.seen
      simp only [Witnessed, running] at seen
      refine ⟨attested.stable (lawful.grown served) now, ?_⟩
      intro exchange member
      rcases List.mem_append.mp member with member | member
      · exact seen exchange member
      · rw [List.mem_singleton.mp member]
        exact now

variable [DecidableEq ι]

theorem Reaches.upheld (lawful : Lawful machine answers grows)
    (verified : Verified machine answers grows condition sends post invariant)
    (attested : Attested answers grows condition post relied)
    (initial : ∀ client, Holds answers grows condition sends post invariant start.store client
      (start.clients client))
    (first : ∀ client, Upheld relied start.store client (start.clients client))
    (reached : Reaches machine condition start state) :
    ∀ client, Upheld relied state.store client (state.clients client) := by
  induction reached with
  | start => exact first
  | @step middle after move reached meets stepped induction =>
      have holds := Reaches.holds lawful verified initial reached
      have settled : ∀ {client window event program trace store},
          Advances machine middle move client window event program trace store →
            Upheld relied store client
              (⟨settle window event program, trace⟩ :
                Client σ W Event Request Reply Output) := by
        intro client window event program trace store advances
        have underway := advances.underway lawful verified holds meets
        have kept := advances.upheld lawful attested induction
        refine ⟨fun result shows => ?_, Witnessed.settle kept.2⟩
        rcases window_settle shows with rfl | outcome
        · exact kept.1
        · exact attested.preserved underway.chained underway.meeting underway.past kept.1 kept.2
            (underway.safe.outcome outcome)
      have others : ∀ {store}, grows middle.store store →
          ∀ other, Upheld relied store other (middle.clients other) :=
        fun grown other => (induction other).grow attested grown
      cases State.stepped stepped with
      | start idle handled =>
          exact State.forall_put induction (settled (.started idle handled))
      | unanswered running served =>
          refine State.forall_put (others (lawful.grown served)) ⟨?_, trivial⟩
          intro window shows
          contradiction
      | answered running served =>
          exact State.forall_put (others (lawful.grown served)) (settled (.answered running served))

/-! Runs whose handlers are started by such events. -/

section Started

variable {test : Test ι σ W Event Request Reply} {good : Event → Prop}

/-- If this client runs a handler, such an event started it. -/
def Started (good : Event → Prop) (client : Client σ W Event Request Reply Output) : Prop :=
  ∀ window event program, client.activity = .running window event program → good event

theorem Started.settle {window : W} {event : Event} {program : Program Request Reply Output W}
    {trace : List (Exchange σ Request Reply)} (started : good event) :
    Started good ⟨settle window event program, trace⟩ := by
  intro other action rest running
  obtain ⟨-, rfl⟩ := running_of_settle running
  exact started

theorem meets_of_started (implies : ∀ client window event trace exchange, good event →
      test client window event trace exchange = true →
        condition client window event trace exchange)
    (started : ∀ client, Started good (state.clients client)) {move : Move ι Event Chance}
    (stepped : state.step machine move = some after)
    (passes : state.passes test after move = true) : Meets machine condition state move := by
  have passed : Meets machine (fun client window event trace exchange =>
      test client window event trace exchange = true) state move :=
    meets_of_passes (fun _ _ _ _ _ => id) stepped passes
  cases move with
  | start client event => exact trivial
  | exchange client chance =>
      intro window event request again next reply store running served
      exact implies _ _ _ _ _ (started _ _ _ _ running) (passed _ _ _ _ _ _ _ running served)

theorem Started.step (starts : ∀ client event, move = .start client event → good event)
    (started : ∀ client, Started good (state.clients client))
    (stepped : state.step machine move = some after) :
    ∀ client, Started good (after.clients client) := by
  cases State.stepped stepped with
  | start idle handled => exact State.forall_put started (.settle (starts _ _ rfl))
  | unanswered running served =>
      refine State.forall_put started fun window event program halted => ?_
      contradiction
  | answered running served =>
      exact State.forall_put started (.settle (started _ _ _ _ running))

/-- A run whose handlers are started by such events, under what holds of their exchanges. -/
theorem Reaches.of_started (implies : ∀ client window event trace exchange, good event →
      test client window event trace exchange = true →
        condition client window event trace exchange)
    {moves : List (Move ι Event Chance)}
    (starts : ∀ client event, .start client event ∈ moves → good event)
    (started : ∀ client, Started good (state.clients client))
    (reached : Reaches machine condition start state)
    (ran : state.run machine test moves = some final) :
    Reaches machine condition start final ∧ ∀ client, Started good (final.clients client) := by
  induction moves generalizing state with
  | nil =>
      cases ran
      exact ⟨reached, started⟩
  | cons move moves induction =>
      obtain ⟨after, stepped, rest⟩ := Option.bind_eq_some_iff.mp ran
      obtain ⟨passes, rest⟩ := Option.ite_none_right_eq_some.mp rest
      apply induction (fun client event member => starts client event (.tail _ member))
        _ (reached.step (meets_of_started implies started stepped passes) stepped) rest
      apply Started.step _ started stepped
      rintro client event rfl
      exact starts client event List.mem_cons_self

end Started

/-! Runs move by move. -/

section Rounds

variable {test : Test ι σ W Event Request Reply} {moves : List (Move ι Event Chance)}
  {holds : State ι σ W Event Request Reply Output → Prop}

/-- A run from here that ends in such a state. -/
def Leads (machine : Machine σ W Event Request Reply Output Chance)
    (test : Test ι σ W Event Request Reply)
    (holds : State ι σ W Event Request Reply Output → Prop)
    (state : State ι σ W Event Request Reply Output) (moves : List (Move ι Event Chance)) : Prop :=
  ∃ after, state.run machine test moves = some after ∧ holds after

theorem Leads.starting {client : ι} {event : Event} {window : W}
    {program : Program Request Reply Output W}
    (idle : (state.clients client).activity = .idle window)
    (handled : machine.handler window event = some program)
    (leads : Leads machine test holds
      (state.put state.store client ⟨settle window event program, []⟩) moves) :
    Leads machine test holds state (.start client event :: moves) := by
  obtain ⟨after, ran, held⟩ := leads
  refine ⟨after, ?_, held⟩
  rw [State.run, Interaction.run, (Advances.started idle handled).step]
  exact ran

theorem State.put_put (store later : σ) (client : ι)
    (before after : Client σ W Event Request Reply Output) :
    (state.put store client before).put later client after = state.put later client after := by
  simp only [State.put, Function.update_idem]

/-- The next reply of a handler that waits for it. -/
theorem Leads.exchanging {client : ι} {chance : Chance} {event : Event} {window : W}
    {request : Request} {again : Reply → Bool} {next : Reply → Program Request Reply Output W}
    {trace : List (Exchange σ Request Reply)} {before after : σ} {reply : Reply}
    (served : machine.serve chance before request = (some reply, after))
    (accepted : again reply = false)
    (passes : test client window event trace ⟨before, request, reply, after⟩ = true)
    (leads : Leads machine test holds
      (state.put after client
        ⟨settle window event (next reply), trace ++ [⟨before, request, reply, after⟩]⟩) moves) :
    Leads machine test holds
      (state.put before client ⟨settle window event (.ask request again next), trace⟩)
      (.exchange client chance :: moves) := by
  let waiting := state.put before client ⟨settle window event (.ask request again next), trace⟩
  have waits : waiting.clients client = ⟨.running window event (.ask request again next), trace⟩ :=
    Function.update_self client _ state.clients
  have running : (waiting.clients client).activity =
      .running window event (.ask request again next) := by
    rw [waits]
  have stepped := (Advances.answered running served).step
  rw [accepted, waits, State.put_put] at stepped
  obtain ⟨final, ran, held⟩ := leads
  refine ⟨final, ?_, held⟩
  change waiting.run machine test (.exchange client chance :: moves) = some final
  rw [State.run, Interaction.run, stepped, Option.bind_some, if_pos]
  · exact ran
  · have same : waiting.store = before := rfl
    simpa [State.passes, waits, State.put, same] using passes

end Rounds

/-! Handlers of an endless run. -/

namespace Execution

variable {execution : Execution ι machine} {client : ι} {window : W} {event : Event}

theorem reaches {first last : Nat} (later : first ≤ last)
    (meets : ∀ n, first ≤ n → Meets machine condition (execution.states n) (execution.moves n)) :
    Reaches machine condition (execution.states first) (execution.states last) := by
  induction last, later using Nat.le_induction with
  | base => exact .start
  | succ n later induction => exact induction.step (meets n later) (execution.steps n)

/-- A run, and an endless run from where it ends. -/
theorem of_run {test : Test ι σ W Event Request Reply}
    (implies : ∀ client window event trace exchange,
      test client window event trace exchange = true →
        condition client window event trace exchange)
    {moves : List (Move ι Event Chance)} (ran : start.run machine test moves = some state)
    (execution : Execution ι machine) (first : execution.states 0 = state)
    (meets : ∀ n, Meets machine condition (execution.states n) (execution.moves n)) :
    ∃ longer : Execution ι machine, longer.states 0 = start ∧
      (∀ n, longer.states (moves.length + n) = execution.states n ∧
        longer.moves (moves.length + n) = execution.moves n) ∧
      ∀ n, Meets machine condition (longer.states n) (longer.moves n) := by
  induction moves generalizing start with
  | nil =>
      cases ran
      refine ⟨execution, first, fun n => ?_, meets⟩
      rw [List.length_nil, Nat.zero_add]
      exact ⟨rfl, rfl⟩
  | cons move moves induction =>
      obtain ⟨after, stepped, rest⟩ := Option.bind_eq_some_iff.mp ran
      obtain ⟨passes, rest⟩ := Option.ite_none_right_eq_some.mp rest
      obtain ⟨longer, begins, same, also⟩ := induction rest
      refine ⟨⟨fun n => n.casesOn start longer.states, fun n => n.casesOn move longer.moves,
        fun n => ?_⟩, rfl, fun n => ?_, fun n => ?_⟩
      · cases n with
        | zero => exact stepped.trans (congrArg some begins.symm)
        | succ n => exact longer.steps n
      · rw [List.length_cons, Nat.succ_add]
        exact same n
      · cases n with
        | zero => exact meets_of_passes implies stepped passes
        | succ n => exact also n

/-- What is left of a round can be run, and leads to the next round. -/
def Pending (machine : Machine σ W Event Request Reply Output Chance)
    (test : Test ι σ W Event Request Reply) (round : List (Move ι Event Chance))
    (holds : State ι σ W Event Request Reply Output → Prop) (n : Nat)
    (state : State ι σ W Event Request Reply Output) : Prop :=
  Leads machine test holds state (round.drop (n % round.length))

theorem Pending.step {test : Test ι σ W Event Request Reply} {round : List (Move ι Event Chance)}
    {holds : State ι σ W Event Request Reply Output → Prop}
    (again : ∀ state, holds state → Leads machine test holds state round) {n : Nat}
    (inside : n % round.length < round.length)
    (pending : Pending machine test round holds n state) :
    ∃ next, state.step machine (round.get ⟨_, inside⟩) = some next ∧
      state.passes test next (round.get ⟨_, inside⟩) = true ∧
        Pending machine test round holds (n + 1) next := by
  obtain ⟨after, ran, held⟩ := pending
  rw [List.drop_eq_getElem_cons inside] at ran
  obtain ⟨next, stepped, rest⟩ := Option.bind_eq_some_iff.mp ran
  obtain ⟨passes, rest⟩ := Option.ite_none_right_eq_some.mp rest
  refine ⟨next, stepped, passes, ?_⟩
  rcases Nat.lt_or_ge (n % round.length + 1) round.length with short | whole
  · have further : (n + 1) % round.length = n % round.length + 1 := by
      rw [Nat.add_mod_eq_add_mod_right 1 (Nat.mod_mod n round.length).symm,
        Nat.mod_eq_of_lt short]
    exact ⟨after, by rw [further]; exact rest, held⟩
  · rw [List.drop_eq_nil_of_le whole] at rest
    cases rest
    have wraps : (n + 1) % round.length = 0 := by
      have last : n % round.length + 1 = round.length := Nat.le_antisymm inside whole
      rw [Nat.add_mod_eq_add_mod_right 1 (Nat.mod_mod n round.length).symm, last, Nat.mod_self]
    obtain ⟨final, ran, held⟩ := again _ held
    exact ⟨final, by rw [wraps]; exact ran, held⟩

/-- Moves that can be repeated for ever. -/
theorem of_repeats {test : Test ι σ W Event Request Reply}
    (implies : ∀ client window event trace exchange,
      test client window event trace exchange = true →
        condition client window event trace exchange)
    {move : Move ι Event Chance} {moves : List (Move ι Event Chance)}
    {holds : State ι σ W Event Request Reply Output → Prop} (first : holds start)
    (again : ∀ state, holds state → Leads machine test holds state (move :: moves)) :
    ∃ execution : Execution ι machine, execution.states 0 = start ∧
      (∀ k, execution.moves ((move :: moves).length * k) = move) ∧
      ∀ n, Meets machine condition (execution.states n) (execution.moves n) := by
  have inside : ∀ n, n % (move :: moves).length < (move :: moves).length :=
    fun n => Nat.mod_lt n (Nat.succ_pos _)
  have made : ∃ execution : Execution ι machine, execution.states 0 = start ∧
      execution.moves = (fun n => (move :: moves).get ⟨_, inside n⟩) ∧
      ∀ n, Pending machine test (move :: moves) holds n (execution.states n) := by
    refine of_invariant _ (again start first) fun n state pending => ?_
    obtain ⟨next, stepped, -, rest⟩ := pending.step again (inside n)
    exact ⟨next, stepped, rest⟩
  obtain ⟨execution, starts, turns, pending⟩ := made
  refine ⟨execution, starts, fun k => ?_, fun n => ?_⟩
  · simp [turns]
  · obtain ⟨next, stepped, passes, -⟩ := (pending n).step again (inside n)
    rw [turns]
    exact meets_of_passes implies stepped passes

/-- Two runs, and moves from where they end that can be repeated for ever. -/
theorem of_rounds {test : Test ι σ W Event Request Reply}
    (implies : ∀ client window event trace exchange,
      test client window event trace exchange = true →
        condition client window event trace exchange)
    {begun further moves : List (Move ι Event Chance)} {move : Move ι Event Chance}
    {final : State ι σ W Event Request Reply Output}
    {holds : State ι σ W Event Request Reply Output → Prop}
    (ran : start.run machine test begun = some state)
    (later : state.run machine test further = some final) (first : holds final)
    (again : ∀ state, holds state → Leads machine test holds state (move :: moves)) :
    ∃ execution : Execution ι machine, execution.states 0 = start ∧
      execution.states begun.length = state ∧ (∀ m, ∃ p ≥ m, execution.moves p = move) ∧
      ∀ n, Meets machine condition (execution.states n) (execution.moves n) := by
  obtain ⟨endless, begins, turns, meets⟩ := of_repeats implies first again
  obtain ⟨onward, starts, same, meets⟩ := of_run implies later endless begins meets
  obtain ⟨execution, origin, beyond, meets⟩ := of_run implies ran onward starts meets
  refine ⟨execution, origin, (beyond 0).1.trans starts, fun m => ?_, meets⟩
  have reached : m ≤ (move :: moves).length * m := Nat.le_mul_of_pos_left m (Nat.succ_pos _)
  refine ⟨begun.length + (further.length + (move :: moves).length * m), by omega, ?_⟩
  rw [(beyond _).2, (same _).2, turns m]

/-- Only a client that is idle or waits can move. -/
theorem mover (execution : Execution ι machine) {n : Nat}
    (own : (execution.moves n).client = client) :
    (∃ window, ((execution.states n).clients client).activity = .idle window) ∨
      ∃ window event request again next, ((execution.states n).clients client).activity =
        .running window event (.ask request again next) := by
  have stepped := execution.steps n
  generalize execution.moves n = move, execution.states (n + 1) = after at stepped own
  cases State.stepped stepped with
  | start idle handled =>
      cases own
      exact .inl ⟨_, idle⟩
  | unanswered running served | answered running served =>
      cases own
      exact .inr ⟨_, _, _, _, _, running⟩

theorem halted_stays {first last : Nat} (later : first ≤ last)
    (halted : ((execution.states first).clients client).activity = .halted) :
    ((execution.states last).clients client).activity = .halted := by
  induction last, later using Nat.le_induction with
  | base => exact halted
  | succ n later induction =>
      by_cases own : (execution.moves n).client = client
      · rcases execution.mover own with ⟨window, idle⟩ | ⟨_, _, _, _, _, waits⟩
        · rw [induction] at idle
          contradiction
        · rw [induction] at waits
          contradiction
      · rw [State.step_others (execution.steps n) own]
        exact induction

/-- What has become of a handler. -/
inductive Pursued (execution : Execution ι machine) (grows : σ → σ → Prop) (client : ι)
    (window : W) (event : Event) (first n : Nat) : Prop
  | running {program : Program Request Reply Output W}
      (runs : ((execution.states n).clients client).activity = .running window event program)
      (seen : ∀ exchange ∈ ((execution.states n).clients client).trace,
        grows (execution.states first).store exchange.before)
  | ended {last : Nat} {program : Program Request Reply Output W}
      {trace : List (Exchange σ Request Reply)} {store : σ} {result : W} (after : first ≤ last)
      (advances : Advances machine (execution.states last) (execution.moves last) client window
        event program trace store) (outcome : program.outcome = some (some result))
      (idle : ((execution.states (last + 1)).clients client).activity = .idle result)
      (seen : ∀ exchange ∈ trace, grows (execution.states first).store exchange.before)
  | halted (halts : ((execution.states n).clients client).activity = .halted)

theorem Pursued.settle {first n : Nat} {program : Program Request Reply Output W}
    {trace : List (Exchange σ Request Reply)} {store : σ} (after : first ≤ n)
    (advances : Advances machine (execution.states n) (execution.moves n) client window event
      program trace store)
    (seen : ∀ exchange ∈ trace, grows (execution.states first).store exchange.before) :
    Pursued execution grows client window event first (n + 1) := by
  have stepped := advances.step.symm.trans (execution.steps n)
  have own : (execution.states (n + 1)).clients client =
      ⟨Interaction.settle window event program, trace⟩ := by
    rw [← Option.some.inj stepped]
    exact Function.update_self _ _ _
  cases settled : Interaction.settle window event program with
  | idle result =>
      rw [settled] at own
      exact .ended after advances (outcome_of_settle settled) (congrArg Client.activity own) seen
  | running other action rest =>
      obtain ⟨rfl, rfl⟩ := running_of_settle settled
      rw [settled] at own
      refine .running (congrArg Client.activity own) ?_
      rw [own]
      exact seen
  | halted =>
      rw [settled] at own
      exact .halted (congrArg Client.activity own)

theorem pursued (lawful : Lawful machine answers grows) {first : Nat}
    (idle : ((execution.states first).clients client).activity = .idle window)
    (started : execution.moves first = .start client event) {n : Nat} (later : first < n) :
    Pursued execution grows client window event first n := by
  induction n, later using Nat.le_induction with
  | base =>
      have stepped := execution.steps first
      rw [started] at stepped
      cases handled : machine.handler window event with
      | none => simp [State.step, idle, handled] at stepped
      | some program =>
          have advances : Advances machine (execution.states first) (execution.moves first) client
              window event program [] (execution.states first).store := by
            rw [started]
            exact .started idle handled
          exact .settle (Nat.le_refl first) advances fun _ member => absurd member List.not_mem_nil
  | succ n later induction =>
      cases induction with
      | halted halts => exact .halted (halted_stays (Nat.le_succ n) halts)
      | ended after advances outcome idle seen => exact .ended after advances outcome idle seen
      | running runs seen =>
          by_cases own : (execution.moves n).client = client
          · rcases execution.mover own with ⟨_, idle⟩ | ⟨_, _, request, again, next, waits⟩
            · rw [runs] at idle
              contradiction
            rw [runs] at waits
            cases waits
            obtain ⟨chance, exchanged⟩ := exchanges runs own
            rcases served : machine.serve chance (execution.states n).store request with
              ⟨_ | reply, store⟩
            · have stepped := execution.steps n
              simp only [exchanged, State.step, runs, served, Option.some.injEq] at stepped
              refine .halted ?_
              rw [← stepped]
              simp [State.put]
            · have advances : Advances machine (execution.states n) (execution.moves n) client
                  window event (if again reply then .ask request again next else next reply)
                  (((execution.states n).clients client).trace ++
                    [⟨(execution.states n).store, request, reply, store⟩]) store := by
                rw [exchanged]
                exact .answered runs served
              refine .settle (Nat.le_of_lt later) advances fun exchange member => ?_
              rcases List.mem_append.mp member with earlier | last
              · exact seen exchange earlier
              · rw [List.mem_singleton.mp last]
                exact Execution.grows lawful (Nat.le_of_lt later)
          · have same := State.step_others (execution.steps n) own
            rw [← same] at runs seen
            exact .running runs seen

/-! A handler that is started again and again. -/

section Again

variable {starting : Event → Prop}

/-- Its client never halts. -/
theorem shows_again
    (again : ∀ m, ∃ n ≥ m, ∃ event, starting event ∧ execution.moves n = .start client event)
    (m : Nat) : ∃ window, ((execution.states m).clients client).activity.window = some window := by
  cases activity : ((execution.states m).clients client).activity with
  | idle window => exact ⟨window, rfl⟩
  | running window event program => exact ⟨window, rfl⟩
  | halted =>
      obtain ⟨n, later, event, -, started⟩ := again m
      have stepped := execution.steps n
      simp [started, State.step, halted_stays later activity] at stepped

theorem idle_again
    (again : ∀ m, ∃ n ≥ m, ∃ event, starting event ∧ execution.moves n = .start client event)
    (m : Nat) : ∃ n ≥ m, ∃ event window, starting event ∧
      execution.moves n = .start client event ∧
        ((execution.states n).clients client).activity = .idle window := by
  obtain ⟨n, later, event, starts, started⟩ := again m
  have own : (execution.moves n).client = client := by
    rw [started]
    rfl
  rcases execution.mover own with ⟨window, idle⟩ | ⟨_, _, _, _, _, waits⟩
  · exact ⟨n, later, event, window, starts, started, idle⟩
  · have stepped := execution.steps n
    simp [started, State.step, waits] at stepped

/-- What such a handler brings about and what lasts, comes to stay. -/
theorem comes_to_stay (lawful : Lawful machine answers grows) {n : Nat} {good : W → Prop}
    (again : ∀ m, ∃ n ≥ m, ∃ event, starting event ∧ execution.moves n = .start client event)
    (brought : ∀ {last window event program trace store result}, n ≤ last → starting event →
      Advances machine (execution.states last) (execution.moves last) client window event program
          trace store →
        program.outcome = some (some result) →
          (∀ exchange ∈ trace, grows (execution.states n).store exchange.before) → good result)
    (kept : ∀ {first last window result}, n ≤ first → first ≤ last →
      ((execution.states first).clients client).activity.window = some window →
        ((execution.states last).clients client).activity.window = some result →
          good window → good result) :
    ∃ m ≥ n, ∀ k ≥ m, ∃ result,
      ((execution.states k).clients client).activity.window = some result ∧ good result := by
  obtain ⟨first, after, event, window, starts, started, idle⟩ := idle_again again n
  obtain ⟨next, later, _, _, -, -, rests⟩ := idle_again again (first + 1)
  cases pursued lawful idle started later with
  | running runs seen =>
      rw [rests] at runs
      contradiction
  | halted halts =>
      rw [rests] at halts
      contradiction
  | @ended last program trace store result passed advances outcome ends seen =>
      have grown : grows (execution.states n).store (execution.states first).store :=
        Execution.grows lawful after
      have beyond : n ≤ last := Nat.le_trans after passed
      refine ⟨last + 1, Nat.le_succ_of_le beyond, fun k further => ?_⟩
      obtain ⟨final, shown⟩ := shows_again again k
      have shows : ((execution.states (last + 1)).clients client).activity.window =
          some result := by
        rw [ends]
        rfl
      have brings := brought beyond starts advances outcome fun exchange member =>
        lawful.trans grown (seen exchange member)
      exact ⟨final, shown, kept (Nat.le_succ_of_le beyond) further shows shown brings⟩

end Again

end Execution

end Runs

end BpkMessenger.Interaction
