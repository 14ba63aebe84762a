import BpkMessenger.Interaction.Program
import BpkMessenger.Interaction.Transition
import Mathlib.Logic.Function.Basic

namespace BpkMessenger.Interaction

/-! Any number of clients around one service.  A client is idle in a window until
an event starts a handler; while the handler waits for a reply nothing else
happens at that client, and the requests of different clients interleave. -/

inductive Activity (W Event Request Reply Output : Type) where
  | idle (window : W)
  | running (window : W) (event : Event) (program : Program Request Reply Output W)
  | halted

/-- `trace` holds the exchanges of the last handler run. -/
structure Client (σ W Event Request Reply Output : Type) where
  activity : Activity W Event Request Reply Output
  trace : List (Exchange σ Request Reply)

structure Machine (σ W Event Request Reply Output Chance : Type) where
  handler : W → Event → Option (Program Request Reply Output W)
  serve : Chance → σ → Request → Option Reply × σ

structure State (ι σ W Event Request Reply Output : Type) where
  store : σ
  clients : ι → Client σ W Event Request Reply Output

inductive Move (ι Event Chance : Type) where
  | start (client : ι) (event : Event)
  | exchange (client : ι) (chance : Chance)

/-- A condition on single exchanges: at a client, in a handler run, after a trace. -/
abbrev Condition (ι σ W Event Request Reply : Type) :=
  ι → W → Event → List (Exchange σ Request Reply) → Exchange σ Request Reply → Prop

abbrev Test (ι σ W Event Request Reply : Type) :=
  ι → W → Event → List (Exchange σ Request Reply) → Exchange σ Request Reply → Bool

variable {ι σ W Event Request Reply Output Chance : Type}

/-- What a client does once its program has nothing to compute. -/
def settle (window : W) (event : Event) :
    Program Request Reply Output W → Activity W Event Request Reply Output
  | .done result => .idle result
  | .throws => .halted
  | .tell _ rest => settle window event rest
  | .ask request again next => .running window event (.ask request again next)

namespace State

variable [DecidableEq ι]

def put (state : State ι σ W Event Request Reply Output) (store : σ) (client : ι)
    (value : Client σ W Event Request Reply Output) :
    State ι σ W Event Request Reply Output where
  store := store
  clients := Function.update state.clients client value

/-- A client without a reply waits for ever. -/
def step (machine : Machine σ W Event Request Reply Output Chance)
    (state : State ι σ W Event Request Reply Output) :
    Move ι Event Chance → Option (State ι σ W Event Request Reply Output)
  | .start client event =>
      match (state.clients client).activity with
      | .idle window =>
          (machine.handler window event).map fun program =>
            state.put state.store client ⟨settle window event program, []⟩
      | _ => none
  | .exchange client chance =>
      match (state.clients client).activity with
      | .running window event (.ask request again next) =>
          match machine.serve chance state.store request with
          | (none, after) =>
              some (state.put after client ⟨.halted, (state.clients client).trace⟩)
          | (some reply, after) =>
              let program := if again reply then .ask request again next else next reply
              some (state.put after client ⟨settle window event program,
                (state.clients client).trace ++ [⟨state.store, request, reply, after⟩]⟩)
      | _ => none

def passes (test : Test ι σ W Event Request Reply)
    (state after : State ι σ W Event Request Reply Output) : Move ι Event Chance → Bool
  | .start _ _ => true
  | .exchange client _ =>
      match (state.clients client).activity, (after.clients client).trace.getLast? with
      | .running window event _, some exchange =>
          test client window event (state.clients client).trace exchange
      | _, _ => true

def run (machine : Machine σ W Event Request Reply Output Chance)
    (test : Test ι σ W Event Request Reply)
    (state : State ι σ W Event Request Reply Output) (moves : List (Move ι Event Chance)) :
    Option (State ι σ W Event Request Reply Output) :=
  Interaction.run (State.step machine) (passes test) state moves

theorem forall_put {state : State ι σ W Event Request Reply Output} {store : σ}
    {client : ι} {value : Client σ W Event Request Reply Output}
    {holds : ι → Client σ W Event Request Reply Output → Prop}
    (others : ∀ other, holds other (state.clients other)) (own : holds client value)
    (other : ι) : holds other ((state.put store client value).clients other) := by
  by_cases same : other = client
  · subst same
    simpa [State.put] using own
  · simpa [State.put, same] using others other

end State

section Steps

variable [DecidableEq ι] {machine : Machine σ W Event Request Reply Output Chance}

inductive Stepped (machine : Machine σ W Event Request Reply Output Chance)
    (state : State ι σ W Event Request Reply Output) :
    Move ι Event Chance → State ι σ W Event Request Reply Output → Prop
  | start {client : ι} {event : Event} {window : W}
      {program : Program Request Reply Output W}
      (idle : (state.clients client).activity = .idle window)
      (handled : machine.handler window event = some program) :
      Stepped machine state (.start client event)
        (state.put state.store client ⟨settle window event program, []⟩)
  | unanswered {client : ι} {chance : Chance} {event : Event} {window : W}
      {request : Request} {again : Reply → Bool}
      {next : Reply → Program Request Reply Output W} {store : σ}
      (running : (state.clients client).activity =
        .running window event (.ask request again next))
      (served : machine.serve chance state.store request = (none, store)) :
      Stepped machine state (.exchange client chance)
        (state.put store client ⟨.halted, (state.clients client).trace⟩)
  | answered {client : ι} {chance : Chance} {event : Event} {window : W}
      {request : Request} {again : Reply → Bool}
      {next : Reply → Program Request Reply Output W} {reply : Reply} {store : σ}
      (running : (state.clients client).activity =
        .running window event (.ask request again next))
      (served : machine.serve chance state.store request = (some reply, store)) :
      Stepped machine state (.exchange client chance)
        (state.put store client
          ⟨settle window event
            (if again reply then .ask request again next else next reply),
            (state.clients client).trace ++ [⟨state.store, request, reply, store⟩]⟩)

theorem State.stepped {state after : State ι σ W Event Request Reply Output}
    {move : Move ι Event Chance} (step : state.step machine move = some after) :
    Stepped machine state move after := by
  cases move with
  | start client event =>
      cases activity : (state.clients client).activity with
      | idle window =>
          simp only [State.step, activity, Option.map_eq_some_iff] at step
          obtain ⟨program, handled, rfl⟩ := step
          exact .start activity handled
      | running window event program => simp [State.step, activity] at step
      | halted => simp [State.step, activity] at step
  | exchange client chance =>
      cases activity : (state.clients client).activity with
      | idle window => simp [State.step, activity] at step
      | halted => simp [State.step, activity] at step
      | running window event program =>
          cases program with
          | done result => simp [State.step, activity] at step
          | throws => simp [State.step, activity] at step
          | tell output rest => simp [State.step, activity] at step
          | ask request again next =>
              simp only [State.step, activity] at step
              rcases served : machine.serve chance state.store request with
                ⟨_ | reply, store⟩
              · simp only [served, Option.some.injEq] at step
                subst step
                exact .unanswered activity served
              · simp only [served, Option.some.injEq] at step
                subst step
                exact .answered activity served

end Steps

def Meets (machine : Machine σ W Event Request Reply Output Chance)
    (condition : Condition ι σ W Event Request Reply)
    (state : State ι σ W Event Request Reply Output) : Move ι Event Chance → Prop
  | .start _ _ => True
  | .exchange client chance =>
      ∀ window event request again next reply after,
        (state.clients client).activity =
            .running window event (.ask request again next) →
          machine.serve chance state.store request = (some reply, after) →
            condition client window event (state.clients client).trace
              ⟨state.store, request, reply, after⟩

/-- The states of the runs whose exchanges all meet the condition. -/
abbrev Reaches [DecidableEq ι] (machine : Machine σ W Event Request Reply Output Chance)
    (condition : Condition ι σ W Event Request Reply)
    (start : State ι σ W Event Request Reply Output) :
    State ι σ W Event Request Reply Output → Prop :=
  Reached (State.step machine) (Meets machine condition) start

theorem meets_of_passes [DecidableEq ι]
    {machine : Machine σ W Event Request Reply Output Chance}
    {condition : Condition ι σ W Event Request Reply}
    {test : Test ι σ W Event Request Reply}
    (implies : ∀ client window event trace exchange,
      test client window event trace exchange = true →
        condition client window event trace exchange)
    {state after : State ι σ W Event Request Reply Output} {move : Move ι Event Chance}
    (stepped : state.step machine move = some after)
    (passes : state.passes test after move = true) : Meets machine condition state move := by
  cases move with
  | start client event => exact trivial
  | exchange client chance =>
      intro window event request again next reply store running served
      apply implies
      simp only [State.step, running, served, Option.some.injEq] at stepped
      subst stepped
      simpa [State.passes, running, State.put] using passes

theorem Reaches.of_run [DecidableEq ι]
    {machine : Machine σ W Event Request Reply Output Chance}
    {condition : Condition ι σ W Event Request Reply}
    {test : Test ι σ W Event Request Reply}
    (implies : ∀ client window event trace exchange,
      test client window event trace exchange = true →
        condition client window event trace exchange)
    {start state final : State ι σ W Event Request Reply Output}
    (reached : Reaches machine condition start state) {moves : List (Move ι Event Chance)}
    (ran : state.run machine test moves = some final) :
    Reaches machine condition start final :=
  Reached.of_run (meets_of_passes implies) reached ran

/-! What a run keeps, from what holds of each handler and of each exchange. -/

/-- Exchanges of one client, with other clients' requests served in between. -/
structure Chained (answers : Exchange σ Request Reply → Prop) (grows : σ → σ → Prop)
    (trace : List (Exchange σ Request Reply)) : Prop where
  answered : ∀ exchange ∈ trace, answers exchange
  ordered : trace.Pairwise fun first second => grows first.after second.before

/-- The service: what its replies mean, and how its state moves on. -/
structure Lawful (machine : Machine σ W Event Request Reply Output Chance)
    (answers : Exchange σ Request Reply → Prop) (grows : σ → σ → Prop) : Prop where
  refl : ∀ store, grows store store
  trans : ∀ {first second third}, grows first second → grows second third →
    grows first third
  answered : ∀ {chance store request reply after},
    machine.serve chance store request = (some reply, after) →
      answers ⟨store, request, reply, after⟩
  grown : ∀ {chance store request reply after},
    machine.serve chance store request = (reply, after) → grows store after

def Meeting (condition : Condition ι σ W Event Request Reply) (client : ι)
    (window : W) (event : Event) (trace : List (Exchange σ Request Reply)) : Prop :=
  ∀ before exchange rest, trace = before ++ exchange :: rest →
    condition client window event before exchange

/-- The handlers: what they send, what they make of a window, and what stays true
of the windows of a client. -/
structure Verified (machine : Machine σ W Event Request Reply Output Chance)
    (answers : Exchange σ Request Reply → Prop) (grows : σ → σ → Prop)
    (condition : Condition ι σ W Event Request Reply)
    (sends : W → Event → List (Exchange σ Request Reply) → Request → Prop)
    (post : W → Event → W → List (Exchange σ Request Reply) → Prop)
    (invariant : ι → W → σ → Prop) : Prop where
  safe : ∀ {window event program}, machine.handler window event = some program →
    Safe (Chained answers grows) (sends window event) (post window event) program []
  stable : ∀ {client window store after}, grows store after →
    invariant client window store → invariant client window after
  preserved : ∀ {client window event store result trace},
    invariant client window store → Chained answers grows trace →
      Meeting condition client window event trace →
        (∀ exchange ∈ trace, grows exchange.after store) →
          post window event result trace → invariant client result store

section Holds

variable (answers : Exchange σ Request Reply → Prop) (grows : σ → σ → Prop)
  (condition : Condition ι σ W Event Request Reply)
  (sends : W → Event → List (Exchange σ Request Reply) → Request → Prop)
  (post : W → Event → W → List (Exchange σ Request Reply) → Prop)
  (invariant : ι → W → σ → Prop)

/-- A handler run that has got as far as its trace. -/
structure Underway (store : σ) (client : ι) (window : W) (event : Event)
    (program : Program Request Reply Output W)
    (trace : List (Exchange σ Request Reply)) : Prop where
  held : invariant client window store
  safe : Safe (Chained answers grows) (sends window event) (post window event) program
    trace
  chained : Chained answers grows trace
  meeting : Meeting condition client window event trace
  past : ∀ exchange ∈ trace, grows exchange.after store

def Holds (store : σ) (client : ι)
    (value : Client σ W Event Request Reply Output) : Prop :=
  match value.activity with
  | .idle window => invariant client window store
  | .running window event program =>
      Underway answers grows condition sends post invariant store client window event
        program value.trace
  | .halted => True

end Holds

section Induction

variable {machine : Machine σ W Event Request Reply Output Chance}
  {answers : Exchange σ Request Reply → Prop} {grows : σ → σ → Prop}
  {condition : Condition ι σ W Event Request Reply}
  {sends : W → Event → List (Exchange σ Request Reply) → Request → Prop}
  {post : W → Event → W → List (Exchange σ Request Reply) → Prop}
  {invariant : ι → W → σ → Prop}

theorem Chained.nil : Chained answers grows [] :=
  ⟨fun _ member => absurd member List.not_mem_nil, List.Pairwise.nil⟩

theorem Chained.append {trace : List (Exchange σ Request Reply)}
    {exchange : Exchange σ Request Reply} (chained : Chained answers grows trace)
    (answered : answers exchange)
    (past : ∀ earlier ∈ trace, grows earlier.after exchange.before) :
    Chained answers grows (trace ++ [exchange]) := by
  refine ⟨?_, ?_⟩
  · intro other member
    rcases List.mem_append.mp member with member | member
    · exact chained.answered other member
    · rw [List.mem_singleton.mp member]
      exact answered
  · rw [List.pairwise_append]
    refine ⟨chained.ordered, List.pairwise_singleton _ _, ?_⟩
    intro earlier member later same
    rw [List.mem_singleton.mp same]
    exact past earlier member

theorem Chained.mono {slower : σ → σ → Prop} {trace : List (Exchange σ Request Reply)}
    (implies : ∀ {first second}, grows first second → slower first second)
    (chained : Chained answers grows trace) : Chained answers slower trace :=
  ⟨chained.answered, chained.ordered.imp implies⟩

theorem Meeting.append {client : ι} {window : W} {event : Event}
    {trace : List (Exchange σ Request Reply)} {exchange : Exchange σ Request Reply}
    (meeting : Meeting condition client window event trace)
    (met : condition client window event trace exchange) :
    Meeting condition client window event (trace ++ [exchange]) := by
  intro before other rest split
  rcases List.eq_nil_or_concat rest with rfl | ⟨rest, last, rfl⟩
  · obtain ⟨rfl, same⟩ := List.append_inj' split rfl
    cases same
    exact met
  · rw [List.concat_eq_append, ← List.cons_append, ← List.append_assoc] at split
    obtain ⟨shorter, -⟩ := List.append_inj' split rfl
    exact meeting before other rest shorter

theorem Underway.settle
    (verified : Verified machine answers grows condition sends post invariant)
    {store : σ} {client : ι} {window : W} {event : Event}
    {program : Program Request Reply Output W}
    {trace : List (Exchange σ Request Reply)}
    (underway : Underway answers grows condition sends post invariant store client
      window event program trace) :
    Holds answers grows condition sends post invariant store client
      ⟨settle window event program, trace⟩ := by
  induction program with
  | done result =>
      cases underway.safe with
      | done holds =>
          exact verified.preserved underway.held underway.chained underway.meeting
            underway.past holds
  | throws => exact trivial
  | tell output rest induction =>
      cases underway.safe with
      | tell safe =>
          exact induction ⟨underway.held, safe, underway.chained, underway.meeting,
            underway.past⟩
  | ask request again next => exact underway

theorem Holds.grow
    (verified : Verified machine answers grows condition sends post invariant)
    (lawful : Lawful machine answers grows) {store after : σ} {client : ι}
    {value : Client σ W Event Request Reply Output} (grown : grows store after)
    (holds : Holds answers grows condition sends post invariant store client value) :
    Holds answers grows condition sends post invariant after client value := by
  obtain ⟨activity, trace⟩ := value
  cases activity with
  | idle window => exact verified.stable grown holds
  | halted => exact trivial
  | running window event program =>
      obtain ⟨held, safe, chained, meeting, past⟩ := holds
      refine ⟨verified.stable grown held, safe, chained, meeting, ?_⟩
      intro exchange member
      exact lawful.trans (past exchange member) grown

theorem Underway.exchange
    (lawful : Lawful machine answers grows)
    (verified : Verified machine answers grows condition sends post invariant)
    {store after : σ} {client : ι} {window : W} {event : Event} {request : Request}
    {again : Reply → Bool} {next : Reply → Program Request Reply Output W}
    {trace : List (Exchange σ Request Reply)} {reply : Reply} {chance : Chance}
    (underway : Underway answers grows condition sends post invariant store client
      window event (.ask request again next) trace)
    (served : machine.serve chance store request = (some reply, after))
    (met : condition client window event trace ⟨store, request, reply, after⟩) :
    Underway answers grows condition sends post invariant after client window event
      (if again reply then .ask request again next else next reply)
      (trace ++ [⟨store, request, reply, after⟩]) := by
  obtain ⟨held, safe, chained, meeting, past⟩ := underway
  have chainedAfter := chained.append (lawful.answered served) past
  refine ⟨verified.stable (lawful.grown served) held, ?_, chainedAfter,
    meeting.append met, ?_⟩
  · cases repeats : again reply with
    | true => exact Safe.again rfl safe _ rfl repeats
    | false =>
        cases safe with
        | ask allowed resumed =>
            have none : ∀ round ∈ ([] : List (Exchange σ Request Reply)),
                round.request = request ∧ again round.reply = true :=
              fun _ member => absurd member List.not_mem_nil
            have rest := resumed [] ⟨store, request, reply, after⟩ none rfl repeats
            rw [List.append_nil] at rest
            exact rest chainedAfter
  · intro other member
    rcases List.mem_append.mp member with member | member
    · exact lawful.trans (past other member) (lawful.grown served)
    · rw [List.mem_singleton.mp member]
      exact lawful.refl after

theorem Underway.sending {store : σ} {client : ι} {window : W} {event : Event}
    {request : Request} {again : Reply → Bool}
    {next : Reply → Program Request Reply Output W}
    {trace : List (Exchange σ Request Reply)}
    (underway : Underway answers grows condition sends post invariant store client
      window event (.ask request again next) trace) :
    sends window event trace request := by
  cases underway.safe with
  | ask allowed resumed =>
      have sent := allowed [] fun _ member => absurd member List.not_mem_nil
      rwa [List.append_nil] at sent

variable [DecidableEq ι]

theorem Holds.step (lawful : Lawful machine answers grows)
    (verified : Verified machine answers grows condition sends post invariant)
    {state after : State ι σ W Event Request Reply Output} {move : Move ι Event Chance}
    (holds : ∀ client, Holds answers grows condition sends post invariant state.store
      client (state.clients client))
    (meets : Meets machine condition state move)
    (stepped : state.step machine move = some after) (client : ι) :
    Holds answers grows condition sends post invariant after.store client
      (after.clients client) := by
  cases State.stepped stepped with
  | @start mover event window program idle handled =>
      apply State.forall_put holds
      apply Underway.settle verified
      have held := holds mover
      simp only [Holds, idle] at held
      exact ⟨held, verified.safe handled, Chained.nil,
        fun before exchange rest split => by simp at split,
        fun _ member => absurd member List.not_mem_nil⟩
  | unanswered running served =>
      apply State.forall_put
      · intro other
        exact (holds other).grow verified lawful (lawful.grown served)
      · exact trivial
  | @answered mover chance event window request again next reply store running served =>
      apply State.forall_put
      · intro other
        exact (holds other).grow verified lawful (lawful.grown served)
      · apply Underway.settle verified
        have underway := holds mover
        simp only [Holds, running] at underway
        exact underway.exchange lawful verified served
          (meets window event request again next reply store running served)

theorem Reaches.holds (lawful : Lawful machine answers grows)
    (verified : Verified machine answers grows condition sends post invariant)
    {start state : State ι σ W Event Request Reply Output}
    (initial : ∀ client, Holds answers grows condition sends post invariant start.store
      client (start.clients client))
    (reached : Reaches machine condition start state) :
    ∀ client, Holds answers grows condition sends post invariant state.store client
      (state.clients client) := by
  apply reached.invariant initial
  intro state after move holds meets stepped client
  exact Holds.step lawful verified holds meets stepped client

theorem Reaches.underway (lawful : Lawful machine answers grows)
    (verified : Verified machine answers grows condition sends post invariant)
    {start state : State ι σ W Event Request Reply Output}
    (initial : ∀ client, Holds answers grows condition sends post invariant start.store
      client (start.clients client))
    (reached : Reaches machine condition start state) {client : ι} {window : W}
    {event : Event} {program : Program Request Reply Output W}
    (running : (state.clients client).activity = .running window event program) :
    Underway answers grows condition sends post invariant state.store client window event
      program (state.clients client).trace := by
  have holds := reached.holds lawful verified initial client
  simp only [Holds, running] at holds
  exact holds

theorem Reaches.keeps (lawful : Lawful machine answers grows)
    (verified : Verified machine answers grows condition sends post invariant)
    {start state : State ι σ W Event Request Reply Output}
    (initial : ∀ client, Holds answers grows condition sends post invariant start.store
      client (start.clients client)) {kept : σ → Prop} (first : kept start.store)
    (exchanged : ∀ {client window event request again}
      {next : Reply → Program Request Reply Output W} {trace chance store reply after},
      Underway answers grows condition sends post invariant store client window event
          (.ask request again next) trace →
        machine.serve chance store request = (reply, after) → kept store → kept after)
    (reached : Reaches machine condition start state) : kept state.store := by
  induction reached with
  | start => exact first
  | step reached meets stepped induction =>
      cases State.stepped stepped with
      | start idle handled => exact induction
      | unanswered running served =>
          exact exchanged (Reaches.underway lawful verified initial reached running) served
            induction
      | answered running served =>
          exact exchanged (Reaches.underway lawful verified initial reached running) served
            induction

/-- The exchanges of a client, on states of the service that the present one follows. -/
def Recorded (answers : Exchange σ Request Reply → Prop) (grows : σ → σ → Prop) (store : σ)
    (client : Client σ W Event Request Reply Output) : Prop :=
  ∀ exchange ∈ client.trace, answers exchange ∧ grows exchange.after store

theorem Recorded.grow {store after : σ} {client : Client σ W Event Request Reply Output}
    (lawful : Lawful machine answers grows) (grown : grows store after)
    (recorded : Recorded answers grows store client) : Recorded answers grows after client :=
  fun exchange member =>
    ⟨(recorded exchange member).1, lawful.trans (recorded exchange member).2 grown⟩

theorem Reaches.recorded (lawful : Lawful machine answers grows)
    {start state : State ι σ W Event Request Reply Output}
    (unused : ∀ client, (start.clients client).trace = [])
    (reached : Reaches machine condition start state) :
    ∀ client, Recorded answers grows state.store (state.clients client) := by
  apply reached.invariant
  · intro client exchange member
    rw [unused] at member
    contradiction
  · intro state after move before allows stepped
    cases State.stepped stepped with
    | start idle handled =>
        exact State.forall_put before fun _ member => absurd member List.not_mem_nil
    | @unanswered client _ _ _ _ _ _ _ running served =>
        have grown := lawful.grown served
        exact State.forall_put (fun other => (before other).grow lawful grown)
          ((before client).grow lawful grown)
    | @answered client _ _ _ _ _ _ _ _ running served =>
        have grown := lawful.grown served
        refine State.forall_put (fun other => (before other).grow lawful grown) ?_
        intro exchange member
        rcases List.mem_append.mp member with earlier | last
        · exact (before client).grow lawful grown exchange earlier
        · rw [List.mem_singleton.mp last]
          exact ⟨lawful.answered served, lawful.refl _⟩

end Induction

end BpkMessenger.Interaction
