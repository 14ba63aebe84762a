import BpkMessenger.Interaction.System

namespace BpkMessenger.Interaction

/-! How handlers end, with a result or by an exception, and what holds then. -/

namespace Program

variable {Request Reply Output α β : Type}

/-- A `try` around the program: its exception becomes a result. -/
def caught : Program Request Reply Output α → Program Request Reply Output (Option α)
  | .done result => .done (some result)
  | .throws => .done none
  | .tell output rest => .tell output rest.caught
  | .ask request again next => .ask request again fun reply => (next reply).caught

/-- What a program with nothing to ask comes to; `none` is its exception. -/
def outcome : Program Request Reply Output α → Option (Option α)
  | .done result => some (some result)
  | .throws => some none
  | .tell _ rest => rest.outcome
  | .ask _ _ _ => none

theorem caught_bind (program : Program Request Reply Output α)
    (next : α → Program Request Reply Output β) :
    (program >>= next).caught =
      program.caught >>= fun result => result.elim (.done none) fun value =>
        (next value).caught := by
  change (program.bind next).caught = program.caught.bind _
  induction program with
  | done result => rfl
  | throws => rfl
  | tell output rest induction => simp only [bind, caught, induction]
  | ask request again resume induction => simp only [bind, caught, induction]

/-- The requests that a program can come to. -/
inductive Requests : Program Request Reply Output α → Request → Prop
  | ask {request : Request} {again : Reply → Bool}
      {next : Reply → Program Request Reply Output α} :
      Requests (.ask request again next) request
  | next {request other : Request} {again : Reply → Bool} {reply : Reply}
      {next : Reply → Program Request Reply Output α}
      (later : Requests (next reply) other) : Requests (.ask request again next) other
  | tell {output : Output} {rest : Program Request Reply Output α} {other : Request}
      (later : Requests rest other) : Requests (.tell output rest) other

theorem Requests.of_bind {program : Program Request Reply Output α}
    {next : α → Program Request Reply Output β} {request : Request}
    (requests : Requests (program >>= next) request) :
    Requests program request ∨ ∃ result, Requests (next result) request := by
  change Requests (program.bind next) request at requests
  induction program with
  | done result => exact .inr ⟨result, requests⟩
  | throws => cases requests
  | tell output rest induction =>
      cases requests with
      | tell later => exact (induction later).imp_left .tell
  | ask first again resume induction =>
      cases requests with
      | ask => exact .inl .ask
      | @next _ _ _ reply _ later => exact (induction reply later).imp_left .next

theorem Requests.of_send {asked request : Request}
    (requests : Requests (send asked : Program Request Reply Output Reply) request) :
    request = asked := by
  cases requests with
  | ask => rfl
  | next later => cases later

theorem Requests.of_lift {result : Except ε α} {request : Request}
    (requests : Requests (lift result : Program Request Reply Output α) request) : False := by
  cases result <;> cases requests

theorem Requests.of_foldlM {γ : Type} {step : α → γ → Program Request Reply Output α}
    {elements : List γ} {start : α} {request : Request}
    (requests : Requests (elements.foldlM step start) request) :
    ∃ value element, Requests (step value element) request := by
  induction elements generalizing start with
  | nil => cases requests
  | cons element rest induction =>
      rw [List.foldlM_cons] at requests
      rcases requests.of_bind with here | ⟨value, later⟩
      · exact ⟨start, element, here⟩
      · exact induction later

end Program

section Ends

variable {σ Request Reply Output α β : Type}
  {valid : List (Exchange σ Request Reply) → Prop}
  {stops : List (Exchange σ Request Reply) → Prop}
  {post middle : α → List (Exchange σ Request Reply) → Prop}
  {last : β → List (Exchange σ Request Reply) → Prop}
  {trace : List (Exchange σ Request Reply)}

/-- Whatever valid exchanges follow the trace, the program's result meets `post`, and
its exception `stops`. -/
def Ends (valid stops : List (Exchange σ Request Reply) → Prop)
    (post : α → List (Exchange σ Request Reply) → Prop)
    (program : Program Request Reply Output α)
    (trace : List (Exchange σ Request Reply)) : Prop :=
  Safe valid (fun _ _ => True)
    (fun result final => result.elim (stops final) fun value => post value final)
    program.caught trace

namespace Ends

theorem done {result : α} (holds : post result trace) :
    Ends valid stops post (.done result : Program Request Reply Output α) trace :=
  Safe.done holds

theorem throws (stopped : stops trace) :
    Ends valid stops post (.throws : Program Request Reply Output α) trace :=
  Safe.done stopped

theorem mono {program : Program Request Reply Output α}
    {halts : List (Exchange σ Request Reply) → Prop}
    (ends : Ends valid halts middle program trace)
    (stopped : ∀ final, halts final → stops final)
    (implies : ∀ result final, middle result final → post result final) :
    Ends valid stops post program trace := by
  apply Safe.weaken ends
  intro result final holds
  cases result with
  | none => exact stopped final holds
  | some result => exact implies result final holds

/-- Whatever a program comes to, its trace has become longer by its own requests. -/
theorem extends_trace (program : Program Request Reply Output α) (kept : valid trace) :
    Ends valid
      (fun final => valid final ∧ ∃ rest, final = trace ++ rest ∧
        ∀ exchange ∈ rest, program.Requests exchange.request)
      (fun _ final => valid final ∧ ∃ rest, final = trace ++ rest ∧
        ∀ exchange ∈ rest, program.Requests exchange.request) program trace := by
  have start : valid trace ∧ ∃ rest : List (Exchange σ Request Reply),
      trace = trace ++ rest ∧ ∀ exchange ∈ rest, program.Requests exchange.request :=
    ⟨kept, [], (List.append_nil trace).symm, fun _ member => absurd member List.not_mem_nil⟩
  induction program generalizing trace with
  | done result => exact Ends.done start
  | throws => exact Ends.throws start
  | tell output rest induction =>
      apply Safe.tell
      apply Ends.mono (induction kept ⟨kept, [], (List.append_nil trace).symm, by simp⟩)
      · intro final prior
        obtain ⟨valid, longer, rfl, own⟩ := prior
        exact ⟨valid, longer, rfl, fun exchange member => .tell (own exchange member)⟩
      · intro result final prior
        obtain ⟨valid, longer, rfl, own⟩ := prior
        exact ⟨valid, longer, rfl, fun exchange member => .tell (own exchange member)⟩
  | ask request again next induction =>
      apply Safe.ask (fun _ _ => trivial)
      intro rounds exchange repeated same leaves keptAfter
      have extended : ∀ final,
          (valid final ∧ ∃ rest, final = trace ++ rounds ++ [exchange] ++ rest ∧
            ∀ other ∈ rest, (next exchange.reply).Requests other.request) →
            valid final ∧ ∃ rest, final = trace ++ rest ∧
              ∀ other ∈ rest, (Program.ask request again next).Requests other.request := by
        intro final prior
        obtain ⟨valid, rest, rfl, own⟩ := prior
        refine ⟨valid, rounds ++ [exchange] ++ rest, by simp, fun other member => ?_⟩
        simp only [List.mem_append, List.mem_singleton] at member
        rcases member with (member | rfl) | member
        · rw [(repeated other member).1]
          exact .ask
        · rw [same]
          exact .ask
        · exact .next (own other member)
      have ended := induction exchange.reply keptAfter ⟨keptAfter, [], by simp, by simp⟩
      apply Ends.mono ended extended
      intro result final
      exact extended final

theorem bind {program : Program Request Reply Output α}
    {next : α → Program Request Reply Output β}
    (ends : Ends valid stops middle program trace) (kept : valid trace)
    (continues : ∀ result final, trace <+: final → valid final →
      middle result final → Ends valid stops last (next result) final) :
    Ends valid stops last (program >>= next) trace := by
  unfold Ends
  rw [Program.caught_bind]
  apply Safe.bind ends kept
  intro result final longer keptFinal holds
  cases result with
  | none => exact Safe.done holds
  | some result => exact continues result final longer keptFinal holds

theorem bind_send {request : Request} {next : Reply → Program Request Reply Output β}
    (continues : ∀ exchange : Exchange σ Request Reply, exchange.request = request →
      valid (trace ++ [exchange]) →
        Ends valid stops last (next exchange.reply) (trace ++ [exchange])) :
    Ends valid stops last (Program.send request >>= next) trace :=
  @Safe.bind_send _ _ _ _ _ _ _ _ request (fun reply => (next reply).caught) trace trivial
    continues

theorem bind_sendUntil {request : Request} {accepted : Reply → Bool}
    {next : Reply → Program Request Reply Output β}
    (continues : ∀ (longer : List (Exchange σ Request Reply)) exchange,
      trace <+: longer → exchange.request = request →
        accepted exchange.reply = true → valid (longer ++ [exchange]) →
          Ends valid stops last (next exchange.reply) (longer ++ [exchange])) :
    Ends valid stops last (Program.sendUntil request accepted >>= next) trace :=
  @Safe.bind_sendUntil _ _ _ _ _ _ _ _ request accepted (fun reply => (next reply).caught)
    trace (fun _ _ => trivial) continues

theorem bind_report {output : Output} {next : Unit → Program Request Reply Output β}
    (continues : Ends valid stops last (next ()) trace) :
    Ends valid stops last (Program.report output >>= next) trace :=
  Safe.tell continues

theorem bind_lift {result : Except ε α} {next : α → Program Request Reply Output β}
    (fails : ∀ exception, result = .error exception → stops trace)
    (continues : ∀ value, result = .ok value → Ends valid stops last (next value) trace) :
    Ends valid stops last (Program.lift result >>= next) trace := by
  cases result with
  | error exception => exact Ends.throws (fails exception rfl)
  | ok value => exact continues value rfl

theorem foldlM {γ : Type} {step : β → γ → Program Request Reply Output β}
    (invariant : List γ → β → List (Exchange σ Request Reply) → Prop)
    {elements : List γ} {start : β} (kept : valid trace)
    (initial : invariant [] start trace)
    (steps : ∀ before element rest, elements = before ++ element :: rest →
      ∀ value current, trace <+: current → valid current →
        invariant before value current →
          Ends valid stops (invariant (before ++ [element])) (step value element) current) :
    Ends valid stops (invariant elements) (elements.foldlM step start) trace :=
  foldlM_of_bind valid (Ends valid stops) Ends.done Ends.bind invariant kept initial steps

/-- Where nothing is asked of the ends. -/
theorem unasked (program : Program Request Reply Output α) (kept : valid trace) :
    Ends valid (fun _ => True) (fun _ _ => True) program trace :=
  Ends.mono (Ends.extends_trace program kept) (fun _ _ => trivial) fun _ _ _ => trivial

/-- What is safe whatever traces are valid, ends as well when fewer are. -/
theorem of_safe {strict : List (Exchange σ Request Reply) → Prop}
    {sends : List (Exchange σ Request Reply) → Request → Prop}
    {program : Program Request Reply Output α}
    (weaker : ∀ final, strict final → valid final)
    (safe : Safe valid sends post program trace) :
    Ends strict (fun _ => True) post program trace := by
  induction safe with
  | done holds => exact Ends.done holds
  | throws => exact Ends.throws trivial
  | tell safe induction => exact Safe.tell induction
  | ask allowed resumed induction =>
      apply Safe.ask (fun _ _ => trivial)
      intro rounds exchange repeated same leaves kept
      exact induction rounds exchange repeated same leaves (weaker _ kept)

theorem outcome {program : Program Request Reply Output α} {result : Option α}
    (ends : Ends valid stops post program trace) (ended : program.outcome = some result) :
    result.elim (stops trace) fun value => post value trace := by
  induction program with
  | done value =>
      cases ended
      cases ends with
      | done holds => exact holds
  | throws =>
      cases ended
      cases ends with
      | done holds => exact holds
  | tell output rest induction =>
      cases ends with
      | tell safe => exact induction safe ended
  | ask request again next => contradiction

end Ends

end Ends

section Advances

variable {ι σ W Event Request Reply Output Chance : Type}

/-- The program that a move gives a client to go on with: that of the handler it
starts, or what is left of it after a reply. -/
inductive Advances (machine : Machine σ W Event Request Reply Output Chance)
    (state : State ι σ W Event Request Reply Output) :
    Move ι Event Chance → ι → W → Event → Program Request Reply Output W →
      List (Exchange σ Request Reply) → σ → Prop
  | started {client : ι} {window : W} {event : Event}
      {program : Program Request Reply Output W}
      (idle : (state.clients client).activity = .idle window)
      (handled : machine.handler window event = some program) :
      Advances machine state (.start client event) client window event program []
        state.store
  | answered {client : ι} {chance : Chance} {window : W} {event : Event}
      {request : Request} {again : Reply → Bool}
      {next : Reply → Program Request Reply Output W} {reply : Reply} {store : σ}
      (running : (state.clients client).activity =
        .running window event (.ask request again next))
      (served : machine.serve chance state.store request = (some reply, store)) :
      Advances machine state (.exchange client chance) client window event
        (if again reply then .ask request again next else next reply)
        ((state.clients client).trace ++ [⟨state.store, request, reply, store⟩]) store

theorem Advances.step [DecidableEq ι]
    {machine : Machine σ W Event Request Reply Output Chance}
    {state : State ι σ W Event Request Reply Output} {move : Move ι Event Chance}
    {client : ι} {window : W} {event : Event} {program : Program Request Reply Output W}
    {trace : List (Exchange σ Request Reply)} {store : σ}
    (advances : Advances machine state move client window event program trace store) :
    state.step machine move =
      some (state.put store client ⟨settle window event program, trace⟩) := by
  cases advances with
  | started idle handled => simp only [State.step, idle, handled, Option.map_some]
  | answered running served => simp only [State.step, running, served]

theorem outcome_of_settle {window : W} {event : Event}
    {program : Program Request Reply Output W} {result : W}
    (idle : settle window event program = .idle result) :
    program.outcome = some (some result) := by
  induction program with
  | done value =>
      cases idle
      rfl
  | throws => contradiction
  | tell output rest induction => exact induction idle
  | ask request again next => contradiction

/-- The exchange that a client goes on from. -/
theorem State.last_exchange [DecidableEq ι]
    {machine : Machine σ W Event Request Reply Output Chance}
    {state after : State ι σ W Event Request Reply Output} {client : ι} {chance : Chance}
    {window : W} {event : Event} {program : Program Request Reply Output W}
    (stepped : state.step machine (.exchange client chance) = some after)
    (running : (after.clients client).activity = .running window event program) :
    ∃ earlier exchange, (after.clients client).trace = earlier ++ [exchange] ∧
      exchange.before = state.store ∧ exchange.after = after.store ∧
        ∃ window event again next, (state.clients client).activity =
          .running window event (.ask exchange.request again next) := by
  cases State.stepped stepped with
  | unanswered waiting served => simp [State.put] at running
  | answered waiting served =>
      simp only [State.put, Function.update_self]
      exact ⟨_, _, rfl, rfl, rfl, _, _, _, _, waiting⟩

/-- The reply after which a client is idle again. -/
theorem Advances.of_step [DecidableEq ι]
    {machine : Machine σ W Event Request Reply Output Chance}
    {state after : State ι σ W Event Request Reply Output} {client : ι} {chance : Chance}
    {window result : W} {event : Event} {program : Program Request Reply Output W}
    (running : (state.clients client).activity = .running window event program)
    (stepped : state.step machine (.exchange client chance) = some after)
    (idle : (after.clients client).activity = .idle result) :
    ∃ rest, Advances machine state (.exchange client chance) client window event rest
        (after.clients client).trace after.store ∧
      rest.outcome = some (some result) := by
  cases State.stepped stepped with
  | unanswered waiting served => simp [State.put] at idle
  | answered waiting served =>
      rw [running] at waiting
      cases waiting
      simp only [State.put, Function.update_self] at idle
      refine ⟨_, ?_, outcome_of_settle idle⟩
      simp only [State.put, Function.update_self]
      exact .answered running served

end Advances

/-! What the invariants of a run say when a handler advances or ends. -/

section Advanced

variable {ι σ W Event Request Reply Output Chance α : Type}

theorem Safe.outcome {valid : List (Exchange σ Request Reply) → Prop}
    {sends : List (Exchange σ Request Reply) → Request → Prop}
    {post : α → List (Exchange σ Request Reply) → Prop}
    {program : Program Request Reply Output α} {trace : List (Exchange σ Request Reply)}
    {result : α} (safe : Safe valid sends post program trace)
    (ended : program.outcome = some (some result)) : post result trace := by
  induction program with
  | done value =>
      cases ended
      cases safe with
      | done holds => exact holds
  | throws => cases ended
  | tell output rest induction =>
      cases safe with
      | tell safe => exact induction safe ended
  | ask request again next => contradiction

variable {machine : Machine σ W Event Request Reply Output Chance}
  {answers : Exchange σ Request Reply → Prop} {grows : σ → σ → Prop}
  {condition : Condition ι σ W Event Request Reply}
  {sends : W → Event → List (Exchange σ Request Reply) → Request → Prop}
  {post : W → Event → W → List (Exchange σ Request Reply) → Prop}
  {invariant : ι → W → σ → Prop}
  {state : State ι σ W Event Request Reply Output} {move : Move ι Event Chance}
  {client : ι} {window : W} {event : Event} {program : Program Request Reply Output W}
  {trace : List (Exchange σ Request Reply)} {store : σ}

theorem Advances.underway (lawful : Lawful machine answers grows)
    (verified : Verified machine answers grows condition sends post invariant)
    (holds : ∀ client, Holds answers grows condition sends post invariant state.store client
      (state.clients client)) (meets : Meets machine condition state move)
    (advances : Advances machine state move client window event program trace store) :
    Underway answers grows condition sends post invariant store client window event program
      trace := by
  have own := holds client
  cases advances with
  | started idle handled =>
      simp only [Holds, idle] at own
      exact ⟨own, verified.safe handled, Chained.nil,
        fun before exchange rest split => by simp at split,
        fun _ member => absurd member List.not_mem_nil⟩
  | @answered _ chance window event request again next reply store running served =>
      simp only [Holds, running] at own
      exact own.exchange lawful verified served
        (meets window event request again next reply store running served)

/-- The invariant held of the window of a handler at each of its exchanges. -/
def Witnessed (invariant : ι → W → σ → Prop) (client : ι)
    (value : Client σ W Event Request Reply Output) : Prop :=
  match value.activity with
  | .running window _ _ => ∀ exchange ∈ value.trace, invariant client window exchange.before
  | _ => True

theorem Witnessed.settle
    (seen : ∀ exchange ∈ trace, invariant client window exchange.before) :
    Witnessed invariant client ⟨settle window event program, trace⟩ := by
  induction program with
  | done result => exact trivial
  | throws => exact trivial
  | tell output rest induction => exact induction
  | ask request again next => exact seen

theorem Advances.witnessed
    (holds : ∀ client, Holds answers grows condition sends post invariant state.store client
      (state.clients client))
    (seen : ∀ client, Witnessed invariant client (state.clients client))
    (advances : Advances machine state move client window event program trace store) :
    ∀ exchange ∈ trace, invariant client window exchange.before := by
  cases advances with
  | started idle handled => exact fun _ member => absurd member List.not_mem_nil
  | answered running served =>
      have own := holds client
      have before := seen client
      simp only [Holds, running] at own
      simp only [Witnessed, running] at before
      intro exchange member
      rcases List.mem_append.mp member with member | member
      · exact before exchange member
      · rw [List.mem_singleton.mp member]
        exact own.held

theorem Reaches.witnessed [DecidableEq ι] (lawful : Lawful machine answers grows)
    (verified : Verified machine answers grows condition sends post invariant)
    {start : State ι σ W Event Request Reply Output}
    (initial : ∀ client, Holds answers grows condition sends post invariant start.store
      client (start.clients client))
    (fresh : ∀ client, Witnessed invariant client (start.clients client))
    (reached : Reaches machine condition start state) :
    ∀ client, Witnessed invariant client (state.clients client) := by
  induction reached with
  | start => exact fresh
  | step reached meets stepped induction =>
      have holds := Reaches.holds lawful verified initial reached
      cases State.stepped stepped with
      | start idle handled =>
          apply State.forall_put induction
          exact Witnessed.settle (Advances.witnessed holds induction (.started idle handled))
      | unanswered running served =>
          apply State.forall_put induction
          exact trivial
      | answered running served =>
          apply State.forall_put induction
          exact Witnessed.settle (Advances.witnessed holds induction (.answered running served))

end Advanced

section Certified

variable {ι σ W Event Request Reply Output Chance : Type}
  (answers : Exchange σ Request Reply → Prop) (grows : σ → σ → Prop)
  (condition : Condition ι σ W Event Request Reply)
  (stops : W → Event → List (Exchange σ Request Reply) → Prop)
  (post : W → Event → W → List (Exchange σ Request Reply) → Prop)
  (invariant : W → Prop)

/-- The traces of a handler run that the service and the condition allow. -/
structure Admitted (client : ι) (window : W) (event : Event)
    (trace : List (Exchange σ Request Reply)) : Prop where
  chained : Chained answers grows trace
  meeting : Meeting condition client window event trace

/-- The handlers: how they end in a window that meets the invariant. -/
structure Certified (machine : Machine σ W Event Request Reply Output Chance) :
    Prop where
  ends : ∀ (client : ι) {window event program},
    machine.handler window event = some program → invariant window →
      Ends (Admitted answers grows condition client window event) (stops window event)
        (post window event) program []
  kept : ∀ {window event result trace}, post window event result trace → invariant result

/-- A handler run that will end as certified. -/
structure Ending (store : σ) (client : ι) (window : W) (event : Event)
    (program : Program Request Reply Output W)
    (trace : List (Exchange σ Request Reply)) : Prop where
  ends : Ends (Admitted answers grows condition client window event) (stops window event)
    (post window event) program trace
  admitted : Admitted answers grows condition client window event trace
  past : ∀ exchange ∈ trace, grows exchange.after store

def Endings (store : σ) (client : ι)
    (value : Client σ W Event Request Reply Output) : Prop :=
  match value.activity with
  | .idle window => invariant window
  | .running window event program =>
      Ending answers grows condition stops post store client window event program
        value.trace
  | .halted => True

end Certified

section Runs

variable {ι σ W Event Request Reply Output Chance : Type}
  {machine : Machine σ W Event Request Reply Output Chance}
  {answers : Exchange σ Request Reply → Prop} {grows : σ → σ → Prop}
  {condition : Condition ι σ W Event Request Reply}
  {stops : W → Event → List (Exchange σ Request Reply) → Prop}
  {post : W → Event → W → List (Exchange σ Request Reply) → Prop}
  {invariant : W → Prop}

theorem Admitted.nil {client : ι} {window : W} {event : Event} :
    Admitted answers grows condition client window event [] :=
  ⟨Chained.nil, fun before exchange rest split => by simp at split⟩

theorem Admitted.last {client : ι} {window : W} {event : Event}
    {trace : List (Exchange σ Request Reply)} {exchange : Exchange σ Request Reply}
    (admitted : Admitted answers grows condition client window event (trace ++ [exchange])) :
    answers exchange ∧ condition client window event trace exchange :=
  ⟨admitted.chained.answered exchange
    (List.mem_append_right trace (List.mem_singleton_self exchange)),
    admitted.meeting trace exchange [] rfl⟩

theorem Admitted.append {client : ι} {window : W} {event : Event}
    {trace : List (Exchange σ Request Reply)} {exchange : Exchange σ Request Reply}
    (admitted : Admitted answers grows condition client window event trace)
    (answered : answers exchange)
    (past : ∀ earlier ∈ trace, grows earlier.after exchange.before)
    (met : condition client window event trace exchange) :
    Admitted answers grows condition client window event (trace ++ [exchange]) :=
  ⟨admitted.chained.append answered past, admitted.meeting.append met⟩

theorem Ending.settle
    (certified : Certified answers grows condition stops post invariant machine)
    {store : σ} {client : ι} {window : W} {event : Event}
    {program : Program Request Reply Output W} {trace : List (Exchange σ Request Reply)}
    (ending : Ending answers grows condition stops post store client window event program
      trace) :
    Endings answers grows condition stops post invariant store client
      ⟨settle window event program, trace⟩ := by
  induction program with
  | done result => exact certified.kept (ending.ends.outcome rfl)
  | throws => exact trivial
  | tell output rest induction =>
      obtain ⟨ends, admitted, past⟩ := ending
      cases ends with
      | tell safe => exact induction ⟨safe, admitted, past⟩
  | ask request again next => exact ending

theorem Endings.grow (lawful : Lawful machine answers grows) {store after : σ} {client : ι}
    {value : Client σ W Event Request Reply Output} (grown : grows store after)
    (endings : Endings answers grows condition stops post invariant store client value) :
    Endings answers grows condition stops post invariant after client value := by
  obtain ⟨activity, trace⟩ := value
  cases activity with
  | running window event program =>
      obtain ⟨ends, admitted, past⟩ := endings
      exact ⟨ends, admitted, fun exchange member => lawful.trans (past exchange member) grown⟩
  | _ => exact endings

theorem Ends.again {valid halts : List (Exchange σ Request Reply) → Prop}
    {holds : α → List (Exchange σ Request Reply) → Prop} {request : Request}
    {repeats : Reply → Bool} {next : Reply → Program Request Reply Output α}
    {trace : List (Exchange σ Request Reply)} {exchange : Exchange σ Request Reply}
    (ends : Ends valid halts holds (.ask request repeats next) trace)
    (same : exchange.request = request) (kept : valid (trace ++ [exchange])) :
    Ends valid halts holds
      (if repeats exchange.reply then .ask request repeats next else next exchange.reply)
      (trace ++ [exchange]) := by
  cases repeated : repeats exchange.reply with
  | true => exact Safe.again rfl ends exchange same repeated
  | false =>
      cases ends with
      | ask allowed resumed =>
          have none : ∀ round ∈ ([] : List (Exchange σ Request Reply)),
              round.request = request ∧ repeats round.reply = true :=
            fun _ member => absurd member List.not_mem_nil
          have rest := resumed [] exchange none same repeated
          rw [List.append_nil] at rest
          exact rest kept

theorem Advances.ending (lawful : Lawful machine answers grows)
    (certified : Certified answers grows condition stops post invariant machine)
    {state : State ι σ W Event Request Reply Output} {move : Move ι Event Chance}
    {client : ι} {window : W} {event : Event} {program : Program Request Reply Output W}
    {trace : List (Exchange σ Request Reply)} {store : σ}
    (endings : ∀ client, Endings answers grows condition stops post invariant state.store
      client (state.clients client))
    (meets : Meets machine condition state move)
    (advances : Advances machine state move client window event program trace store) :
    Ending answers grows condition stops post store client window event program trace := by
  have own := endings client
  cases advances with
  | started idle handled =>
      simp only [Endings, idle] at own
      exact ⟨certified.ends client handled own, Admitted.nil,
        fun _ member => absurd member List.not_mem_nil⟩
  | @answered _ chance window event request again next reply store running served =>
      simp only [Endings, running] at own
      obtain ⟨ends, admitted, past⟩ := own
      have longer := admitted.append (lawful.answered served) past
        (meets window event request again next reply store running served)
      refine ⟨ends.again rfl longer, longer, ?_⟩
      intro other member
      rcases List.mem_append.mp member with member | member
      · exact lawful.trans (past other member) (lawful.grown served)
      · rw [List.mem_singleton.mp member]
        exact lawful.refl store

variable [DecidableEq ι]

theorem Endings.step (lawful : Lawful machine answers grows)
    (certified : Certified answers grows condition stops post invariant machine)
    {state after : State ι σ W Event Request Reply Output} {move : Move ι Event Chance}
    (endings : ∀ client, Endings answers grows condition stops post invariant state.store
      client (state.clients client))
    (meets : Meets machine condition state move)
    (stepped : state.step machine move = some after) (client : ι) :
    Endings answers grows condition stops post invariant after.store client
      (after.clients client) := by
  cases State.stepped stepped with
  | start idle handled =>
      apply State.forall_put endings
      exact (Advances.ending lawful certified endings meets
        (.started idle handled)).settle certified
  | unanswered running served =>
      apply State.forall_put (fun other => (endings other).grow lawful (lawful.grown served))
      exact trivial
  | answered running served =>
      apply State.forall_put (fun other => (endings other).grow lawful (lawful.grown served))
      exact (Advances.ending lawful certified endings meets
        (.answered running served)).settle certified

theorem Reaches.endings (lawful : Lawful machine answers grows)
    (certified : Certified answers grows condition stops post invariant machine)
    {start state : State ι σ W Event Request Reply Output}
    (initial : ∀ client, Endings answers grows condition stops post invariant start.store
      client (start.clients client))
    (reached : Reaches machine condition start state) :
    ∀ client, Endings answers grows condition stops post invariant state.store client
      (state.clients client) := by
  apply reached.invariant initial
  intro state after move holds meets stepped client
  exact Endings.step lawful certified holds meets stepped client

end Runs

end BpkMessenger.Interaction
