import BpkMessenger.Interaction.System

namespace BpkMessenger.Interaction

/-! What programs tell the outside at each reply, and what a whole run tells. -/

namespace Program

variable {Request Reply Output α β γ : Type}

/-- What a program tells before it asks again or ends. -/
def told : Program Request Reply Output α → List Output
  | .tell output rest => output :: rest.told
  | _ => []

@[simp] theorem told_pure (result : α) :
    (pure result : Program Request Reply Output α).told = [] := rfl

@[simp] theorem told_bind_send (request : Request)
    (next : Reply → Program Request Reply Output β) :
    (Program.send request >>= next).told = [] := rfl

@[simp] theorem told_bind_sendUntil (request : Request) (accepted : Reply → Bool)
    (next : Reply → Program Request Reply Output β) :
    (Program.sendUntil request accepted >>= next).told = [] := rfl

@[simp] theorem told_bind_report (output : Output)
    (next : Unit → Program Request Reply Output β) :
    (Program.report output >>= next).told = output :: (next ()).told := rfl

theorem told_bind {program : Program Request Reply Output α}
    {next : α → Program Request Reply Output β} (silent : ∀ result, (next result).told = []) :
    (program >>= next).told = program.told := by
  change (program.bind next).told = program.told
  induction program with
  | done result => exact silent result
  | throws => rfl
  | tell output rest induction => exact congrArg (output :: ·) induction
  | ask request again resume induction => rfl

theorem told_bind_lift {result : Except ε α} {next : α → Program Request Reply Output β}
    (silent : ∀ value, result = .ok value → (next value).told = []) :
    (Program.lift result >>= next).told = [] := by
  cases result with
  | error exception => rfl
  | ok value => exact silent value rfl

theorem mem_told_bind_lift {result : Except ε α} {next : α → Program Request Reply Output β}
    {output : Output} : output ∈ (Program.lift result >>= next).told ↔
      ∃ value, result = .ok value ∧ output ∈ (next value).told := by
  cases result with
  | error exception =>
      constructor
      · exact fun member => absurd member List.not_mem_nil
      · intro found
        obtain ⟨value, same, -⟩ := found
        contradiction
  | ok value =>
      constructor
      · exact fun member => ⟨value, rfl, member⟩
      · intro found
        obtain ⟨other, same, member⟩ := found
        cases same
        exact member

theorem told_foldlM {step : β → γ → Program Request Reply Output β} {elements : List γ}
    (silent : ∀ value element, (step value element).told = []) (start : β) :
    (elements.foldlM step start).told = [] := by
  induction elements generalizing start with
  | nil => rfl
  | cons element rest induction =>
      rw [List.foldlM_cons, told_bind induction]
      exact silent start element

end Program

section Reacts

variable {σ Request Reply Output α β γ : Type}
  {valid : List (Exchange σ Request Reply) → Prop}
  {tells : List (Exchange σ Request Reply) → List Output → Prop}

/-- After the exchanges of the trace, whatever valid exchanges follow, what the program tells
at each reply is what `tells` says for the exchanges so far. -/
inductive Reacts (valid : List (Exchange σ Request Reply) → Prop)
    (tells : List (Exchange σ Request Reply) → List Output → Prop) :
    Program Request Reply Output α → List (Exchange σ Request Reply) → Prop
  | done {result : α} {trace : List (Exchange σ Request Reply)} :
      Reacts valid tells (.done result) trace
  | throws {trace : List (Exchange σ Request Reply)} : Reacts valid tells .throws trace
  | tell {output : Output} {rest : Program Request Reply Output α}
      {trace : List (Exchange σ Request Reply)} (later : Reacts valid tells rest trace) :
      Reacts valid tells (.tell output rest) trace
  | ask {request : Request} {again : Reply → Bool}
      {next : Reply → Program Request Reply Output α}
      {trace : List (Exchange σ Request Reply)}
      (told : ∀ (rounds : List (Exchange σ Request Reply)) exchange,
        (∀ round ∈ rounds, round.request = request ∧ again round.reply = true) →
          exchange.request = request → valid (trace ++ rounds ++ [exchange]) →
            tells (trace ++ rounds ++ [exchange])
              (if again exchange.reply then [] else (next exchange.reply).told))
      (resumed : ∀ (rounds : List (Exchange σ Request Reply)) exchange,
        (∀ round ∈ rounds, round.request = request ∧ again round.reply = true) →
          exchange.request = request → again exchange.reply = false →
            valid (trace ++ rounds ++ [exchange]) →
              Reacts valid tells (next exchange.reply) (trace ++ rounds ++ [exchange])) :
      Reacts valid tells (.ask request again next) trace

namespace Reacts

theorem bind {program : Program Request Reply Output α}
    {next : α → Program Request Reply Output β} {trace : List (Exchange σ Request Reply)}
    (reacts : Reacts valid tells program trace) (kept : valid trace)
    (silent : ∀ result, (next result).told = [])
    (continues : ∀ result final, trace <+: final → valid final →
      Reacts valid tells (next result) final) :
    Reacts valid tells (program >>= next) trace := by
  change Reacts valid tells (program.bind next) trace
  induction reacts with
  | done => exact continues _ _ (List.prefix_refl _) kept
  | throws => exact .throws
  | tell later induction => exact .tell (induction kept continues)
  | @ask request again resume trace told resumed induction =>
      refine .ask ?_ ?_
      · intro rounds exchange repeated same keptAfter
        change tells _ (if again exchange.reply then [] else (resume exchange.reply >>= next).told)
        rw [Program.told_bind silent]
        exact told rounds exchange repeated same keptAfter
      · intro rounds exchange repeated same leaves keptAfter
        apply induction rounds exchange repeated same leaves keptAfter keptAfter
        intro result final longer keptFinal
        have start : trace <+: trace ++ rounds ++ [exchange] := by
          rw [List.append_assoc]
          exact List.prefix_append trace _
        exact continues result final (start.trans longer) keptFinal

theorem bind_send {request : Request} {next : Reply → Program Request Reply Output β}
    {trace : List (Exchange σ Request Reply)}
    (continues : ∀ exchange : Exchange σ Request Reply, exchange.request = request →
      valid (trace ++ [exchange]) →
        tells (trace ++ [exchange]) (next exchange.reply).told ∧
          Reacts valid tells (next exchange.reply) (trace ++ [exchange])) :
    Reacts valid tells (Program.send request >>= next) trace := by
  have single : ∀ rounds : List (Exchange σ Request Reply),
      (∀ round ∈ rounds, round.request = request ∧ false = true) → rounds = [] := by
    intro rounds repeated
    apply List.eq_nil_iff_forall_not_mem.mpr
    intro round member
    exact absurd (repeated round member).2 Bool.false_ne_true
  apply Reacts.ask
  · intro rounds exchange repeated same kept
    rw [single rounds repeated, List.append_nil] at kept ⊢
    exact (continues exchange same kept).1
  · intro rounds exchange repeated same leaves kept
    rw [single rounds repeated, List.append_nil] at kept ⊢
    exact (continues exchange same kept).2

theorem bind_sendUntil {request : Request} {accepted : Reply → Bool}
    {next : Reply → Program Request Reply Output β} {trace : List (Exchange σ Request Reply)}
    (repeats : ∀ (longer : List (Exchange σ Request Reply)) exchange, trace <+: longer →
      exchange.request = request → accepted exchange.reply = false →
        tells (longer ++ [exchange]) [])
    (continues : ∀ (longer : List (Exchange σ Request Reply)) exchange, trace <+: longer →
      exchange.request = request → accepted exchange.reply = true →
        valid (longer ++ [exchange]) →
          tells (longer ++ [exchange]) (next exchange.reply).told ∧
            Reacts valid tells (next exchange.reply) (longer ++ [exchange])) :
    Reacts valid tells (Program.sendUntil request accepted >>= next) trace := by
  apply Reacts.ask
  · intro rounds exchange repeated same kept
    have longer := List.prefix_append trace rounds
    cases leaves : accepted exchange.reply with
    | false => exact repeats _ exchange longer same leaves
    | true => exact (continues _ exchange longer same leaves kept).1
  · intro rounds exchange repeated same leaves kept
    exact (continues _ exchange (List.prefix_append trace rounds) same (by simpa using leaves)
      kept).2

theorem bind_report {output : Output} {next : Unit → Program Request Reply Output β}
    {trace : List (Exchange σ Request Reply)} (continues : Reacts valid tells (next ()) trace) :
    Reacts valid tells (Program.report output >>= next) trace :=
  .tell continues

theorem bind_lift {result : Except ε α} {next : α → Program Request Reply Output β}
    {trace : List (Exchange σ Request Reply)}
    (continues : ∀ value, result = .ok value → Reacts valid tells (next value) trace) :
    Reacts valid tells (Program.lift result >>= next) trace := by
  cases result with
  | error exception => exact .throws
  | ok value => exact continues value rfl

theorem lift {result : Except ε α} {trace : List (Exchange σ Request Reply)} :
    Reacts valid tells (Program.lift result : Program Request Reply Output α) trace := by
  cases result with
  | error exception => exact .throws
  | ok value => exact .done

theorem foldlM {step : β → γ → Program Request Reply Output β} {elements : List γ}
    {start : β} {trace : List (Exchange σ Request Reply)} (kept : valid trace)
    (silent : ∀ value element, (step value element).told = [])
    (steps : ∀ value element current, trace <+: current → valid current →
      Reacts valid tells (step value element) current) :
    Reacts valid tells (elements.foldlM step start) trace := by
  induction elements generalizing start trace with
  | nil => exact .done
  | cons element rest induction =>
      rw [List.foldlM_cons]
      refine (steps start element trace (List.prefix_refl trace) kept).bind kept
        (Program.told_foldlM silent) ?_
      intro value final longer keptFinal
      refine induction keptFinal fun other next current further keptCurrent => ?_
      exact steps other next current (longer.trans further) keptCurrent

theorem again {program : Program Request Reply Output α} {request : Request}
    {repeats : Reply → Bool} {next : Reply → Program Request Reply Output α}
    {trace : List (Exchange σ Request Reply)}
    (shape : program = .ask request repeats next)
    (reacts : Reacts valid tells program trace)
    (exchange : Exchange σ Request Reply) (same : exchange.request = request)
    (repeated : repeats exchange.reply = true) :
    Reacts valid tells program (trace ++ [exchange]) := by
  cases reacts with
  | @ask _ _ _ _ told resumed =>
      cases shape
      have extend : ∀ rounds : List (Exchange σ Request Reply),
          (∀ round ∈ rounds, round.request = request ∧ repeats round.reply = true) →
            ∀ round ∈ exchange :: rounds,
              round.request = request ∧ repeats round.reply = true := by
        intro rounds others round member
        rcases List.mem_cons.mp member with rfl | member
        · exact ⟨same, repeated⟩
        · exact others round member
      refine .ask (fun rounds final others sameFinal kept => ?_)
        (fun rounds final others sameFinal leaves kept => ?_)
      · rw [← List.append_cons] at kept ⊢
        exact told (exchange :: rounds) final (extend rounds others) sameFinal kept
      · rw [← List.append_cons] at kept ⊢
        exact resumed (exchange :: rounds) final (extend rounds others) sameFinal leaves kept
  | _ => cases shape

/-- At the next reply. -/
theorem reply {request : Request} {repeats : Reply → Bool}
    {next : Reply → Program Request Reply Output α} {trace : List (Exchange σ Request Reply)}
    (reacts : Reacts valid tells (.ask request repeats next) trace)
    (exchange : Exchange σ Request Reply) (same : exchange.request = request)
    (kept : valid (trace ++ [exchange])) :
    tells (trace ++ [exchange])
        (if repeats exchange.reply then [] else (next exchange.reply).told) ∧
      (repeats exchange.reply = false →
        Reacts valid tells (next exchange.reply) (trace ++ [exchange])) := by
  have none : ∀ round ∈ ([] : List (Exchange σ Request Reply)),
      round.request = request ∧ repeats round.reply = true :=
    fun _ member => absurd member List.not_mem_nil
  have kept : valid (trace ++ [] ++ [exchange]) := by rwa [List.append_nil]
  cases reacts with
  | ask told resumed =>
      have now := told [] exchange none same kept
      have later := fun leaves => resumed [] exchange none same leaves kept
      rw [List.append_nil] at now later
      exact ⟨now, later⟩

end Reacts

end Reacts

/-! Runs. -/

section Run

variable {ι σ W Event Request Reply Output Chance : Type} [DecidableEq ι]
  {machine : Machine σ W Event Request Reply Output Chance}
  {answers : Exchange σ Request Reply → Prop} {grows : σ → σ → Prop}
  {condition : Condition ι σ W Event Request Reply}
  {sends : W → Event → List (Exchange σ Request Reply) → Request → Prop}
  {post : W → Event → W → List (Exchange σ Request Reply) → Prop}
  {invariant : ι → W → σ → Prop}
  {tells : W → Event → List (Exchange σ Request Reply) → List Output → Prop}

/-- What is told in a move. -/
def State.told (machine : Machine σ W Event Request Reply Output Chance)
    (state : State ι σ W Event Request Reply Output) : Move ι Event Chance → List Output
  | .start client event =>
      match (state.clients client).activity with
      | .idle window => ((machine.handler window event).map Program.told).getD []
      | _ => []
  | .exchange client chance =>
      match (state.clients client).activity with
      | .running _ _ (.ask request again next) =>
          match (machine.serve chance state.store request).1 with
          | some reply => if again reply then [] else (next reply).told
          | none => []
      | _ => []

/-- A handler that is running goes on as its program says. -/
def Reacting (answers : Exchange σ Request Reply → Prop) (grows : σ → σ → Prop)
    (tells : W → Event → List (Exchange σ Request Reply) → List Output → Prop)
    (client : Client σ W Event Request Reply Output) : Prop :=
  match client.activity with
  | .running window event program =>
      Reacts (Chained answers grows) (tells window event) program client.trace
  | _ => True

theorem Reacts.settle {window : W} {event : Event} {program : Program Request Reply Output W}
    {trace : List (Exchange σ Request Reply)}
    (reacts : Reacts (Chained answers grows) (tells window event) program trace) :
    Reacting answers grows tells
      (⟨Interaction.settle window event program, trace⟩ :
        Client σ W Event Request Reply Output) := by
  induction program with
  | done result => exact trivial
  | throws => exact trivial
  | tell output rest induction =>
      cases reacts with
      | tell later => exact induction later
  | ask request again next => exact reacts

theorem Reaches.reacting (lawful : Lawful machine answers grows)
    (verified : Verified machine answers grows condition sends post invariant)
    (reacts : ∀ {window event program}, machine.handler window event = some program →
      Reacts (Chained answers grows) (tells window event) program [])
    {start state : State ι σ W Event Request Reply Output}
    (held : ∀ client, Holds answers grows condition sends post invariant start.store client
      (start.clients client))
    (idle : ∀ client, Reacting answers grows tells (start.clients client))
    (reached : Reaches machine condition start state) :
    ∀ client, Reacting answers grows tells (state.clients client) := by
  have both : (∀ client, Holds answers grows condition sends post invariant state.store client
      (state.clients client)) ∧
        ∀ client, Reacting answers grows tells (state.clients client) := by
    apply reached.invariant
    · exact ⟨held, idle⟩
    · intro state after move before meets stepped
      obtain ⟨holds, reacting⟩ := before
      refine ⟨Holds.step lawful verified holds meets stepped, ?_⟩
      cases State.stepped stepped with
      | start waits handled => exact State.forall_put reacting (Reacts.settle (reacts handled))
      | unanswered running served => exact State.forall_put reacting trivial
      | @answered client chance event window request again next reply store running served =>
          refine State.forall_put reacting ?_
          have underway := holds client
          have goes := reacting client
          rw [Holds, running] at underway
          rw [Reacting, running] at goes
          have chained := underway.chained.append (lawful.answered served) underway.past
          cases repeats : again reply with
          | true =>
              exact Reacts.settle (Reacts.again rfl goes ⟨_, _, reply, _⟩ rfl repeats)
          | false => exact Reacts.settle ((goes.reply ⟨_, _, reply, _⟩ rfl chained).2 repeats)
  exact both.2

/-- Whatever a client is told, in any run, is what its handler tells of its exchanges. -/
theorem Reaches.told (lawful : Lawful machine answers grows)
    (verified : Verified machine answers grows condition sends post invariant)
    (reacts : ∀ {window event program}, machine.handler window event = some program →
      Reacts (Chained answers grows) (tells window event) program [])
    {start state : State ι σ W Event Request Reply Output}
    (held : ∀ client, Holds answers grows condition sends post invariant start.store client
      (start.clients client))
    (idle : ∀ client, Reacting answers grows tells (start.clients client))
    (reached : Reaches machine condition start state) {client : ι} {chance : Chance}
    {window : W} {event : Event} {request : Request} {again : Reply → Bool}
    {next : Reply → Program Request Reply Output W} {reply : Reply} {after : σ}
    (running : (state.clients client).activity =
      .running window event (.ask request again next))
    (served : machine.serve chance state.store request = (some reply, after)) :
    tells window event ((state.clients client).trace ++ [⟨state.store, request, reply, after⟩])
      (state.told machine (.exchange client chance)) := by
  have underway := Reaches.holds lawful verified held reached client
  have goes := Reaches.reacting lawful verified reacts held idle reached client
  rw [Holds, running] at underway
  rw [Reacting, running] at goes
  have chained := underway.chained.append (lawful.answered served) underway.past
  simp only [State.told, running, served]
  exact (goes.reply ⟨_, _, reply, _⟩ rfl chained).1

end Run

end BpkMessenger.Interaction
