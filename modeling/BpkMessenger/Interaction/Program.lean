import Mathlib.Data.List.Basic

namespace BpkMessenger.Interaction

/-! Sequential programs that ask a service and wait for each reply, and what can
be said about them from the replies alone. -/

/-- `ask` repeats its request as long as `again` says so. -/
inductive Program (Request Reply Output α : Type) where
  | done (result : α)
  | throws
  | tell (output : Output) (rest : Program Request Reply Output α)
  | ask (request : Request) (again : Reply → Bool)
      (next : Reply → Program Request Reply Output α)

namespace Program

variable {Request Reply Output α β : Type}

def bind : Program Request Reply Output α → (α → Program Request Reply Output β) →
    Program Request Reply Output β
  | .done result, next => next result
  | .throws, _ => .throws
  | .tell output rest, next => .tell output (rest.bind next)
  | .ask request again resume, next =>
      .ask request again fun reply => (resume reply).bind next

instance : Monad (Program Request Reply Output) where
  pure := .done
  bind := bind

def send (request : Request) : Program Request Reply Output Reply :=
  .ask request (fun _ => false) .done

/-- The loop `while (!accepted(reply)) reply = send(request)`. -/
def sendUntil (request : Request) (accepted : Reply → Bool) :
    Program Request Reply Output Reply :=
  .ask request (fun reply => !accepted reply) .done

def report (output : Output) : Program Request Reply Output Unit :=
  .tell output (.done ())

def lift : Except ε α → Program Request Reply Output α
  | .ok result => .done result
  | .error _ => .throws

end Program

/-- A request, its reply, and the states of the service around it. -/
structure Exchange (σ Request Reply : Type) where
  before : σ
  request : Request
  reply : Reply
  after : σ

/-- Whatever holds of results and is kept when programs are joined, an invariant carries
it through a loop. -/
theorem foldlM_of_bind {σ Request Reply Output β γ : Type}
    (valid : List (Exchange σ Request Reply) → Prop)
    (holds : (β → List (Exchange σ Request Reply) → Prop) →
      Program Request Reply Output β → List (Exchange σ Request Reply) → Prop)
    (done : ∀ {post result trace}, post result trace → holds post (.done result) trace)
    (bind : ∀ {middle last program next trace}, holds middle program trace → valid trace →
      (∀ result final, trace <+: final → valid final → middle result final →
        holds last (next result) final) → holds last (program >>= next) trace)
    {step : β → γ → Program Request Reply Output β}
    (invariant : List γ → β → List (Exchange σ Request Reply) → Prop)
    {elements : List γ} {start : β} {trace : List (Exchange σ Request Reply)}
    (kept : valid trace) (initial : invariant [] start trace)
    (steps : ∀ before element rest, elements = before ++ element :: rest →
      ∀ value current, trace <+: current → valid current →
        invariant before value current →
          holds (invariant (before ++ [element])) (step value element) current) :
    holds (invariant elements) (elements.foldlM step start) trace := by
  have general : ∀ rest before value current, elements = before ++ rest →
      trace <+: current → valid current → invariant before value current →
        holds (invariant elements) (rest.foldlM step value) current := by
    intro rest
    induction rest with
    | nil =>
        intro before value current split longer keptCurrent here
        rw [List.append_nil] at split
        subst split
        exact done here
    | cons element rest induction =>
        intro before value current split longer keptCurrent here
        rw [List.foldlM_cons]
        apply bind (steps before element rest split value current longer keptCurrent here)
          keptCurrent
        intro result final longerFinal keptFinal holdsFinal
        apply induction (before ++ [element]) result final
        · rw [split, List.append_assoc]
          rfl
        · exact longer.trans longerFinal
        · exact keptFinal
        · exact holdsFinal
  exact general elements [] start trace rfl (List.prefix_refl trace) kept initial

section Safe

variable {σ Request Reply Output α β : Type}
  {valid : List (Exchange σ Request Reply) → Prop}
  {sends : List (Exchange σ Request Reply) → Request → Prop}

/-- After the exchanges of the trace, whatever valid exchanges follow, the program
only makes requests that `sends` allows, and its result meets `post`. -/
inductive Safe (valid : List (Exchange σ Request Reply) → Prop)
    (sends : List (Exchange σ Request Reply) → Request → Prop)
    (post : α → List (Exchange σ Request Reply) → Prop) :
    Program Request Reply Output α → List (Exchange σ Request Reply) → Prop
  | done {result : α} {trace : List (Exchange σ Request Reply)}
      (holds : post result trace) : Safe valid sends post (.done result) trace
  | throws {trace : List (Exchange σ Request Reply)} :
      Safe valid sends post .throws trace
  | tell {output : Output} {rest : Program Request Reply Output α}
      {trace : List (Exchange σ Request Reply)}
      (safe : Safe valid sends post rest trace) :
      Safe valid sends post (.tell output rest) trace
  | ask {request : Request} {again : Reply → Bool}
      {next : Reply → Program Request Reply Output α}
      {trace : List (Exchange σ Request Reply)}
      (allowed : ∀ rounds : List (Exchange σ Request Reply),
        (∀ round ∈ rounds, round.request = request ∧ again round.reply = true) →
          sends (trace ++ rounds) request)
      (resumed : ∀ (rounds : List (Exchange σ Request Reply)) exchange,
        (∀ round ∈ rounds, round.request = request ∧ again round.reply = true) →
          exchange.request = request → again exchange.reply = false →
            valid (trace ++ rounds ++ [exchange]) →
              Safe valid sends post (next exchange.reply)
                (trace ++ rounds ++ [exchange])) :
      Safe valid sends post (.ask request again next) trace

namespace Safe

variable {post middle : α → List (Exchange σ Request Reply) → Prop}
  {last : β → List (Exchange σ Request Reply) → Prop}

theorem weaken {program : Program Request Reply Output α}
    {trace : List (Exchange σ Request Reply)}
    (safe : Safe valid sends middle program trace)
    (implies : ∀ result final, middle result final → post result final) :
    Safe valid sends post program trace := by
  induction safe with
  | done holds => exact .done (implies _ _ holds)
  | throws => exact .throws
  | tell safe induction => exact .tell induction
  | ask allowed resumed induction => exact .ask allowed induction

/-- What is safe whatever traces are valid, is so when fewer are. -/
theorem restrict {strict : List (Exchange σ Request Reply) → Prop}
    {program : Program Request Reply Output α} {trace : List (Exchange σ Request Reply)}
    (weaker : ∀ final, strict final → valid final)
    (safe : Safe valid sends post program trace) : Safe strict sends post program trace := by
  induction safe with
  | done holds => exact .done holds
  | throws => exact .throws
  | tell safe induction => exact .tell induction
  | ask allowed resumed induction =>
      refine .ask allowed ?_
      intro rounds exchange repeated same leaves kept
      exact induction rounds exchange repeated same leaves (weaker _ kept)

/-- The result meets what is shown of it apart from the requests, too. -/
theorem and {asks : List (Exchange σ Request Reply) → Request → Prop}
    {program : Program Request Reply Output α} {trace : List (Exchange σ Request Reply)}
    (first : Safe valid sends post program trace)
    (second : Safe valid asks middle program trace) :
    Safe valid sends (fun result final => post result final ∧ middle result final) program
      trace := by
  induction first with
  | done holds =>
      cases second with
      | done also => exact .done ⟨holds, also⟩
  | throws => exact .throws
  | tell safe induction =>
      cases second with
      | tell also => exact .tell (induction also)
  | ask allowed resumed induction =>
      cases second with
      | ask permitted continued =>
          refine .ask allowed ?_
          intro rounds exchange repeated same leaves kept
          exact induction rounds exchange repeated same leaves kept
            (continued rounds exchange repeated same leaves kept)

/-- Where every request is allowed and nothing is asked of the result. -/
theorem unasked (allowed : ∀ trace request, sends trace request)
    (program : Program Request Reply Output α) (trace : List (Exchange σ Request Reply)) :
    Safe valid sends (fun _ _ => True) program trace := by
  induction program generalizing trace with
  | done result => exact .done trivial
  | throws => exact .throws
  | tell output rest induction => exact .tell (induction trace)
  | ask request again next induction =>
      refine .ask (fun rounds _ => allowed _ request) ?_
      intro rounds exchange repeated same leaves kept
      exact induction exchange.reply _

theorem bind {program : Program Request Reply Output α}
    {next : α → Program Request Reply Output β}
    {trace : List (Exchange σ Request Reply)}
    (safe : Safe valid sends middle program trace) (kept : valid trace)
    (continues : ∀ result final, trace <+: final → valid final →
      middle result final → Safe valid sends last (next result) final) :
    Safe valid sends last (program >>= next) trace := by
  change Safe valid sends last (program.bind next) trace
  induction safe with
  | done holds => exact continues _ _ (List.prefix_refl _) kept holds
  | throws => exact .throws
  | tell safe induction => exact .tell (induction kept continues)
  | @ask request again resume trace allowed resumed induction =>
      refine .ask allowed ?_
      intro rounds exchange repeated same leaves keptAfter
      apply induction rounds exchange repeated same leaves keptAfter keptAfter
      intro result final longer keptFinal holds
      have start : trace <+: trace ++ rounds ++ [exchange] := by
        rw [List.append_assoc]
        exact List.prefix_append trace _
      exact continues result final (start.trans longer) keptFinal holds

/-! The rules for a first step and what follows it. -/

theorem bind_send {request : Request} {next : Reply → Program Request Reply Output β}
    {trace : List (Exchange σ Request Reply)} (allowed : sends trace request)
    (continues : ∀ exchange : Exchange σ Request Reply, exchange.request = request →
      valid (trace ++ [exchange]) →
        Safe valid sends last (next exchange.reply) (trace ++ [exchange])) :
    Safe valid sends last (Program.send request >>= next) trace := by
  have single : ∀ rounds : List (Exchange σ Request Reply),
      (∀ round ∈ rounds, round.request = request ∧ false = true) → rounds = [] := by
    intro rounds repeated
    apply List.eq_nil_iff_forall_not_mem.mpr
    intro round member
    exact absurd (repeated round member).2 Bool.false_ne_true
  apply Safe.ask
  · intro rounds repeated
    rw [single rounds repeated, List.append_nil]
    exact allowed
  · intro rounds exchange repeated same leaves kept
    rw [single rounds repeated, List.append_nil] at kept ⊢
    exact continues exchange same kept

theorem bind_sendUntil {request : Request} {accepted : Reply → Bool}
    {next : Reply → Program Request Reply Output β}
    {trace : List (Exchange σ Request Reply)}
    (allowed : ∀ longer, trace <+: longer → sends longer request)
    (continues : ∀ (longer : List (Exchange σ Request Reply)) exchange,
      trace <+: longer → exchange.request = request →
        accepted exchange.reply = true → valid (longer ++ [exchange]) →
          Safe valid sends last (next exchange.reply) (longer ++ [exchange])) :
    Safe valid sends last (Program.sendUntil request accepted >>= next) trace := by
  apply Safe.ask
  · intro rounds repeated
    exact allowed _ (List.prefix_append trace rounds)
  · intro rounds exchange repeated same leaves kept
    exact continues _ exchange (List.prefix_append trace rounds) same (by simpa using leaves)
      kept

theorem bind_report {output : Output} {next : Unit → Program Request Reply Output β}
    {trace : List (Exchange σ Request Reply)}
    (continues : Safe valid sends last (next ()) trace) :
    Safe valid sends last (Program.report output >>= next) trace :=
  .tell continues

theorem bind_lift {result : Except ε α} {next : α → Program Request Reply Output β}
    {trace : List (Exchange σ Request Reply)}
    (continues : ∀ value, result = .ok value → Safe valid sends last (next value) trace) :
    Safe valid sends last (Program.lift result >>= next) trace := by
  cases result with
  | error exception => exact .throws
  | ok value => exact continues value rfl

theorem lift {result : Except ε α} {trace : List (Exchange σ Request Reply)}
    (holds : ∀ value, result = .ok value → post value trace) :
    Safe valid sends post
      (Program.lift result : Program Request Reply Output α) trace := by
  cases result with
  | error exception => exact .throws
  | ok value => exact .done (holds value rfl)

theorem foldlM {γ : Type} {step : β → γ → Program Request Reply Output β}
    (invariant : List γ → β → List (Exchange σ Request Reply) → Prop)
    {elements : List γ} {start : β} {trace : List (Exchange σ Request Reply)}
    (kept : valid trace) (initial : invariant [] start trace)
    (steps : ∀ before element rest, elements = before ++ element :: rest →
      ∀ value current, trace <+: current → valid current →
        invariant before value current →
          Safe valid sends (invariant (before ++ [element])) (step value element)
            current) :
    Safe valid sends (invariant elements) (elements.foldlM step start) trace :=
  foldlM_of_bind valid (Safe valid sends) Safe.done Safe.bind invariant kept initial steps

theorem again {program : Program Request Reply Output α} {request : Request}
    {repeats : Reply → Bool} {next : Reply → Program Request Reply Output α}
    {trace : List (Exchange σ Request Reply)}
    (shape : program = .ask request repeats next)
    (safe : Safe valid sends post program trace)
    (exchange : Exchange σ Request Reply) (same : exchange.request = request)
    (repeated : repeats exchange.reply = true) :
    Safe valid sends post program (trace ++ [exchange]) := by
  cases safe with
  | @ask _ _ _ _ allowed resumed =>
      cases shape
      have extend : ∀ rounds : List (Exchange σ Request Reply),
          (∀ round ∈ rounds, round.request = request ∧ repeats round.reply = true) →
            ∀ round ∈ exchange :: rounds,
              round.request = request ∧ repeats round.reply = true := by
        intro rounds others round member
        rcases List.mem_cons.mp member with rfl | member
        · exact ⟨same, repeated⟩
        · exact others round member
      refine .ask (fun rounds others => ?_) (fun rounds final others sameFinal leaves kept => ?_)
      · have sent := allowed (exchange :: rounds) (extend rounds others)
        rwa [List.append_cons] at sent
      · rw [← List.append_cons] at kept ⊢
        exact resumed (exchange :: rounds) final (extend rounds others) sameFinal leaves kept
  | _ => cases shape

end Safe

end Safe

end BpkMessenger.Interaction
