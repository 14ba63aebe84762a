import BpkMessenger.Server.StatementText

namespace BpkMessenger.Server

open Text Sql

/-! What a method can return and commit, operation by operation. -/

variable {pg : Postgres}

namespace Work

theorem run_bind (first : Work pg α) (next : α → Work pg β) (session : Session pg) :
    (first >>= next) session =
      match first session with
      | (.ok result, after) => next result after
      | (.error exception, after) => (.error exception, after) := by
  simp only [bind, ExceptT.bind, ExceptT.mk, StateT.bind]
  rcases first session with ⟨_ | _, after⟩ <;> rfl

theorem run_pure (result : α) (session : Session pg) :
    (pure result : Work pg α) session = (.ok result, session) := rfl

/-- What was committed before stays so when the work fails; its result and the session
it leaves are as described. -/
def Ensures (work : Work pg α) (session : Session pg)
    (post : α → Session pg → Prop) : Prop :=
  match work session with
  | (.error _, after) => after.committed = session.committed
  | (.ok result, after) => post result after

theorem Ensures.mono {work : Work pg α} {session : Session pg}
    {post weaker : α → Session pg → Prop} (ensured : work.Ensures session post)
    (follows : ∀ result after, post result after → weaker result after) :
    work.Ensures session weaker := by
  unfold Ensures at ensured ⊢
  rcases done : work session with ⟨exception | result, after⟩
  · rw [done] at ensured
    exact ensured
  · rw [done] at ensured
    exact follows result after ensured

theorem Ensures.bind {first : Work pg α} {next : α → Work pg β} {session : Session pg}
    {middle : α → Session pg → Prop} {post : β → Session pg → Prop}
    (ensured : first.Ensures session middle)
    (onward : ∀ result after, middle result after →
      after.committed = session.committed ∧ (next result).Ensures after post) :
    (first >>= next).Ensures session post := by
  unfold Ensures at ensured ⊢
  rw [run_bind]
  rcases done : first session with ⟨exception | result, after⟩
  · rw [done] at ensured
    exact ensured
  · rw [done] at ensured
    obtain ⟨kept, ensures⟩ := onward result after ensured
    rw [← kept]
    exact ensures

theorem Ensures.bind_pure {work : Work pg α} {next : α → β} {session : Session pg}
    {post : β → Session pg → Prop}
    (ensured : work.Ensures session fun result after => post (next result) after) :
    (work >>= fun result => pure (next result)).Ensures session post := by
  unfold Ensures at ensured ⊢
  rw [run_bind]
  rcases done : work session with ⟨exception | result, after⟩
  · rw [done] at ensured
    exact ensured
  · rw [done] at ensured
    exact ensured

theorem request_ensures {operation : pg.Chance → Session pg →
      Except PgError (α × Session pg)} {session : Session pg}
    {post : α → Session pg → Prop}
    (holds : ∀ chance chances result after,
      operation chance session = .ok (result, after) →
        post result { after with chances := chances }) :
    (request operation).Ensures session post := by
  unfold Ensures request
  cases session.chances with
  | nil => rfl
  | cons chance chances =>
      cases done : operation chance session with
      | error error => simp only [done]
      | ok outcome =>
          simp only [done]
          exact holds chance chances outcome.1 outcome.2 done

theorem start_ensures (session : Session pg) :
    start.Ensures session fun _ after =>
      after.committed = session.committed ∧ after.working = session.working := by
  refine request_ensures fun chance chances result after done => ?_
  split at done
  · cases done
    exact ⟨rfl, rfl⟩
  · contradiction

theorem exec_ensures (text : Bytes) (session : Session pg) :
    (exec text).Ensures session fun rows after =>
      after.committed = session.committed ∧
        ∃ chance, pg.exec chance session.working text = .ok (rows, after.working) := by
  refine request_ensures fun chance chances rows after done => ?_
  rw [bind_eq_ok_iff] at done
  obtain ⟨⟨rows, working⟩, executed, same⟩ := done
  cases same
  exact ⟨rfl, chance, executed⟩

theorem commit_ensures (session : Session pg) :
    commit.Ensures session fun _ after => after.committed = session.working := by
  refine request_ensures fun chance chances result after done => ?_
  split at done
  · cases done
    rfl
  · contradiction

theorem lift_ensures (result : Except DatabaseException α) (session : Session pg) :
    (lift result).Ensures session fun value after => result = .ok value ∧ after = session := by
  cases result with
  | error exception => rfl
  | ok value => exact ⟨rfl, rfl⟩

theorem start_ok {committed working : Store} {chance : pg.Chance} {chances : List pg.Chance}
    (begins : pg.begins chance = true) :
    start ⟨committed, working, chance :: chances⟩ = (.ok (), ⟨committed, working, chances⟩) := by
  simp only [start, request, begins, if_true]

theorem exec_ok {committed working after : Store} {chance : pg.Chance}
    {chances : List pg.Chance} {text : Bytes} {rows : List Row}
    (executed : pg.exec chance working text = .ok (rows, after)) :
    exec text ⟨committed, working, chance :: chances⟩ =
      (.ok rows, ⟨committed, after, chances⟩) := by
  simp only [exec, request, executed]
  rfl

theorem commit_ok {committed working : Store} {chance : pg.Chance} {chances : List pg.Chance}
    (commits : pg.commits chance = true) :
    commit ⟨committed, working, chance :: chances⟩ = (.ok (), ⟨working, working, chances⟩) := by
  simp only [commit, request, commits, if_true]

end Work

theorem attempt_cases {body : Work pg Reply} {chances : List pg.Chance}
    {store after : Store} {reply : Reply} {post : Reply → Store → Prop}
    (ensured : body.Ensures ⟨store, store, chances⟩ fun answered session =>
      post answered session.committed)
    (ran : attempt body chances store = (reply, after)) :
    reply = .fail ∧ after = store ∨ post reply after := by
  unfold Work.Ensures at ensured
  unfold attempt at ran
  rcases done : body ⟨store, store, chances⟩ with ⟨exception | answered, session⟩
  · rw [done] at ensured ran
    cases ran
    exact .inl ⟨rfl, ensured⟩
  · rw [done] at ensured ran
    cases ran
    exact .inr ensured

theorem execute_cases {text : Bytes} {chances : List pg.Chance} {store after : Store}
    {reply : Reply} (ran : execute text chances store = (reply, after)) :
    reply = .fail ∧ after = store ∨
      reply = .success ∧
        ∃ chance rows, pg.exec chance store text = .ok (rows, after) := by
  apply attempt_cases _ ran
  refine .bind (Work.start_ensures _) fun _ started opened => ⟨opened.1, ?_⟩
  refine .bind (Work.exec_ensures text started) fun rows executed done => ⟨done.1, ?_⟩
  obtain ⟨-, chance, done⟩ := done
  refine .bind_pure ((Work.commit_ensures executed).mono fun _ final committed => ?_)
  rw [opened.2] at done
  exact ⟨rfl, chance, rows, by rw [done, committed]⟩

theorem answer_cases {query : Bytes} {read : List Row → Except DatabaseException Reply}
    {chances : List pg.Chance} {store after : Store} {reply : Reply}
    (ran : answer query read chances store = (reply, after)) :
    after = store ∧
      (reply = .fail ∨
        ∃ chance rows working,
          pg.exec chance store (copyText query) = .ok (rows, working) ∧
            read rows = .ok reply) := by
  have answered : reply = .fail ∧ after = store ∨ after = store ∧
      ∃ chance rows working, pg.exec chance store (copyText query) = .ok (rows, working) ∧
        read rows = .ok reply := by
    apply attempt_cases _ ran
    refine .bind (Work.start_ensures _) fun _ started opened => ⟨opened.1, ?_⟩
    refine .bind (Work.exec_ensures (copyText query) started) fun rows executed done =>
      ⟨done.1, ?_⟩
    obtain ⟨kept, chance, done⟩ := done
    rw [opened.2] at done
    refine (Work.lift_ensures (read rows) executed).mono fun result final returned => ?_
    obtain ⟨returned, rfl⟩ := returned
    exact ⟨kept.trans opened.1, chance, rows, _, done, returned⟩
  rcases answered with ⟨failed, same⟩ | ⟨same, returned⟩
  · exact ⟨same, .inl failed⟩
  · exact ⟨same, .inr returned⟩

theorem answer_of_exec {query : Bytes} {read : List Row → Except DatabaseException Reply}
    {first second : pg.Chance} {rest : List pg.Chance} {store working : Store}
    {rows : List Row} {reply : Reply} (begins : pg.begins first = true)
    (executed : pg.exec second store (copyText query) = .ok (rows, working))
    (returned : read rows = .ok reply) :
    answer query read (first :: second :: rest) store = (reply, store) := by
  simp only [answer, attempt, Work.run_bind, Work.start_ok begins, Work.stream,
    Work.exec_ok executed, Work.lift, returned]

theorem execute_of_exec {insertInto : Bytes} {first second third : pg.Chance}
    {rest : List pg.Chance} {store working : Store} {rows : List Row}
    (begins : pg.begins first = true)
    (executed : pg.exec second store insertInto = .ok (rows, working))
    (commits : pg.commits third = true) :
    execute insertInto (first :: second :: third :: rest) store = (.success, working) := by
  simp only [execute, attempt, Work.run_bind, Work.start_ok begins, Work.exec_ok executed,
    Work.commit_ok commits, Work.run_pure]

/-- Linking fails and changes nothing, or its check found the link and what the
check saw is committed, or it found none and the insert is committed. -/
theorem linkUserToChat_cases {userId chatId : SizeT} {chances : List pg.Chance}
    {store after : Store} {reply : Reply}
    (ran : Database.linkUserToChat userId chatId chances store = (reply, after)) :
    reply = .fail ∧ after = store ∨
      reply = .success ∧
        ∃ chance rows working,
          pg.exec chance store (Database.checkLinkText userId chatId) =
              .ok (rows, working) ∧
            (rows ≠ [] ∧ after = working ∨
              rows = [] ∧ ∃ chance inserted,
                pg.exec chance working (Database.insertLinkText userId chatId) =
                  .ok (inserted, after)) := by
  apply attempt_cases _ ran
  refine .bind (Work.start_ensures _) fun _ started opened => ⟨opened.1, ?_⟩
  refine .bind (Work.exec_ensures _ started) fun rows checked done => ⟨done.1, ?_⟩
  obtain ⟨-, chance, done⟩ := done
  rw [opened.2] at done
  cases rows with
  | cons row rows =>
      -- the link is there: nothing is inserted
      refine .bind_pure ((Work.commit_ensures checked).mono fun _ final committed => ?_)
      exact ⟨rfl, chance, _, _, done, .inl ⟨by simp, committed⟩⟩
  | nil =>
      refine .bind (Work.exec_ensures _ checked) fun inserted executed wrote => ⟨wrote.1, ?_⟩
      obtain ⟨-, second, wrote⟩ := wrote
      refine .bind_pure ((Work.commit_ensures executed).mono fun _ final committed => ?_)
      exact ⟨rfl, chance, [], _, done, .inr ⟨rfl, second, inserted, by rw [wrote, committed]⟩⟩

end BpkMessenger.Server
