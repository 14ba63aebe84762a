import BpkMessenger.Client.Request
import BpkMessenger.Server.Appending
import BpkMessenger.Server.Lookup

namespace BpkMessenger.Server

open Text

/-! The Trello tokens of the users.  Setting one appends a row and replaces none. -/

variable {pg : Postgres}

def tokenDocument (trelloToken : Bytes) : Json Key :=
  .object [(.trelloToken, .string trelloToken)]

theorem tokenDocument_inj {first second : Bytes} :
    tokenDocument first = tokenDocument second ↔ first = second := by
  simp [tokenDocument]

/-- The token a successful call stores. -/
def tokenSet : Call → Reply → List TokenRow
  | .setTrelloToken userId trelloToken, .success => [⟨userId.toNat, trelloToken⟩]
  | _, _ => []

theorem Served.tokens {store after : Store} {call : Call} {reply : Reply}
    (served : Served store call reply after) :
    after.userIdTrelloToken = store.userIdTrelloToken ++ tokenSet call reply := by
  cases served with
  | @inserted call row stored after inserts clean encoded stores added =>
      rw [added]
      cases stores with
      | token =>
          cases call <;> cases inserts
          rfl
      | _ =>
          cases call <;> cases inserts <;> exact (List.append_nil _).symm
  | linked unlinked added =>
      rw [added]
      exact (List.append_nil _).symm
  | @failed call => cases call <;> exact (List.append_nil _).symm
  | _ => exact (List.append_nil _).symm

theorem Served.token_valid {store after : Store} {userId : SizeT} {trelloToken : Bytes}
    (served : Served store (.setTrelloToken userId trelloToken) .success after) :
    validUtf8 trelloToken = true := by
  cases served with
  | inserted inserts clean encoded stores added =>
      cases inserts
      exact encoded

def Entry.Sets (entry : Entry) (userId : SizeT) (trelloToken : Bytes) : Prop :=
  entry.Answered (.setTrelloToken userId trelloToken) .success

theorem TokenArguments.oneLine {text trelloToken : Bytes} {userId : SizeT}
    (arguments : TokenArguments text userId trelloToken) : 10 ∉ trelloToken := by
  cases arguments with
  | line user =>
      intro member
      have kept := List.mem_takeWhile_imp member
      contradiction
  | none user => exact List.not_mem_nil

theorem Spelled.oneLine {payload : Bytes} {call : Call} (spelled : Spelled payload call)
    {userId : SizeT} {trelloToken : Bytes} (same : call = .setTrelloToken userId trelloToken) :
    10 ∉ trelloToken := by
  cases spelled with
  | setTrelloToken separator reads =>
      cases same
      exact reads.oneLine
  | text member =>
      simp only [textCalls, List.mem_cons, Prod.mk.injEq, List.not_mem_nil, or_false] at member
      rcases member with ⟨-, rfl⟩ | ⟨-, rfl⟩ | ⟨-, rfl⟩ | ⟨-, rfl⟩ <;> cases same
  | id member =>
      simp only [idCalls, List.mem_cons, Prod.mk.injEq, List.not_mem_nil, or_false] at member
      rcases member with ⟨-, rfl⟩ | ⟨-, rfl⟩ | ⟨-, rfl⟩ | ⟨-, rfl⟩ | ⟨-, rfl⟩ | ⟨-, rfl⟩ <;>
        cases same
  | addMessage separator reads => cases same
  | linkUserToChat separator reads => cases same

/-- The stored tokens are those that were set with success. -/
structure TokenSet (handled : List Entry) (store : Store) : Prop where
  written : ∀ row ∈ store.userIdTrelloToken, ∃ entry ∈ handled, ∃ userId : SizeT,
    userId.toNat = row.userId ∧ entry.Sets userId row.trelloToken
  stored : ∀ entry ∈ handled, ∀ userId trelloToken, entry.Sets userId trelloToken →
    ⟨userId.toNat, trelloToken⟩ ∈ store.userIdTrelloToken
  valid : ∀ row ∈ store.userIdTrelloToken, validUtf8 row.trelloToken = true

theorem TokenSet.empty : TokenSet [] .empty :=
  ⟨fun _ member => absurd member List.not_mem_nil,
    fun _ member => absurd member List.not_mem_nil,
    fun _ member => absurd member List.not_mem_nil⟩

theorem TokenSet.step {handled : List Entry} {entry : Entry} (lawful : entry.Lawful)
    (tokens : TokenSet handled entry.before) : TokenSet (handled ++ [entry]) entry.after := by
  obtain ⟨written, stored, valid⟩ := tokens
  have grown := lawful.grows.tokens
  have new : ∀ row ∈ entry.after.userIdTrelloToken, row ∈ entry.before.userIdTrelloToken ∨
      ∃ userId : SizeT, userId.toNat = row.userId ∧ entry.Sets userId row.trelloToken := by
    intro row member
    rcases lawful with ⟨-, same⟩ | ⟨call, reply, answered, served⟩
    · rw [same] at member
      exact .inl member
    · rw [served.tokens] at member
      rcases List.mem_append.mp member with earlier | last
      · exact .inl earlier
      · right
        unfold tokenSet at last
        split at last
        · rw [List.mem_singleton.mp last]
          exact ⟨_, rfl, answered⟩
        · exact absurd last List.not_mem_nil
  refine ⟨fun row member => ?_, fun other member userId trelloToken sets => ?_,
    fun row member => ?_⟩
  · rcases new row member with earlier | ⟨userId, same, sets⟩
    · obtain ⟨other, otherMember, userId, same, sets⟩ := written row earlier
      exact ⟨other, List.mem_append_left _ otherMember, userId, same, sets⟩
    · exact ⟨entry, List.mem_append_right _ (List.mem_singleton_self _), userId, same, sets⟩
  · rcases List.mem_append.mp member with earlier | last
    · exact grown (stored other earlier userId trelloToken sets)
    · rw [List.mem_singleton.mp last] at sets
      rw [(lawful.served sets).tokens]
      exact List.mem_append_right _ (List.mem_singleton_self _)
  · rcases new row member with earlier | ⟨userId, same, sets⟩
    · exact valid row earlier
    · exact (lawful.served sets).token_valid

theorem Entry.Lawful.precedes {entry : Entry} (lawful : entry.Lawful) :
    entry.before.Precedes entry.after := by
  rcases lawful with ⟨-, same⟩ | ⟨call, reply, -, served⟩
  · rw [same]
    exact Store.Precedes.refl entry.before
  · exact served.precedes

/-- What a message leaves is there to the end. -/
theorem onMessages_precedes {store : Store} {frames : List (Frame pg)} :
    store.Precedes (onMessages store frames).2 ∧
      ∀ entry ∈ (onMessages store frames).1,
        entry.after.Precedes (onMessages store frames).2 := by
  induction frames generalizing store with
  | nil => exact ⟨Store.Precedes.refl store, fun _ member => absurd member List.not_mem_nil⟩
  | cons frame later induction =>
      obtain ⟨final, entries⟩ := @induction (frame.entry store).after
      refine ⟨(frame.entry_lawful store).precedes.trans final, fun entry member => ?_⟩
      rcases List.mem_cons.mp member with rfl | member
      · exact final
      · exact entries entry member

theorem onMessages_tokenSet (frames : List (Frame pg)) :
    TokenSet (onMessages .empty frames).1 (onMessages .empty frames).2 :=
  onMessages_invariant TokenSet.empty TokenSet.step frames

/-! A token is read by a service that returns rows in the order of its table. -/

theorem dump_token {trelloToken : Bytes} (valid : validUtf8 trelloToken = true) :
    ∃ text, (tokenDocument trelloToken).dump Key.name = .ok text := by
  have name : validUtf8 Key.trelloToken.name = true := by decide
  simp only [tokenDocument, Json.dump, Json.dumpMembers, Json.dumpString, name, valid, if_true]
  exact ⟨_, rfl⟩

theorem getTrelloToken_first {store : Store} {userId : SizeT} {row : TokenRow}
    {rest : List TokenRow}
    (found : (store.userIdTrelloToken.filter fun row => row.userId = userId.toNat) = row :: rest)
    (valid : validUtf8 row.trelloToken = true) :
    ∃ document : Document, document.value = tokenDocument row.trelloToken ∧
      Call.run (.getTrelloToken userId)
        ([⟨true, 0⟩, ⟨true, 0⟩] : List Reference.postgres.Chance) store =
          (.document document, store) := by
  obtain ⟨text, dumped⟩ := dump_token valid
  have executed : Reference.postgres.exec ⟨true, 0⟩ store
      (copyText (Database.getTrelloTokenText userId)) =
        .ok ((row :: rest).map TokenRow.fields, store) := by
    simp only [Reference.postgres]
    rw [Reference.run_copy rfl (Database.lex_getTrelloTokenText userId) trivial]
    simp only [Query.rows, found]
  refine ⟨⟨_, text, dumped⟩, rfl, answer_of_exec rfl executed ?_⟩
  exact written_document ⟨tokenDocument row.trelloToken, text, dumped⟩

theorem Served.token_gives {store after : Store} {userId : SizeT} {reply : Reply}
    (served : Served store (.getTrelloToken userId) reply after) (answered : reply ≠ .fail) :
    (∀ row ∈ store.userIdTrelloToken, row.userId ≠ userId.toNat) ∧ reply.Gives .null ∨
      ∃ row ∈ store.userIdTrelloToken, row.userId = userId.toNat ∧
        reply.Gives (tokenDocument row.trelloToken) := by
  cases served with
  | failed => contradiction
  | inserted inserts => cases inserts
  | noToken missing value => exact .inl ⟨missing, _, rfl, value⟩
  | token member same value => exact .inr ⟨_, member, same, _, rfl, value⟩

/-- What is found first among the rows before, at and after one that is found. -/
theorem filter_first {holds : α → Bool} {before after : List α} {found : α}
    (here : holds found = true) :
    ∃ first rest, (before ++ found :: after).filter holds = first :: rest ∧
      (first ∈ before ∨ first = found ∧ ∀ row ∈ before, holds row = false) := by
  rw [List.filter_append, List.filter_cons_of_pos here]
  cases earlier : before.filter holds with
  | nil =>
      refine ⟨found, _, rfl, .inr ⟨rfl, fun row member => ?_⟩⟩
      exact Bool.not_eq_true _ ▸ List.filter_eq_nil_iff.mp earlier row member
  | cons first rest =>
      have member : first ∈ before.filter holds := by simp [earlier]
      exact ⟨first, _, rfl, .inl (List.mem_filter.mp member).1⟩

end BpkMessenger.Server

namespace BpkMessenger.Client

open Text Server

/-! What a token reads back as. -/

variable {pg : Postgres}

theorem spelled_setTrelloToken (userId : SizeT) (trelloToken : Bytes) :
    Spelled (ClientRequest.setTrelloToken userId trelloToken).payload
      (.setTrelloToken userId (trelloToken.takeWhile (· != 10))) := by
  have reads := tokenArguments_stdToString userId trelloToken
  simpa [ClientRequest.payload, ascii] using Spelled.setTrelloToken 32 reads

theorem spelled_getTrelloToken {userId : SizeT} (small : userId.toNat < 2 ^ 31) :
    Spelled (ClientRequest.getTrelloToken userId).payload (.getTrelloToken userId) := by
  have member : (ascii "get_trello_token", Call.getTrelloToken) ∈ idCalls := by
    simp [idCalls]
  simpa [ClientRequest.payload, ascii] using spelled_stdToString member small

theorem takeWhile_line {trelloToken : Bytes} :
    trelloToken.takeWhile (· != 10) = trelloToken ↔ 10 ∉ trelloToken := by
  rw [List.takeWhile_eq_self_iff]
  constructor
  · intro others member
    have other := others 10 member
    contradiction
  · intro line byte member
    rw [bne_iff_ne]
    rintro rfl
    exact line member

section Run

variable {frames : List (Frame pg)} {earlier later : List Entry} {entry : Entry}
  {userId : SizeT} {trelloToken : Bytes}
  (ran : (onMessages .empty frames).1 = earlier ++ entry :: later)

include ran

theorem final_tokens (sets : entry.Sets userId trelloToken) :
    ∃ rest, (onMessages .empty frames).2.userIdTrelloToken =
      entry.before.userIdTrelloToken ++ ⟨userId.toNat, trelloToken⟩ :: rest := by
  have member : entry ∈ (onMessages .empty frames).1 := by simp [ran]
  obtain ⟨rest, tokens⟩ := (onMessages_precedes.2 entry member).tokens
  refine ⟨rest, ?_⟩
  rw [← tokens, ((onMessages_lawful member).served sets).tokens, List.append_assoc]
  rfl

theorem earlier_token {other : Entry} (member : other ∈ earlier) {former : Bytes}
    (sets : other.Sets userId former) :
    ⟨userId.toNat, former⟩ ∈ entry.before.userIdTrelloToken := by
  have ordered := @onMessages_ordered pg .empty frames
  have listed : other ∈ (onMessages .empty frames).1 := by simp [ran, member]
  rw [ran] at ordered
  have grown := (List.pairwise_append.mp ordered).2.2 other member entry List.mem_cons_self
  apply grown.tokens
  rw [((onMessages_lawful listed).served sets).tokens]
  exact List.mem_append_right _ (List.mem_singleton_self _)

/-- The row that is read first is the one that this message stored, or an older one with
another token. -/
theorem first_token (sets : entry.Sets userId trelloToken) :
    ∃ row rest, (onMessages .empty frames).2.userIdTrelloToken.filter
        (fun row => row.userId = userId.toNat) = row :: rest ∧
      (row.trelloToken = trelloToken →
        ∀ other ∈ earlier, ∀ former, ¬ other.Sets userId former) := by
  obtain ⟨rest, tokens⟩ := final_tokens ran sets
  have distinct := (onMessages .empty frames).2.consistent.tokenUnique
  rw [tokens, List.map_append, List.map_cons] at distinct
  obtain ⟨row, others, first, place⟩ := @filter_first _
    (fun row : TokenRow => decide (row.userId = userId.toNat)) entry.before.userIdTrelloToken
      rest ⟨userId.toNat, trelloToken⟩ (decide_eq_true rfl)
  rw [← tokens] at first
  refine ⟨row, others, first, fun same other member former otherSets => ?_⟩
  rcases place with older | ⟨-, none⟩
  · have disjoint := (List.nodup_append.mp distinct).2.2 _ (List.mem_map_of_mem older)
      trelloToken (by simp)
    exact disjoint same
  · have missing := none _ (earlier_token ran member otherSets)
    simp at missing

end Run

/-- What was set reads back, whatever row comes first, exactly if it is one line and
nothing was set for the user before. -/
theorem token_reads_back_iff (pg : Postgres) (frames : List (Frame pg)) (userId : SizeT)
    (small : userId.toNat < 2 ^ 31) :
    (∀ (earlier later : List Entry) (entry : Entry) (trelloToken : Bytes),
      (onMessages .empty frames).1 = earlier ++ entry :: later →
      entry.payload = (ClientRequest.setTrelloToken userId trelloToken).payload →
      (∃ opcode, entry.sent = [⟨opcode, .reply .success⟩]) →
      (∀ other ∈ later, ∀ latter, ¬ other.Sets userId latter) →
        ((∀ (service : Postgres) (reply : Reply),
          Replies service (onMessages .empty frames).2
            (ClientRequest.getTrelloToken userId).payload reply → reply ≠ .fail →
              reply.Gives (tokenDocument trelloToken)) ↔
          10 ∉ trelloToken ∧ ∀ other ∈ earlier, ∀ former, ¬ other.Sets userId former)) ∧
    ∀ (service : Postgres) (reply : Reply),
      Replies service (onMessages .empty frames).2
        (ClientRequest.getTrelloToken userId).payload reply → reply ≠ .fail →
          (reply.Gives .null ↔
            ∀ entry ∈ (onMessages .empty frames).1, ∀ trelloToken,
              ¬ entry.Sets userId trelloToken) := by
  have asks := spelled_getTrelloToken small
  obtain ⟨written, stored, valid⟩ := onMessages_tokenSet frames
  constructor
  · intro earlier later entry trelloToken ran payload success last
    have spelled := spelled_setTrelloToken userId trelloToken
    rw [← payload] at spelled
    have sets : entry.Sets userId (trelloToken.takeWhile (· != 10)) := ⟨spelled, success⟩
    constructor
    · intro readsBack
      obtain ⟨row, rest, found, fresh⟩ := first_token ran sets
      obtain ⟨member, same⟩ := List.mem_filter.mp
        (show row ∈ (onMessages .empty frames).2.userIdTrelloToken.filter
          (fun row => row.userId = userId.toNat) by simp [found])
      obtain ⟨document, value, read⟩ := getTrelloToken_first found (valid row member)
      have gives := readsBack Reference.postgres (.document document)
        ⟨[⟨true, 0⟩, ⟨true, 0⟩], .text, by
          rw [onMessage_call (dispatch_of_spelled asks), read]⟩ (by simp)
      have token : row.trelloToken = trelloToken :=
        (tokenDocument_inj.mp (gives.unique ⟨document, rfl, value⟩)).symm
      obtain ⟨setter, setterMember, user, -, setterSets⟩ := written row member
      have line := setterSets.1.oneLine rfl
      rw [token] at line
      exact ⟨line, fresh (token.trans (takeWhile_line.mpr line).symm)⟩
    · intro condition service reply replies answered
      obtain ⟨line, first⟩ := condition
      rw [takeWhile_line.mpr line] at sets
      obtain ⟨after, served⟩ := replies.served asks
      rcases served.token_gives answered with ⟨missing, -⟩ | ⟨row, member, same, gives⟩
      · have member : entry ∈ (onMessages .empty frames).1 := by simp [ran]
        exact absurd rfl (missing _ (stored entry member userId trelloToken sets))
      · obtain ⟨setter, setterMember, user, sameUser, setterSets⟩ := written row member
        cases UInt64.toNat_inj.mp (sameUser.trans same)
        rw [ran] at setterMember
        rcases List.mem_append.mp setterMember with older | newer
        · exact absurd setterSets (first setter older row.trelloToken)
        · rcases List.mem_cons.mp newer with rfl | newer
          · cases setterSets.1.unique sets.1
            exact gives
          · exact absurd setterSets (last setter newer row.trelloToken)
  · intro service reply replies answered
    obtain ⟨after, served⟩ := replies.served asks
    rcases served.token_gives answered with ⟨missing, gives⟩ | ⟨row, member, same, gives⟩
    · refine ⟨fun _ entry member trelloToken sets => ?_, fun _ => gives⟩
      exact absurd rfl (missing _ (stored entry member userId trelloToken sets))
    · constructor
      · intro null
        have equal := gives.unique null
        cases equal
      · intro unset
        obtain ⟨setter, setterMember, user, sameUser, setterSets⟩ := written row member
        cases UInt64.toNat_inj.mp (sameUser.trans same)
        exact absurd setterSets (unset setter setterMember row.trelloToken)

/-! A run that sets two tokens of one user. -/

def tokenRun : List (Frame Reference.postgres) :=
  [⟨(ClientRequest.addUser (ascii "ann")).payload, .text, List.replicate 3 ⟨true, 1⟩⟩,
    ⟨(ClientRequest.setTrelloToken 1 (ascii "old")).payload, .text,
      List.replicate 3 ⟨true, 0⟩⟩,
    ⟨(ClientRequest.setTrelloToken 1 (ascii "new")).payload, .text,
      List.replicate 3 ⟨true, 0⟩⟩]

private theorem tokenRun_sent :
    (onMessages .empty tokenRun).1.map (fun entry => entry.sent.map Message.payload) =
      List.replicate 3 [ascii "SUCCESS"] := by
  decide +kernel

private theorem tokenRun_tokens : (onMessages .empty tokenRun).2.userIdTrelloToken =
    [⟨1, ascii "old"⟩, ⟨1, ascii "new"⟩] := by
  decide +kernel

private theorem entry_success {frame : Frame pg} {store : Store} {call : Call}
    (spelled : Spelled frame.payload call)
    (sent : (frame.entry store).sent.map Message.payload = [ascii "SUCCESS"]) :
    (frame.entry store).Answered call .success := by
  obtain ⟨spelling, opcode, same⟩ := frame.entry_answered spelled store
  rw [same, List.map_singleton, List.singleton_inj] at sent
  rw [Reply.text_eq_success.mp sent] at same
  exact ⟨spelling, opcode, same⟩

/-- The entries of the run, with the answers to its two last requests. -/
private theorem tokenRun_entries : ∃ first second third : Entry,
    (onMessages .empty (tokenRun.take 2)).1 = [first, second] ∧
      (onMessages .empty tokenRun).1 = [first, second, third] ∧
      second.payload = (ClientRequest.setTrelloToken 1 (ascii "old")).payload ∧
      (∃ opcode, second.sent = [⟨opcode, .reply .success⟩]) ∧
      third.payload = (ClientRequest.setTrelloToken 1 (ascii "new")).payload ∧
      ∃ opcode, third.sent = [⟨opcode, .reply .success⟩] := by
  have sent := tokenRun_sent
  refine ⟨_, _, _, rfl, rfl, Frame.entry_payload _ _, ?_⟩
  simp only [tokenRun, onMessages, List.map_cons, List.map_nil, List.replicate,
    List.cons.injEq] at sent
  obtain ⟨-, old, new, -⟩ := sent
  have setOld := entry_success (spelled_setTrelloToken 1 (ascii "old")) old
  have setNew := entry_success (spelled_setTrelloToken 1 (ascii "new")) new
  exact ⟨setOld.2, Frame.entry_payload _ _, setNew.2⟩

theorem token_reads_back_old :
    ∃ first second : Entry, (onMessages .empty (tokenRun.take 2)).1 = [first, second] ∧
      second.payload = (ClientRequest.setTrelloToken 1 (ascii "old")).payload ∧
      ((∀ (service : Postgres) (reply : Reply),
        Replies service (onMessages .empty (tokenRun.take 2)).2
          (ClientRequest.getTrelloToken 1).payload reply → reply ≠ .fail →
            reply.Gives (tokenDocument (ascii "old"))) ↔
        10 ∉ ascii "old" ∧ ∀ other ∈ [first], ∀ former, ¬ other.Sets 1 former) := by
  obtain ⟨first, second, third, ran, -, payload, success, -⟩ := tokenRun_entries
  exact ⟨first, second, ran, payload,
    (token_reads_back_iff Reference.postgres (tokenRun.take 2) 1 (by decide)).1 [first] []
      second (ascii "old") ran payload success (fun _ member => absurd member List.not_mem_nil)⟩

/-- The token `new` was set last, and `old` is read. -/
theorem token_reads_old :
    ∃ (first second third : Entry) (reply : Reply),
      (onMessages .empty tokenRun).1 = [first, second] ++ third :: [] ∧
      validUtf8 (ascii "new") = true ∧ 0 ∉ ascii "new" ∧
      third.payload = (ClientRequest.setTrelloToken 1 (ascii "new")).payload ∧
      (∃ opcode, third.sent = [⟨opcode, .reply .success⟩]) ∧
      Replies Reference.postgres (onMessages .empty tokenRun).2
        (ClientRequest.getTrelloToken 1).payload reply ∧ reply ≠ .fail ∧
      reply.Gives (tokenDocument (ascii "old")) ∧
      ¬ reply.Gives (tokenDocument (ascii "new")) := by
  obtain ⟨first, second, third, -, ran, -, -, payload, success⟩ := tokenRun_entries
  have asks := spelled_getTrelloToken (show (1 : SizeT).toNat < 2 ^ 31 by decide)
  have found : (onMessages .empty tokenRun).2.userIdTrelloToken.filter
      (fun row => row.userId = (1 : SizeT).toNat) =
        [⟨1, ascii "old"⟩, ⟨1, ascii "new"⟩] := by
    rw [tokenRun_tokens]
    rfl
  obtain ⟨document, value, read⟩ := getTrelloToken_first found (by decide)
  refine ⟨first, second, third, .document document, ran, by decide, by decide, payload, success,
    ⟨[⟨true, 0⟩, ⟨true, 0⟩], .text, ?_⟩, by simp, ⟨document, rfl, value⟩, fun gives => ?_⟩
  · rw [onMessage_call (dispatch_of_spelled asks), read]
  · have equal := tokenDocument_inj.mp (gives.unique ⟨document, rfl, value⟩)
    exact absurd equal (by decide)

end BpkMessenger.Client
