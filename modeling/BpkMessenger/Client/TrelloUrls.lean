import BpkMessenger.Client.Handlers
import BpkMessenger.Web.Plain

namespace BpkMessenger.Client

open Text Web

/-! The requests to Trello as URLs: what a token written into them makes of them. -/

/-- The URL of a request to the API, by its path and its parameters. -/
def trelloUrl (segments : List Bytes) (parameters : List (Bytes × Bytes)) : Url where
  scheme := ascii "https"
  authority := ascii "api.trello.com"
  segments := ascii "1" :: segments
  query := some (parameters.map fun parameter => (parameter.1, some parameter.2))
  fragment := none

namespace Trello

variable (trello : Trello) (boardId memberId token : Bytes)

/-! What each request is meant to ask for. -/

def member : Url :=
  trelloUrl [ascii "tokens", token, ascii "member"]
    [(ascii "key", trello.apiKey), (ascii "token", token)]

def boards : Url :=
  trelloUrl [ascii "members", memberId, ascii "boards"]
    [(ascii "key", trello.apiKey), (ascii "token", token)]

def invite : Url :=
  trelloUrl [ascii "boards", boardId, ascii "members", memberId]
    [(ascii "key", trello.apiKey), (ascii "token", token), (ascii "type", ascii "admin")]

def board : Url :=
  trelloUrl [ascii "boards", boardId]
    [(ascii "key", trello.apiKey), (ascii "token", token)]

theorem memberUrl_eq : trello.memberUrl token = (trello.member token).text := by
  simp [memberUrl, member, api, trelloUrl, Url.text, Url.beforeFragment, Url.beforeQuery,
    joined, pathText, queryText, Parameter.text, ascii]

theorem boardsUrl_eq :
    trello.boardsUrl memberId token = (trello.boards memberId token).text := by
  simp [boardsUrl, boards, api, trelloUrl, Url.text, Url.beforeFragment, Url.beforeQuery,
    joined, pathText, queryText, Parameter.text, ascii]

theorem inviteUrl_eq :
    trello.inviteUrl boardId memberId token = (trello.invite boardId memberId token).text := by
  simp [inviteUrl, invite, api, trelloUrl, Url.text, Url.beforeFragment, Url.beforeQuery,
    joined, pathText, queryText, Parameter.text, ascii]

theorem boardUrl_eq : trello.boardUrl boardId token = (trello.board boardId token).text := by
  simp [boardUrl, board, api, trelloUrl, Url.text, Url.beforeFragment, Url.beforeQuery,
    joined, pathText, queryText, Parameter.text, ascii]

end Trello

theorem plain_trelloUrl_iff {segments : List Bytes} {parameters : List (Bytes × Bytes)} :
    (trelloUrl segments parameters).Plain ↔ parameters ≠ [] ∧
      (∀ segment ∈ segments, PlainSegment segment) ∧
        ∀ parameter ∈ parameters, PlainKey parameter.1 ∧ PlainValue parameter.2 := by
  constructor
  · intro plain
    obtain ⟨some, each⟩ := plain.parameters _ rfl
    refine ⟨by simpa using some, fun segment member => ?_, fun parameter member => ?_⟩
    · exact plain.segments segment (List.mem_cons_of_mem _ member)
    · obtain ⟨key, value⟩ := each _ (List.mem_map_of_mem member)
      exact ⟨key, value parameter.2 rfl⟩
  · intro plain
    obtain ⟨some, path, each⟩ := plain
    have scheme : isScheme (ascii "https") = true := by decide +kernel
    have authority : ∀ byte ∈ ascii "api.trello.com", isAuthority byte = true := by decide +kernel
    refine ⟨scheme, authority, ?_, ?_, fun fragment same => nomatch same⟩
    · exact List.forall_mem_cons.mpr ⟨by decide +kernel, path⟩
    · intro others same
      cases same
      refine ⟨by simpa using some, fun parameter member => ?_⟩
      obtain ⟨given, listed, rfl⟩ := List.mem_map.mp member
      obtain ⟨key, value⟩ := each given listed
      exact ⟨key, fun read same => by cases same; exact value⟩

/-- Each URL asks for what it is meant to exactly if the token is plain where it
stands: as a segment and as a value in the first, as a value in the others. -/
theorem trelloUrls_read_iff (trello : Trello) (boardId memberId token : Bytes)
    (key : ∀ byte ∈ trello.apiKey, isAlphanumeric byte = true)
    (board : ∀ byte ∈ boardId, isAlphanumeric byte = true)
    (member : ∀ byte ∈ memberId, isAlphanumeric byte = true) :
    (Url.read (trello.memberUrl token) = some (trello.member token) ↔
      PlainSegment token ∧ PlainValue token) ∧
    (Url.read (trello.boardsUrl memberId token) = some (trello.boards memberId token) ↔
      PlainValue token) ∧
    (Url.read (trello.inviteUrl boardId memberId token) =
        some (trello.invite boardId memberId token) ↔ PlainValue token) ∧
    (Url.read (trello.boardUrl boardId token) = some (trello.board boardId token) ↔
      PlainValue token) := by
  have keyValue := PlainValue.of_alphanumeric key
  have boardSegment := PlainSegment.of_alphanumeric board
  have memberSegment := PlainSegment.of_alphanumeric member
  have words : ∀ word ∈ [ascii "tokens", ascii "member", ascii "members", ascii "boards"],
      PlainSegment word := by decide +kernel
  have names : ∀ name ∈ [ascii "key", ascii "token", ascii "type"], PlainKey name := by
    decide +kernel
  have admin : PlainValue (ascii "admin") := by decide +kernel
  simp only [List.forall_mem_cons, List.not_mem_nil, false_imp_iff, implies_true, and_true]
    at words names
  obtain ⟨tokens, memberWord, members, boards⟩ := words
  obtain ⟨keyName, tokenName, typeName⟩ := names
  refine ⟨?_, ?_, ?_, ?_⟩
  · rw [Trello.memberUrl_eq, Url.read_text_iff, Trello.member, plain_trelloUrl_iff]
    simp [tokens, memberWord, keyName, tokenName, keyValue]
  · rw [Trello.boardsUrl_eq, Url.read_text_iff, Trello.boards, plain_trelloUrl_iff]
    simp [members, boards, memberSegment, keyName, tokenName, keyValue]
  · rw [Trello.inviteUrl_eq, Url.read_text_iff, Trello.invite, plain_trelloUrl_iff]
    simp [members, boards, boardSegment, memberSegment, keyName, tokenName, typeName, keyValue,
      admin]
  · rw [Trello.boardUrl_eq, Url.read_text_iff, Trello.board, plain_trelloUrl_iff]
    simp [boards, boardSegment, keyName, tokenName, keyValue]

/-- An application with the key `k1`. -/
def keyed : Trello :=
  ⟨ascii "k1", fun _ => .error .parseError⟩

theorem trelloUrls_read_t1 :
    Url.read (keyed.memberUrl (ascii "t1")) = some (keyed.member (ascii "t1")) ∧
    Url.read (keyed.boardsUrl (ascii "m1") (ascii "t1")) =
      some (keyed.boards (ascii "m1") (ascii "t1")) ∧
    Url.read (keyed.inviteUrl (ascii "b1") (ascii "m1") (ascii "t1")) =
      some (keyed.invite (ascii "b1") (ascii "m1") (ascii "t1")) ∧
    Url.read (keyed.boardUrl (ascii "b1") (ascii "t1")) =
      some (keyed.board (ascii "b1") (ascii "t1")) := by
  obtain ⟨member, boards, invite, board⟩ :=
    trelloUrls_read_iff keyed (ascii "b1") (ascii "m1") (ascii "t1")
      (by decide +kernel) (by decide +kernel) (by decide +kernel)
  have plain : PlainSegment (ascii "t1") ∧ PlainValue (ascii "t1") := by decide +kernel
  exact ⟨member.mpr plain, boards.mpr plain.2, invite.mpr plain.2, board.mpr plain.2⟩

/-- The token `a&b` is read as the token `a` and one more parameter. -/
theorem memberUrl_reads_more :
    ascii "a&b" ≠ [] ∧ (∀ byte ∈ keyed.apiKey, isAlphanumeric byte = true) ∧
    Url.read (keyed.memberUrl (ascii "a&b")) = some { keyed.member (ascii "a&b") with
      query := some [(ascii "key", some (ascii "k1")), (ascii "token", some (ascii "a")),
        (ascii "b", none)] } ∧
    Url.read (keyed.memberUrl (ascii "a&b")) ≠ some (keyed.member (ascii "a&b")) := by
  have reads : Url.read (keyed.memberUrl (ascii "a&b")) = some { keyed.member (ascii "a&b") with
      query := some [(ascii "key", some (ascii "k1")), (ascii "token", some (ascii "a")),
        (ascii "b", none)] } := by
    decide +kernel
  refine ⟨by decide +kernel, by decide +kernel, reads, ?_⟩
  rw [reads]
  decide +kernel

end BpkMessenger.Client
