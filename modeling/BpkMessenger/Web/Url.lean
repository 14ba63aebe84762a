import BpkMessenger.Text.Bytes

namespace BpkMessenger.Web

open Text

/-! The generic syntax of RFC 3986 for URLs that have an authority: the parts of a
text, and how the parts are read. -/

def isAlpha (byte : UInt8) : Bool :=
  (65 ≤ byte && byte ≤ 90) || (97 ≤ byte && byte ≤ 122)

def isAlphanumeric (byte : UInt8) : Bool :=
  isAlpha byte || isdigit byte

/-- What may stand for itself in a path segment: the unreserved characters, the
sub-delimiters, `:` and `@`. -/
def isSegment (byte : UInt8) : Bool :=
  isAlphanumeric byte || (ascii "-._~!$&'()*+,;=:@").contains byte

/-- The same in a query and in a fragment. -/
def isQuery (byte : UInt8) : Bool :=
  isSegment byte || (ascii "/?").contains byte

def isAuthority (byte : UInt8) : Bool :=
  isSegment byte || (ascii "[]").contains byte

def isScheme : Bytes → Bool
  | [] => false
  | byte :: rest => isAlpha byte &&
      rest.all fun byte => isAlphanumeric byte || (ascii "+-.").contains byte

def hexValue (byte : UInt8) : Option UInt8 :=
  if isdigit byte then some (byte - 48)
  else if 65 ≤ byte && byte ≤ 70 then some (byte - 55)
  else if 97 ≤ byte && byte ≤ 102 then some (byte - 87)
  else none

/-- Percent-decoding of a text of allowed bytes. -/
def decode (allowed : UInt8 → Bool) : Bytes → Option Bytes
  | [] => some []
  | byte :: rest =>
      if byte = 37 then
        match rest with
        | high :: low :: rest => do
            let high ← hexValue high
            let low ← hexValue low
            let rest ← decode allowed rest
            return (16 * high + low) :: rest
        | _ => none
      else if allowed byte then do
        let rest ← decode allowed rest
        return byte :: rest
      else none

/-! Splitting at a delimiter. -/

/-- What is before the first delimiter and, if there is one, what is after it. -/
def cut (delimiter : UInt8) : Bytes → Bytes × Option Bytes
  | [] => ([], none)
  | byte :: rest =>
      if byte = delimiter then ([], some rest)
      else
        let (before, after) := cut delimiter rest
        (byte :: before, after)

def joined (delimiter : UInt8) (before : Bytes) (after : Option Bytes) : Bytes :=
  before ++ after.elim [] fun rest => delimiter :: rest

theorem notMem_cut (delimiter : UInt8) (text : Bytes) :
    delimiter ∉ (cut delimiter text).1 := by
  induction text with
  | nil => exact List.not_mem_nil
  | cons byte rest induction =>
      rw [cut]
      by_cases here : byte = delimiter
      · rw [if_pos here]
        exact List.not_mem_nil
      · rw [if_neg here]
        exact List.not_mem_cons_of_ne_of_not_mem (Ne.symm here) induction

theorem joined_cut (delimiter : UInt8) (text : Bytes) :
    joined delimiter (cut delimiter text).1 (cut delimiter text).2 = text := by
  induction text with
  | nil => rfl
  | cons byte rest induction =>
      rw [cut]
      by_cases here : byte = delimiter
      · rw [if_pos here, here]
        rfl
      · rw [if_neg here]
        exact congrArg (byte :: ·) induction

theorem cut_joined {delimiter : UInt8} {before : Bytes} (free : delimiter ∉ before)
    (after : Option Bytes) : cut delimiter (joined delimiter before after) = (before, after) := by
  induction before with
  | nil =>
      cases after with
      | none => rfl
      | some rest => exact if_pos rfl
  | cons byte before induction =>
      have other := List.ne_of_not_mem_cons free
      have rest := induction (List.not_mem_of_not_mem_cons free)
      rw [joined] at rest ⊢
      rw [List.cons_append, cut, if_neg (Ne.symm other), rest]

theorem cut_eq_iff {delimiter : UInt8} {text before : Bytes} {after : Option Bytes} :
    cut delimiter text = (before, after) ↔
      delimiter ∉ before ∧ text = joined delimiter before after := by
  constructor
  · intro same
    have free := notMem_cut delimiter text
    have whole := joined_cut delimiter text
    rw [same] at free whole
    exact ⟨free, whole.symm⟩
  · intro parts
    obtain ⟨free, rfl⟩ := parts
    exact cut_joined free after

theorem cons_intercalate {delimiter : UInt8} {pieces : List Bytes} (some : pieces ≠ []) :
    delimiter :: [delimiter].intercalate pieces =
      pieces.flatMap fun piece => delimiter :: piece := by
  induction pieces with
  | nil => contradiction
  | cons piece rest induction =>
      cases rest with
      | nil => simp
      | cons next rest =>
          rw [List.intercalate_cons_cons, List.flatMap_cons, ← induction (by simp)]
          simp

theorem mem_splitOn {delimiter : UInt8} {text piece : Bytes}
    (member : piece ∈ text.splitOn delimiter) :
    delimiter ∉ piece ∧ ∀ byte ∈ piece, byte ∈ text := by
  induction text generalizing piece with
  | nil =>
      rw [List.splitOn_nil, List.mem_singleton] at member
      simp [member]
  | cons byte rest induction =>
      rw [List.splitOn_cons_eq_if_modifyHead] at member
      split at member
      · rcases List.mem_cons.mp member with rfl | later
        · simp
        · obtain ⟨free, inside⟩ := induction later
          exact ⟨free, fun other inPiece => List.mem_cons_of_mem _ (inside other inPiece)⟩
      · next other =>
          cases pieces : rest.splitOn delimiter with
          | nil => simp [pieces] at member
          | cons first others =>
              rw [pieces, List.modifyHead_cons, List.mem_cons] at member
              rcases member with rfl | later
              · obtain ⟨free, inside⟩ := @induction first (by simp [pieces])
                refine ⟨?_, ?_⟩
                · exact List.not_mem_cons_of_ne_of_not_mem
                    (fun same => other (beq_iff_eq.mpr same.symm)) free
                · intro value inPiece
                  rcases List.mem_cons.mp inPiece with rfl | inFirst
                  · exact List.mem_cons_self
                  · exact List.mem_cons_of_mem _ (inside value inFirst)
              · obtain ⟨free, inside⟩ := @induction piece (by simp [pieces, later])
                exact ⟨free, fun value inPiece => List.mem_cons_of_mem _ (inside value inPiece)⟩

/-! The parts of a URL. -/

/-- A parameter without `=` has no value. -/
abbrev Parameter := Bytes × Option Bytes

structure Url where
  scheme : Bytes
  authority : Bytes
  segments : List Bytes
  query : Option (List Parameter)
  fragment : Option Bytes
  deriving DecidableEq, Repr

def Parameter.text (parameter : Parameter) : Bytes :=
  joined 61 parameter.1 parameter.2

def pathText (segments : List Bytes) : Bytes :=
  segments.flatMap fun segment => 47 :: segment

def queryText (parameters : List Parameter) : Bytes :=
  [38].intercalate (parameters.map Parameter.text)

/-! The parts put together as they are, with nothing encoded. -/

def Url.beforeQuery (url : Url) : Bytes :=
  joined 58 url.scheme (some (47 :: 47 :: (url.authority ++ pathText url.segments)))

def Url.beforeFragment (url : Url) : Bytes :=
  joined 63 url.beforeQuery (url.query.map queryText)

def Url.text (url : Url) : Bytes :=
  joined 35 url.beforeFragment url.fragment

/-- The parts between the delimiters; the query is taken as `&`-separated parameters. -/
def split (text : Bytes) : Option Url :=
  let (rest, fragment) := cut 35 text
  let (rest, query) := cut 63 rest
  let (scheme, rest) := cut 58 rest
  match rest with
  | some (47 :: 47 :: rest) =>
      let (authority, path) := cut 47 rest
      some {
        scheme := scheme
        authority := authority
        segments := path.elim [] fun path => path.splitOn 47
        query := query.map fun query => (query.splitOn 38).map (cut 61)
        fragment := fragment }
  | _ => none

/-- No part contains the byte that ends it. -/
structure Url.Delimited (url : Url) : Prop where
  fragment : 35 ∉ url.beforeFragment
  query : 63 ∉ url.beforeQuery
  scheme : 58 ∉ url.scheme
  authority : 47 ∉ url.authority
  segments : ∀ segment ∈ url.segments, 47 ∉ segment
  parameters : ∀ parameters, url.query = some parameters → parameters ≠ [] ∧
    ∀ parameter ∈ parameters, 61 ∉ parameter.1 ∧ 38 ∉ parameter.text

/-! The path and the query are lists of pieces. -/

theorem pathText_splitOn (path : Bytes) : pathText (path.splitOn 47) = 47 :: path := by
  rw [pathText, ← cons_intercalate (List.splitOn_ne_nil 47 path), List.intercalate_splitOn]

theorem queryText_splitOn (query : Bytes) :
    queryText ((query.splitOn 38).map (cut 61)) = query := by
  have whole : Parameter.text ∘ cut 61 = id := funext fun piece => joined_cut 61 piece
  rw [queryText, List.map_map, whole, List.map_id, List.intercalate_splitOn]

theorem splitOn_pathText {segments : List Bytes} {path : Bytes}
    (free : ∀ segment ∈ segments, 47 ∉ segment) (same : pathText segments = 47 :: path) :
    path.splitOn 47 = segments := by
  have some : segments ≠ [] := by
    intro none
    rw [none] at same
    contradiction
  rw [pathText, ← cons_intercalate some, List.cons.injEq] at same
  rw [← same.2, List.splitOn_intercalate 47 free some]

theorem splitOn_queryText {parameters : List Parameter} (some : parameters ≠ [])
    (keys : ∀ parameter ∈ parameters, 61 ∉ parameter.1)
    (pieces : ∀ parameter ∈ parameters, 38 ∉ parameter.text) :
    ((queryText parameters).splitOn 38).map (cut 61) = parameters := by
  rw [queryText, List.splitOn_intercalate 38]
  · rw [List.map_map]
    conv_rhs => rw [← List.map_id parameters]
    apply List.map_congr_left
    intro parameter member
    exact cut_joined (keys parameter member) parameter.2
  · intro piece member
    obtain ⟨parameter, listed, rfl⟩ := List.mem_map.mp member
    exact pieces parameter listed
  · simpa using some

theorem mem_joined {delimiter byte : UInt8} {before : Bytes} {after : Option Bytes} :
    byte ∈ joined delimiter before after ↔
      byte ∈ before ∨ ∃ rest, after = some rest ∧ (byte = delimiter ∨ byte ∈ rest) := by
  cases after <;> simp [joined]

theorem mem_pathText {byte : UInt8} {segments : List Bytes} :
    byte ∈ pathText segments ↔ ∃ segment ∈ segments, byte = 47 ∨ byte ∈ segment := by
  simp [pathText]

theorem mem_queryText {byte : UInt8} {parameters : List Parameter}
    (member : byte ∈ queryText parameters) :
    byte = 38 ∨ ∃ parameter ∈ parameters, byte ∈ parameter.text := by
  by_cases none : parameters = []
  · simp [none, queryText] at member
  · have inside := List.mem_cons_of_mem 38 member
    rw [queryText, cons_intercalate (by simpa using none), List.mem_flatMap] at inside
    obtain ⟨piece, listed, inPiece⟩ := inside
    obtain ⟨parameter, inParameters, rfl⟩ := List.mem_map.mp listed
    exact (List.mem_cons.mp inPiece).imp_right fun inText => ⟨parameter, inParameters, inText⟩

/-- The parts that a text is split into are the only delimited ones that make it up. -/
theorem split_eq_some_iff {text : Bytes} {url : Url} :
    split text = some url ↔ url.Delimited ∧ text = url.text := by
  constructor
  · intro found
    rcases first : cut 35 text with ⟨beforeFragment, fragment⟩
    rcases second : cut 63 beforeFragment with ⟨beforeQuery, query⟩
    rcases third : cut 58 beforeQuery with ⟨scheme, rest⟩
    simp only [split, first, second, third] at found
    split at found
    · next hierarchy =>
        rcases fourth : cut 47 hierarchy with ⟨authority, path⟩
        simp only [fourth, Option.some.injEq] at found
        subst found
        obtain ⟨noHash, rfl⟩ := cut_eq_iff.mp first
        obtain ⟨noQuestion, rfl⟩ := cut_eq_iff.mp second
        obtain ⟨noColon, rfl⟩ := cut_eq_iff.mp third
        obtain ⟨noSlash, rfl⟩ := cut_eq_iff.mp fourth
        have pathSame : pathText (path.elim [] fun path => path.splitOn 47) =
            path.elim [] fun rest => 47 :: rest := by
          cases path with
          | none => rfl
          | some path => exact pathText_splitOn path
        have querySame : (query.map fun query => (query.splitOn 38).map (cut 61)).map
            queryText = query := by
          cases query with
          | none => rfl
          | some query => exact congrArg some (queryText_splitOn query)
        have before : Url.beforeQuery
            ⟨scheme, authority, path.elim [] fun path => path.splitOn 47,
              query.map fun query => (query.splitOn 38).map (cut 61), fragment⟩ =
              joined 58 scheme (some (47 :: 47 :: joined 47 authority path)) := by
          rw [Url.beforeQuery, pathSame, joined]
          rfl
        refine ⟨⟨?_, ?_, noColon, noSlash, ?_, ?_⟩, ?_⟩
        · rw [Url.beforeFragment, before, querySame]
          exact noHash
        · rw [before]
          exact noQuestion
        · intro segment member
          cases path with
          | none => exact absurd member List.not_mem_nil
          | some path => exact (mem_splitOn member).1
        · intro parameters same
          obtain ⟨pieces, -, rfl⟩ := Option.map_eq_some_iff.mp same
          refine ⟨by simp, fun parameter member => ?_⟩
          obtain ⟨piece, listed, rfl⟩ := List.mem_map.mp member
          refine ⟨notMem_cut 61 piece, ?_⟩
          rw [Parameter.text, joined_cut]
          exact (mem_splitOn listed).1
        · rw [Url.text, Url.beforeFragment, before, querySame]
    · contradiction
  · intro parts
    obtain ⟨delimited, rfl⟩ := parts
    have querySame : ((url.query.map queryText).map fun query =>
        (query.splitOn 38).map (cut 61)) = url.query := by
      cases parameters : url.query with
      | none => rfl
      | some listed =>
          obtain ⟨nonempty, free⟩ := delimited.parameters listed parameters
          exact congrArg some (splitOn_queryText nonempty
            (fun parameter member => (free parameter member).1)
            fun parameter member => (free parameter member).2)
    have first : cut 35 url.text = (url.beforeFragment, url.fragment) :=
      cut_joined delimited.fragment url.fragment
    have second : cut 63 url.beforeFragment = (url.beforeQuery, url.query.map queryText) :=
      cut_joined delimited.query (url.query.map queryText)
    have third := cut_joined delimited.scheme
      (some (47 :: 47 :: (url.authority ++ pathText url.segments)))
    rw [← Url.beforeQuery] at third
    simp only [split, first, second, third, querySame]
    have slashFree := delimited.segments
    obtain ⟨scheme, authority, segments, query, fragment⟩ := url
    cases segments with
    | nil =>
        have fourth : cut 47 (authority ++ pathText []) = (authority, none) :=
          cut_joined delimited.authority none
        rw [fourth]
        rfl
    | cons segment rest =>
        have fourth : cut 47 (authority ++ pathText (segment :: rest)) =
            (authority, some (segment ++ pathText rest)) :=
          cut_joined delimited.authority (some (segment ++ pathText rest))
        have pieces : (segment ++ pathText rest).splitOn 47 = segment :: rest :=
          splitOn_pathText slashFree rfl
        rw [fourth, Option.elim_some, pieces]

end BpkMessenger.Web
