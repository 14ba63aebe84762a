import BpkMessenger.Web.Url

namespace BpkMessenger.Web

open Text

/-! What a URL says once it is read: dot segments removed and every part decoded.
Parts that are put together as they are read back exactly when they are plain. -/

/-- The algorithm of section 5.2.4, on the segments of an absolute path. -/
def removeDotsFrom (output : List Bytes) : List Bytes → List Bytes
  | [] => output
  | segment :: rest =>
      if segment = ascii "." then
        if rest = [] then output ++ [[]] else removeDotsFrom output rest
      else if segment = ascii ".." then
        if rest = [] then output.dropLast ++ [[]] else removeDotsFrom output.dropLast rest
      else removeDotsFrom (output ++ [segment]) rest

def decodeParameter (parameter : Parameter) : Option Parameter := do
  let key ← decode isQuery parameter.1
  let value ← parameter.2.mapM (decode isQuery)
  return (key, value)

def Url.decoded (raw : Url) : Option Url :=
  if isScheme raw.scheme then do
    let authority ← decode isAuthority raw.authority
    let segments ← (removeDotsFrom [] raw.segments).mapM (decode isSegment)
    let query ← raw.query.mapM fun parameters => parameters.mapM decodeParameter
    let fragment ← raw.fragment.mapM (decode isQuery)
    return ⟨raw.scheme, authority, segments, query, fragment⟩
  else none

def Url.read (text : Bytes) : Option Url := do
  let raw ← split text
  raw.decoded

/-! Parts that stand for themselves. -/

def PlainSegment (segment : Bytes) : Prop :=
  (∀ byte ∈ segment, isSegment byte = true) ∧ segment ≠ ascii "." ∧ segment ≠ ascii ".."

/-- The value of a parameter: no `&`. -/
def PlainValue (value : Bytes) : Prop :=
  ∀ byte ∈ value, isQuery byte = true ∧ byte ≠ 38

/-- The name of a parameter: no `=` either. -/
def PlainKey (key : Bytes) : Prop :=
  ∀ byte ∈ key, isQuery byte = true ∧ byte ≠ 38 ∧ byte ≠ 61

instance (segment : Bytes) : Decidable (PlainSegment segment) :=
  inferInstanceAs (Decidable (_ ∧ _))

instance (value : Bytes) : Decidable (PlainValue value) :=
  inferInstanceAs (Decidable (∀ byte ∈ value, _))

instance (key : Bytes) : Decidable (PlainKey key) :=
  inferInstanceAs (Decidable (∀ byte ∈ key, _))

structure Url.Plain (url : Url) : Prop where
  scheme : isScheme url.scheme = true
  authority : ∀ byte ∈ url.authority, isAuthority byte = true
  segments : ∀ segment ∈ url.segments, PlainSegment segment
  parameters : ∀ parameters, url.query = some parameters → parameters ≠ [] ∧
    ∀ parameter ∈ parameters, PlainKey parameter.1 ∧
      ∀ value, parameter.2 = some value → PlainValue value
  fragment : ∀ fragment, url.fragment = some fragment → ∀ byte ∈ fragment,
    isQuery byte = true

/-! Reading never makes a part longer, and leaves it as long only if it leaves it as it
is. -/

/-- Something is kept and so is its length, or it becomes shorter. -/
def Shortens (kept : Prop) (after before : Nat) : Prop :=
  kept ∧ after = before ∨ after < before

namespace Shortens

variable {first second : Prop} {a b c d : Nat}

theorem le (shortens : Shortens first a b) : a ≤ b := by
  rcases shortens with ⟨-, same⟩ | shorter
  · exact same.le
  · exact shorter.le

theorem imp (implies : first → second) (shortens : Shortens first a b) :
    Shortens second a b :=
  shortens.imp_left fun kept => ⟨implies kept.1, kept.2⟩

theorem add (left : Shortens first a b) (right : Shortens second c d) :
    Shortens (first ∧ second) (a + c) (b + d) := by
  rcases left with ⟨kept, same⟩ | shorter
  · rcases right with ⟨alsoKept, alsoSame⟩ | shorter
    · exact .inl ⟨⟨kept, alsoKept⟩, by rw [same, alsoSame]⟩
    · exact .inr (by omega)
  · have bound := right.le
    exact .inr (by omega)

theorem trans (later : Shortens second a b) (earlier : Shortens first b c) :
    Shortens (first ∧ second) a c := by
  rcases earlier with ⟨kept, same⟩ | shorter
  · rw [← same]
    exact later.imp fun alsoKept => ⟨kept, alsoKept⟩
  · exact .inr (Nat.lt_of_le_of_lt later.le shorter)

theorem refl (a : Nat) : Shortens True a a :=
  .inl ⟨trivial, rfl⟩

theorem succ (shortens : Shortens first a b) : Shortens first (a + 1) (b + 1) :=
  (shortens.add (Shortens.refl 1)).imp And.left

theorem of_succ (shortens : Shortens first (a + 1) (b + 1)) : Shortens first a b := by
  rcases shortens with ⟨kept, same⟩ | shorter
  · exact .inl ⟨kept, Nat.succ.inj same⟩
  · exact .inr (Nat.lt_of_succ_lt_succ shorter)

theorem kept_of_eq (shortens : Shortens first a a) : first := by
  rcases shortens with ⟨kept, -⟩ | shorter
  · exact kept
  · exact absurd shorter (Nat.lt_irrefl a)

end Shortens

theorem decode_shortens {allowed : UInt8 → Bool} {text result : Bytes}
    (decoded : decode allowed text = some result) :
    Shortens (result = text ∧ ∀ byte ∈ text, allowed byte = true) result.length
      text.length := by
  fun_induction decode generalizing result with
  | case1 =>
      cases decoded
      exact .inl ⟨⟨rfl, by simp⟩, rfl⟩
  | case2 high low rest induction =>
      obtain ⟨first, -, decoded⟩ := Option.bind_eq_some_iff.mp decoded
      obtain ⟨second, -, decoded⟩ := Option.bind_eq_some_iff.mp decoded
      obtain ⟨others, read, same⟩ := Option.bind_eq_some_iff.mp decoded
      cases same
      have bound := (induction read).le
      refine .inr ?_
      simp only [List.length_cons]
      omega
  | case4 byte rest other allows induction =>
      obtain ⟨others, read, same⟩ := Option.bind_eq_some_iff.mp decoded
      cases same
      apply (induction read).succ.imp
      intro kept
      obtain ⟨rfl, all⟩ := kept
      exact ⟨rfl, List.forall_mem_cons.mpr ⟨allows, all⟩⟩
  | case3 => contradiction
  | case5 => contradiction

theorem decode_self {allowed : UInt8 → Bool} (percent : allowed 37 = false) {text : Bytes}
    (all : ∀ byte ∈ text, allowed byte = true) : decode allowed text = some text := by
  induction text with
  | nil => rfl
  | cons byte rest induction =>
      obtain ⟨first, others⟩ := List.forall_mem_cons.mp all
      have other : byte ≠ 37 := by
        intro same
        rw [same, percent] at first
        contradiction
      unfold decode
      rw [if_neg other, if_pos first, induction others]
      rfl

/-! The dot segments. -/

theorem length_pathText (segments : List Bytes) :
    (pathText segments).length = (segments.map fun segment => segment.length + 1).sum := by
  simp [pathText, List.length_flatMap]

theorem pathText_append (first second : List Bytes) :
    pathText (first ++ second) = pathText first ++ pathText second :=
  List.flatMap_append

theorem pathText_dropLast_le (segments : List Bytes) :
    (pathText segments.dropLast).length ≤ (pathText segments).length := by
  rcases List.eq_nil_or_concat segments with rfl | ⟨start, last, rfl⟩
  · exact Nat.le_refl _
  · rw [List.concat_eq_append, List.dropLast_concat, pathText_append, List.length_append]
    exact Nat.le_add_right _ _

theorem removeDotsFrom_shortens (output segments : List Bytes) :
    Shortens (removeDotsFrom output segments = output ++ segments ∧
        ∀ segment ∈ segments, segment ≠ ascii "." ∧ segment ≠ ascii "..")
      (pathText (removeDotsFrom output segments)).length
      ((pathText output).length + (pathText segments).length) := by
  induction segments generalizing output with
  | nil => exact .inl ⟨⟨(List.append_nil output).symm, by simp⟩, rfl⟩
  | cons segment rest induction =>
      have size : (pathText (segment :: rest)).length =
          segment.length + 1 + (pathText rest).length := by
        simp [length_pathText]
      have slash : ∀ start : List Bytes,
          (pathText (start ++ [[]])).length = (pathText start).length + 1 := by
        intro start
        rw [pathText_append, List.length_append]
        rfl
      have shorter := pathText_dropLast_le output
      rw [removeDotsFrom, size]
      by_cases single : segment = ascii "."
      · have length : segment.length = 1 := by
          rw [single]
          rfl
        rw [if_pos single]
        by_cases last : rest = []
        · rw [if_pos last, slash]
          exact .inr (by omega)
        · rw [if_neg last]
          have bound := (induction output).le
          exact .inr (by omega)
      · rw [if_neg single]
        by_cases double : segment = ascii ".."
        · have length : segment.length = 2 := by
            rw [double]
            rfl
          rw [if_pos double]
          by_cases last : rest = []
          · rw [if_pos last, slash]
            exact .inr (by omega)
          · rw [if_neg last]
            have bound := (induction output.dropLast).le
            exact .inr (by omega)
        · rw [if_neg double]
          have moved : (pathText (output ++ [segment])).length + (pathText rest).length =
              (pathText output).length + (segment.length + 1 + (pathText rest).length) := by
            simp only [length_pathText, List.map_append, List.sum_append, List.map_singleton,
              List.sum_singleton]
            omega
          have next := induction (output ++ [segment])
          rw [moved, List.append_assoc, List.singleton_append] at next
          apply next.imp
          intro kept
          exact ⟨kept.1, List.forall_mem_cons.mpr ⟨⟨single, double⟩, kept.2⟩⟩

theorem removeDotsFrom_self {segments : List Bytes}
    (plain : ∀ segment ∈ segments, segment ≠ ascii "." ∧ segment ≠ ascii "..")
    (output : List Bytes) : removeDotsFrom output segments = output ++ segments := by
  induction segments generalizing output with
  | nil => exact (List.append_nil output).symm
  | cons segment rest induction =>
      obtain ⟨⟨single, double⟩, others⟩ := List.forall_mem_cons.mp plain
      rw [removeDotsFrom, if_neg single, if_neg double, induction others, List.append_assoc,
        List.singleton_append]

section Lists

variable {α : Type} {f : α → Option α} {good : α → Prop} {size : α → Nat}
  (each : ∀ {x y}, f x = some y → Shortens (y = x ∧ good x) (size y) (size x))
include each

theorem mapM_shortens {xs ys : List α} (mapped : xs.mapM f = some ys) :
    Shortens (ys = xs ∧ ∀ x ∈ xs, good x) (ys.map size).sum (xs.map size).sum := by
  induction xs generalizing ys with
  | nil =>
      cases mapped
      exact .inl ⟨⟨rfl, by simp⟩, rfl⟩
  | cons x xs induction =>
      rw [List.mapM_cons] at mapped
      obtain ⟨y, first, mapped⟩ := Option.bind_eq_some_iff.mp mapped
      obtain ⟨rest, others, mapped⟩ := Option.bind_eq_some_iff.mp mapped
      cases mapped
      rw [List.map_cons, List.map_cons, List.sum_cons, List.sum_cons]
      apply ((each first).add (induction others)).imp
      intro kept
      obtain ⟨⟨rfl, head⟩, rfl, tail⟩ := kept
      exact ⟨rfl, List.forall_mem_cons.mpr ⟨head, tail⟩⟩

theorem optional_shortens {x y : Option α} (mapped : x.mapM f = some y) :
    Shortens (y = x ∧ ∀ value, x = some value → good value)
      (y.elim 0 fun value => size value + 1) (x.elim 0 fun value => size value + 1) := by
  cases x with
  | none =>
      cases mapped
      exact .inl ⟨⟨rfl, by simp⟩, rfl⟩
  | some value =>
      obtain ⟨result, read, rfl⟩ := Option.map_eq_some_iff.mp mapped
      apply (each read).succ.imp
      intro kept
      obtain ⟨rfl, holds⟩ := kept
      exact ⟨rfl, fun other same => by cases same; exact holds⟩

end Lists

/-! The parameters. -/

/-- The bytes of a parameter may stand for themselves in a query. -/
def Parameter.Allowed (parameter : Parameter) : Prop :=
  (∀ byte ∈ parameter.1, isQuery byte = true) ∧
    ∀ value, parameter.2 = some value → ∀ byte ∈ value, isQuery byte = true

theorem Parameter.length_text (parameter : Parameter) : parameter.text.length =
    parameter.1.length + parameter.2.elim 0 fun value => value.length + 1 := by
  obtain ⟨key, value⟩ := parameter
  cases value <;> simp [Parameter.text, joined]

theorem decodeParameter_shortens {parameter result : Parameter}
    (decoded : decodeParameter parameter = some result) :
    Shortens (result = parameter ∧ parameter.Allowed) result.text.length
      parameter.text.length := by
  obtain ⟨key, readKey, decoded⟩ := Option.bind_eq_some_iff.mp decoded
  obtain ⟨value, readValue, same⟩ := Option.bind_eq_some_iff.mp decoded
  cases same
  rw [Parameter.length_text, Parameter.length_text]
  apply ((decode_shortens readKey).add (optional_shortens decode_shortens readValue)).imp
  intro kept
  obtain ⟨⟨rfl, keys⟩, rfl, values⟩ := kept
  exact ⟨rfl, keys, values⟩

theorem length_queryText {parameters : List Parameter} (some : parameters ≠ []) :
    (queryText parameters).length + 1 =
      (parameters.map fun parameter => parameter.text.length + 1).sum := by
  rw [← List.length_cons (a := 38), queryText, cons_intercalate (by simpa using some)]
  simp [List.length_flatMap, Function.comp_def]

theorem queryText_shortens {parameters results : List Parameter}
    (decoded : parameters.mapM decodeParameter = some results) :
    Shortens (results = parameters ∧ ∀ parameter ∈ parameters, parameter.Allowed)
      (queryText results).length (queryText parameters).length := by
  have shortens := @mapM_shortens Parameter decodeParameter Parameter.Allowed
    (fun parameter => parameter.text.length + 1)
    (fun {_ _} read => (decodeParameter_shortens read).succ) _ _ decoded
  cases parameters with
  | nil =>
      cases decoded
      exact .inl ⟨⟨rfl, by simp⟩, rfl⟩
  | cons parameter rest =>
      have nonempty : results ≠ [] := by
        rw [List.mapM_cons] at decoded
        obtain ⟨first, -, decoded⟩ := Option.bind_eq_some_iff.mp decoded
        obtain ⟨others, -, same⟩ := Option.bind_eq_some_iff.mp decoded
        cases same
        exact List.cons_ne_nil _ _
      rw [← length_queryText nonempty, ← length_queryText (List.cons_ne_nil _ _)] at shortens
      exact shortens.of_succ

/-! The whole URL. -/

theorem Url.length_text (url : Url) : url.text.length =
    url.scheme.length + 3 + (url.authority.length + (pathText url.segments).length +
      (url.query.elim 0 fun parameters => (queryText parameters).length + 1) +
        url.fragment.elim 0 fun fragment => fragment.length + 1) := by
  obtain ⟨scheme, authority, segments, query, fragment⟩ := url
  cases query <;> cases fragment <;>
    simp [Url.text, Url.beforeFragment, Url.beforeQuery, joined] <;> omega

theorem Url.decoded_shortens {raw url : Url} (decoded : raw.decoded = some url) :
    Shortens (url = raw ∧ isScheme raw.scheme = true ∧
        (∀ byte ∈ raw.authority, isAuthority byte = true) ∧
        (∀ segment ∈ raw.segments, PlainSegment segment) ∧
        (∀ parameters, raw.query = some parameters →
          ∀ parameter ∈ parameters, parameter.Allowed) ∧
        ∀ fragment, raw.fragment = some fragment → ∀ byte ∈ fragment, isQuery byte = true)
      url.text.length raw.text.length := by
  unfold Url.decoded at decoded
  by_cases scheme : isScheme raw.scheme = true
  · rw [if_pos scheme] at decoded
    obtain ⟨authority, readAuthority, decoded⟩ := Option.bind_eq_some_iff.mp decoded
    obtain ⟨segments, readSegments, decoded⟩ := Option.bind_eq_some_iff.mp decoded
    obtain ⟨query, readQuery, decoded⟩ := Option.bind_eq_some_iff.mp decoded
    obtain ⟨fragment, readFragment, same⟩ := Option.bind_eq_some_iff.mp decoded
    cases same
    have path := @mapM_shortens Bytes (decode isSegment)
      (fun segment => ∀ byte ∈ segment, isSegment byte = true)
      (fun segment => segment.length + 1)
      (fun {_ _} read => (decode_shortens read).succ) _ _ readSegments
    have dots := removeDotsFrom_shortens [] raw.segments
    rw [← length_pathText, ← length_pathText] at path
    have nothing : (pathText []).length = 0 := rfl
    rw [nothing, Nat.zero_add, List.nil_append] at dots
    have parts := (((decode_shortens readAuthority).add (path.trans dots)).add
      (optional_shortens queryText_shortens readQuery)).add
        (optional_shortens decode_shortens readFragment)
    rw [Url.length_text, Url.length_text]
    apply ((Shortens.refl (raw.scheme.length + 3)).add parts).imp
    intro kept
    obtain ⟨-, ⟨⟨⟨rfl, authorities⟩, ⟨undotted, plain⟩, rfl, allowed⟩, rfl, parameters⟩, rfl,
      fragments⟩ := kept
    rw [undotted] at allowed ⊢
    exact ⟨rfl, scheme, authorities,
      fun segment member => ⟨allowed segment member, plain segment member⟩, parameters,
      fragments⟩
  · rw [if_neg scheme] at decoded
    contradiction

theorem PlainSegment.of_alphanumeric {text : Bytes}
    (all : ∀ byte ∈ text, isAlphanumeric byte = true) : PlainSegment text := by
  refine ⟨fun byte member => ?_, ?_, ?_⟩
  · rw [isSegment, all byte member]
    rfl
  · rintro rfl
    exact absurd (all 46 (by decide)) (by decide)
  · rintro rfl
    exact absurd (all 46 (by decide)) (by decide)

theorem PlainValue.of_alphanumeric {text : Bytes}
    (all : ∀ byte ∈ text, isAlphanumeric byte = true) : PlainValue text := by
  intro byte member
  have allowed := all byte member
  refine ⟨?_, ?_⟩
  · rw [isQuery, isSegment, allowed]
    rfl
  · rintro rfl
    exact absurd allowed (by decide)

theorem mapM_self {α : Type} {f : α → Option α} {xs : List α}
    (fixed : ∀ x ∈ xs, f x = some x) : xs.mapM f = some xs := by
  induction xs with
  | nil => rfl
  | cons x rest induction =>
      obtain ⟨first, others⟩ := List.forall_mem_cons.mp fixed
      rw [List.mapM_cons, first, induction others]
      rfl

theorem optional_self {α : Type} {f : α → Option α} {x : Option α}
    (fixed : ∀ value, x = some value → f value = some value) : x.mapM f = some x := by
  cases x with
  | none => rfl
  | some value => exact Option.map_eq_some_iff.mpr ⟨value, fixed value rfl, rfl⟩

theorem isScheme_mem {scheme : Bytes} (valid : isScheme scheme = true) {byte : UInt8}
    (member : byte ∈ scheme) :
    (isAlphanumeric byte || (ascii "+-.").contains byte) = true := by
  cases scheme with
  | nil => contradiction
  | cons first rest =>
      rw [isScheme, Bool.and_eq_true, List.all_eq_true] at valid
      rcases List.mem_cons.mp member with rfl | later
      · rw [isAlphanumeric, valid.1]
        rfl
      · exact valid.2 byte later

namespace Url.Plain

variable {url : Url} (plain : url.Plain)
include plain

theorem notMem_beforeQuery {byte : UInt8} (outside : isAuthority byte = false)
    (colon : byte ≠ 58) (slash : byte ≠ 47)
    (scheme : (isAlphanumeric byte || (ascii "+-.").contains byte) = false) :
    byte ∉ url.beforeQuery := by
  intro member
  have notSegment : isSegment byte = false := (Bool.or_eq_false_iff.mp outside).1
  rcases mem_joined.mp member with inScheme | ⟨rest, same, here⟩
  · have allowed := isScheme_mem plain.scheme inScheme
    rw [scheme] at allowed
    contradiction
  · cases same
    simp only [List.mem_cons, List.mem_append, colon, slash, false_or] at here
    rcases here with inAuthority | inPath
    · have allowed := plain.authority byte inAuthority
      rw [outside] at allowed
      contradiction
    · obtain ⟨segment, listed, here⟩ := mem_pathText.mp inPath
      have allowed := (plain.segments segment listed).1 byte (here.resolve_left slash)
      rw [notSegment] at allowed
      contradiction

theorem allowed {parameters : List Parameter} (same : url.query = some parameters)
    {parameter : Parameter} (member : parameter ∈ parameters) : parameter.Allowed := by
  obtain ⟨keys, values⟩ := (plain.parameters parameters same).2 parameter member
  exact ⟨fun byte inKey => (keys byte inKey).1,
    fun value valued byte inValue => (values value valued byte inValue).1⟩

theorem delimited : url.Delimited := by
  have noQuestion : 63 ∉ url.beforeQuery :=
    plain.notMem_beforeQuery (by decide) (by decide) (by decide) (by decide)
  have noHash : 35 ∉ url.beforeQuery :=
    plain.notMem_beforeQuery (by decide) (by decide) (by decide) (by decide)
  refine ⟨?_, noQuestion, ?_, ?_, ?_, ?_⟩
  · intro member
    rcases mem_joined.mp member with before | ⟨query, same, mark | inQuery⟩
    · exact noHash before
    · exact absurd mark (by decide)
    · obtain ⟨parameters, listed, rfl⟩ := Option.map_eq_some_iff.mp same
      rcases mem_queryText inQuery with ampersand | ⟨parameter, inParameters, inText⟩
      · exact absurd ampersand (by decide)
      · obtain ⟨keys, values⟩ := plain.allowed listed inParameters
        rcases mem_joined.mp inText with inKey | ⟨value, valued, equals | inValue⟩
        · exact absurd (keys 35 inKey) (by decide)
        · exact absurd equals (by decide)
        · exact absurd (values value valued 35 inValue) (by decide)
  · intro member
    exact absurd (isScheme_mem plain.scheme member) (by decide)
  · intro member
    exact absurd (plain.authority 47 member) (by decide)
  · intro segment listed member
    exact absurd ((plain.segments segment listed).1 47 member) (by decide)
  · intro parameters same
    obtain ⟨nonempty, each⟩ := plain.parameters parameters same
    refine ⟨nonempty, fun parameter listed => ?_⟩
    obtain ⟨keys, values⟩ := each parameter listed
    refine ⟨fun member => (keys 61 member).2.2 rfl, fun member => ?_⟩
    rcases mem_joined.mp member with inKey | ⟨value, valued, equals | inValue⟩
    · exact (keys 38 inKey).2.1 rfl
    · exact absurd equals (by decide)
    · exact (values value valued 38 inValue).2 rfl

theorem decoded_self : url.decoded = some url := by
  have path : (removeDotsFrom [] url.segments).mapM (decode isSegment) = some url.segments := by
    rw [removeDotsFrom_self fun segment member => (plain.segments segment member).2]
    exact mapM_self fun segment member =>
      decode_self (by decide) (plain.segments segment member).1
  have query : (url.query.mapM fun parameters => parameters.mapM decodeParameter) =
      some url.query := by
    refine optional_self fun parameters same => mapM_self fun parameter member => ?_
    obtain ⟨keys, values⟩ := plain.allowed same member
    have value : parameter.2.mapM (decode isQuery) = some parameter.2 :=
      optional_self fun value valued => decode_self (by decide) (values value valued)
    rw [decodeParameter, decode_self (by decide) keys, value]
    rfl
  have fragment : url.fragment.mapM (decode isQuery) = some url.fragment :=
    optional_self fun fragment same => decode_self (by decide) (plain.fragment fragment same)
  rw [Url.decoded, if_pos plain.scheme, decode_self (by decide) plain.authority, path, query,
    fragment]
  rfl

end Url.Plain

/-- Parts put together as they are read back as themselves exactly if they are plain. -/
theorem Url.read_text_iff {url : Url} : Url.read url.text = some url ↔ url.Plain := by
  constructor
  · intro reads
    obtain ⟨raw, found, decoded⟩ := Option.bind_eq_some_iff.mp reads
    obtain ⟨delimited, same⟩ := split_eq_some_iff.mp found
    have shortens := Url.decoded_shortens decoded
    rw [← same] at shortens
    obtain ⟨rfl, scheme, authority, segments, parameters, fragment⟩ := shortens.kept_of_eq
    refine ⟨scheme, authority, segments, fun listed query => ?_, fragment⟩
    obtain ⟨nonempty, free⟩ := delimited.parameters listed query
    refine ⟨nonempty, fun parameter member => ?_⟩
    obtain ⟨keys, values⟩ := parameters listed query parameter member
    obtain ⟨noEquals, noAmpersand⟩ := free parameter member
    refine ⟨fun byte inKey => ⟨keys byte inKey, ?_, ?_⟩,
      fun value valued byte inValue => ⟨values value valued byte inValue, ?_⟩⟩
    · rintro rfl
      exact noAmpersand (mem_joined.mpr (.inl inKey))
    · rintro rfl
      exact noEquals inKey
    · rintro rfl
      exact noAmpersand (mem_joined.mpr (.inr ⟨value, valued, .inr inValue⟩))
  · intro plain
    exact Option.bind_eq_some_iff.mpr
      ⟨url, split_eq_some_iff.mpr ⟨plain.delimited, rfl⟩, plain.decoded_self⟩

end BpkMessenger.Web
