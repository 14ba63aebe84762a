import BpkMessenger.Server.Dispatch

namespace BpkMessenger.Server

open Text

/-! Which payloads are read as which calls, said without the readers. -/

theorem ofInt_natCast (n : Nat) : UInt64.ofInt (n : Int) = UInt64.ofNat n := by
  have reduced : ((n : Int) % 2 ^ 64).toNat = n % 2 ^ 64 := by omega
  rw [UInt64.ofInt, reduced]
  exact UInt64.ofNat_mod_size

theorem ofInt_toNat (id : SizeT) : UInt64.ofInt (id.toNat : Int) = id := by
  rw [ofInt_natCast, UInt64.ofNat_toNat]

theorem readsInteger_stdToString (id : SizeT) :
    ReadsInteger (stdToString id) id.toNat [] := by
  simpa [stdToString] using @readsInteger_decimal id.toNat [] (by simp)

inductive ReadsTwo : Bytes → SizeT → SizeT → Bytes → Prop
  | intro {text between rest : Bytes} {first second : Int}
      (readsFirst : ReadsInteger text first between)
      (firstFits : first.natAbs < 2 ^ 64)
      (readsSecond : ReadsInteger between second rest)
      (secondFits : second.natAbs < 2 ^ 64) :
      ReadsTwo text (UInt64.ofInt first) (UInt64.ofInt second) rest

private theorem ofString_good (text : Bytes) :
    (StringStream.ofString text).good = true := rfl

private theorem extract_two {text rest : Bytes} {first second : SizeT}
    (reads : ReadsTwo text first second rest) :
    ∃ stream consumed,
      (StringStream.ofString text).extract 0 = (first, stream) ∧
        stream.extract 0 = (second, ⟨consumed, rest, rest.isEmpty, false⟩) := by
  cases reads with
  | @intro between _ first second readsFirst firstFits readsSecond secondFits =>
      obtain ⟨consumed, extracted⟩ :=
        StringStream.extract_numeral (ofString_good text) readsFirst firstFits 0
      have good : (⟨consumed, between, between.isEmpty, false⟩ :
          StringStream).good = true := by
        simpa [StringStream.good] using readsSecond.ne_nil
      obtain ⟨taken, extractedSecond⟩ :=
        StringStream.extract_numeral good readsSecond secondFits 0
      exact ⟨_, taken, extracted, extractedSecond⟩

private theorem extract_two_failed {text : Bytes}
    (fails : ∀ first second rest, ¬ ReadsTwo text first second rest) :
    (((StringStream.ofString text).extract 0).2.extract 0).2.failbit = true := by
  by_cases first : ∃ value rest, ReadsInteger text value rest ∧ value.natAbs < 2 ^ 64
  · obtain ⟨value, between, readsFirst, firstFits⟩ := first
    obtain ⟨consumed, extracted⟩ :=
      StringStream.extract_numeral (ofString_good text) readsFirst firstFits 0
    rw [extracted]
    apply StringStream.extract_failed
    intro second rest readsSecond secondFits
    exact fails _ _ _ ⟨readsFirst, firstFits, readsSecond, secondFits⟩
  · have failed : ((StringStream.ofString text).extract 0).2.failbit = true := by
      apply StringStream.extract_failed
      intro value rest reads fits
      exact first ⟨value, rest, reads, fits⟩
    rw [StringStream.extract_bad (StringStream.bad_of_failbit failed)]

theorem addMessageArguments_of_reads {text messageText : Bytes} {skipped : UInt8}
    {chatId senderId : SizeT}
    (reads : ReadsTwo text chatId senderId (skipped :: messageText)) :
    addMessageArguments text =
      .ok (.call (.addMessage chatId senderId messageText)) := by
  obtain ⟨stream, consumed, extracted, extractedSender⟩ := extract_two reads
  have good : (⟨consumed ++ [skipped], messageText, false, false⟩ :
      StringStream).good = true := rfl
  simp only [addMessageArguments, extracted, extractedSender]
  change (do
    let messageText ← substr _ _
    return Request.call (.addMessage chatId senderId messageText)) = _
  exact congrArg (· >>= _) (StringStream.substr_tellg good)

theorem reads_of_addMessageArguments {text : Bytes} {request : Request}
    (returned : addMessageArguments text = .ok request) :
    ∃ chatId senderId skipped messageText,
      ReadsTwo text chatId senderId (skipped :: messageText) ∧
        request = .call (.addMessage chatId senderId messageText) := by
  by_cases two : ∃ first second rest, ReadsTwo text first second rest
  · obtain ⟨chatId, senderId, rest, reads⟩ := two
    cases rest with
    | nil =>
        obtain ⟨stream, consumed, extracted, extractedSender⟩ := extract_two reads
        simp only [addMessageArguments, extracted, extractedSender] at returned
        rw [StringStream.ignore_bad rfl, StringStream.substr_tellg_failed rfl]
          at returned
        contradiction
    | cons skipped messageText =>
        rw [addMessageArguments_of_reads reads] at returned
        cases returned
        exact ⟨chatId, senderId, skipped, messageText, reads, rfl⟩
  · have failed := extract_two_failed (fun first second rest reads =>
      two ⟨first, second, rest, reads⟩)
    simp only [addMessageArguments] at returned
    rw [StringStream.ignore_bad (StringStream.bad_of_failbit failed),
      StringStream.substr_tellg_failed rfl] at returned
    contradiction

/-- How `link_user_to_chat` reads its two ids; what is missing is 0. -/
inductive LinkArguments : Bytes → SizeT → SizeT → Prop
  | two {text rest : Bytes} {userId chatId : SizeT} {left : Option Bytes}
      (user : Extracts text userId (some rest)) (chat : Extracts rest chatId left) :
      LinkArguments text userId chatId
  | one {text : Bytes} {userId : SizeT} (user : Extracts text userId none) :
      LinkArguments text userId 0

/-- How `set_trello_token` reads an id, skips a byte and reads a line. -/
inductive TokenArguments : Bytes → SizeT → Bytes → Prop
  | line {text rest : Bytes} {userId : SizeT}
      (user : Extracts text userId (some rest)) :
      TokenArguments text userId ((rest.drop 1).takeWhile (· != 10))
  | none {text : Bytes} {userId : SizeT} (user : Extracts text userId none) :
      TokenArguments text userId []

/-- The first extraction finds a number and leaves the rest, or fails for good. -/
private theorem extracts_first (text : Bytes) {found : SizeT} {ss : StringStream}
    (extracted : (StringStream.ofString text).extract 0 = (found, ss)) :
    ss.failbit = true ∧
        (∀ value left, Extracts text value left ↔ value = found ∧ left = none) ∨
      ss.failbit = false ∧ ss.eofbit = ss.rest.isEmpty ∧
        ∀ value left, Extracts text value left ↔ value = found ∧ left = some ss.rest := by
  have atEnd := StringStream.extract_eofbit (ofString_good text) 0
  have extracts (value : SizeT) (left : Option Bytes) :
      Extracts text value left ↔ value = found ∧ left = ss.left := by
    have reads : Extracts text value left ↔
        value = ((StringStream.ofString text).extract 0).1 ∧
          left = ((StringStream.ofString text).extract 0).2.left :=
      extracts_iff (ofString_good text)
    rwa [extracted] at reads
  rw [extracted] at atEnd
  cases failed : ss.failbit with
  | true =>
      have none : ss.left = none := by rw [StringStream.left, failed, if_pos rfl]
      exact .inl ⟨rfl, none ▸ extracts⟩
  | false =>
      have some : ss.left = some ss.rest := by
        rw [StringStream.left, failed, if_neg Bool.false_ne_true]
      exact .inr ⟨rfl, atEnd, some ▸ extracts⟩

private theorem extracts_nil {value : SizeT} {left : Option Bytes}
    (extracts : Extracts [] value left) : value = 0 := by
  generalize empty : ([] : Bytes) = text at extracts
  cases extracts with
  | numeral reads fits => exact absurd empty.symm reads.ne_nil
  | tooLarge reads large => exact absurd empty.symm reads.ne_nil
  | missing missing => rfl

private theorem extracts_second {ss : StringStream} (unfailed : ss.failbit = false)
    (atEnd : ss.eofbit = ss.rest.isEmpty) {value : SizeT} :
    (∃ left, Extracts ss.rest value left) ↔ value = (ss.extract 0).1 := by
  cases rest : ss.rest with
  | nil =>
      have bad : ss.good = false := by
        simp [StringStream.good, atEnd, rest]
      rw [StringStream.extract_bad bad]
      constructor
      · rintro ⟨left, extracts⟩
        exact extracts_nil extracts
      · rintro rfl
        exact ⟨none, .missing fun value rest reads => reads.ne_nil rfl⟩
  | cons byte tail =>
      have good : ss.good = true := by
        simp [StringStream.good, atEnd, unfailed, rest]
      rw [← rest]
      constructor
      · rintro ⟨left, extracts⟩
        exact ((extracts_iff good).mp extracts).1
      · intro same
        exact ⟨_, (extracts_iff good).mpr ⟨same, rfl⟩⟩

theorem linkUserToChatArguments_iff {text : Bytes} {userId chatId : SizeT} :
    linkUserToChatArguments text = .ok (.call (.linkUserToChat userId chatId)) ↔
      LinkArguments text userId chatId := by
  rcases extracted : (StringStream.ofString text).extract 0 with ⟨user, ss⟩
  have shape : linkUserToChatArguments text =
      .ok (.call (.linkUserToChat user (ss.extract 0).1)) := by
    simp only [linkUserToChatArguments, extracted]
  rw [shape]
  rcases extracts_first text extracted with ⟨failed, extracts⟩ | ⟨failed, atEnd, extracts⟩
  · rw [StringStream.extract_bad (StringStream.bad_of_failbit failed)]
    constructor
    · intro same
      cases same
      exact .one ((extracts _ _).mpr ⟨rfl, rfl⟩)
    · intro reads
      cases reads with
      | two user chat => exact absurd ((extracts _ _).mp user).2 (by simp)
      | one user =>
          obtain ⟨rfl, -⟩ := (extracts _ _).mp user
          rfl
  · constructor
    · intro same
      cases same
      obtain ⟨left, chat⟩ := (extracts_second failed atEnd).mpr rfl
      exact .two ((extracts _ _).mpr ⟨rfl, rfl⟩) chat
    · intro reads
      cases reads with
      | two user chat =>
          obtain ⟨rfl, rest⟩ := (extracts _ _).mp user
          cases rest
          rw [← (extracts_second failed atEnd).mp ⟨_, chat⟩]
      | one user => exact absurd ((extracts _ _).mp user).2 (by simp)

theorem LinkArguments.unique {text : Bytes} {userId chatId otherUser otherChat : SizeT}
    (first : LinkArguments text userId chatId)
    (second : LinkArguments text otherUser otherChat) :
    userId = otherUser ∧ chatId = otherChat := by
  have same := (linkUserToChatArguments_iff.mpr first).symm.trans
    (linkUserToChatArguments_iff.mpr second)
  cases same
  exact ⟨rfl, rfl⟩

private theorem ignore_getline {ss : StringStream} (unfailed : ss.failbit = false)
    (atEnd : ss.eofbit = ss.rest.isEmpty) :
    ss.ignore.getline [] = (ss.rest.drop 1).takeWhile (· != 10) := by
  cases rest : ss.rest with
  | nil =>
      have bad : ss.good = false := by
        simp [StringStream.good, atEnd, rest]
      rw [StringStream.ignore_bad bad]
      simp [StringStream.getline, StringStream.good]
  | cons byte tail =>
      have good : ss.good = true := by
        simp [StringStream.good, atEnd, unfailed, rest]
      have running : ss.eofbit = false := by simp [atEnd, rest]
      simp [StringStream.ignore, StringStream.getline, rest,
        StringStream.good, running, unfailed]

theorem setTrelloTokenArguments_iff {text trelloToken : Bytes} {userId : SizeT} :
    setTrelloTokenArguments text =
        .ok (.call (.setTrelloToken userId trelloToken)) ↔
      TokenArguments text userId trelloToken := by
  rcases extracted : (StringStream.ofString text).extract 0 with ⟨user, ss⟩
  have shape : setTrelloTokenArguments text =
      .ok (.call (.setTrelloToken user (ss.ignore.getline []))) := by
    simp only [setTrelloTokenArguments, extracted]
  rw [shape]
  rcases extracts_first text extracted with ⟨failed, extracts⟩ | ⟨failed, atEnd, extracts⟩
  · have line : ss.ignore.getline [] = [] := by
      rw [StringStream.ignore_bad (StringStream.bad_of_failbit failed)]
      simp [StringStream.getline, StringStream.good]
    rw [line]
    constructor
    · intro same
      cases same
      exact .none ((extracts _ _).mpr ⟨rfl, rfl⟩)
    · intro reads
      cases reads with
      | line user => exact absurd ((extracts _ _).mp user).2 (by simp)
      | none user =>
          obtain ⟨rfl, -⟩ := (extracts _ _).mp user
          rfl
  · rw [ignore_getline failed atEnd]
    constructor
    · intro same
      cases same
      exact .line ((extracts _ _).mpr ⟨rfl, rfl⟩)
    · intro reads
      cases reads with
      | line user =>
          obtain ⟨rfl, rest⟩ := (extracts _ _).mp user
          cases rest
          rfl
      | none user => exact absurd ((extracts _ _).mp user).2 (by simp)

theorem stoiArgument_eq_ok_iff {call : SizeT → Call} {text : Bytes}
    {request : Request} :
    stoiArgument call text = .ok request ↔
      ∃ value rest, ReadsInteger text value rest ∧ -2 ^ 31 ≤ value ∧
        value < 2 ^ 31 ∧ request = .call (call (UInt64.ofInt value)) := by
  unfold stoiArgument
  rw [bind_eq_ok_iff]
  constructor
  · rintro ⟨value, read, same⟩
    cases same
    obtain ⟨⟨rest, reads⟩, low, high⟩ := stoi_eq_ok_iff.mp read
    exact ⟨value, rest, reads, low, high, rfl⟩
  · rintro ⟨value, rest, reads, low, high, rfl⟩
    exact ⟨value, stoi_eq_ok_iff.mpr ⟨⟨rest, reads⟩, low, high⟩, rfl⟩

end BpkMessenger.Server
