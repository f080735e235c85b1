import Dialogue.Proofs.Check.Reported
import Dialogue.Proofs.Check.TypeTags
import Dialogue.Proofs.Document.Places
import Dialogue.Proofs.Text.Affix
import Dialogue.Proofs.Text.Pattern

/-!
# Reports on type-tagged literals

A type-tagged literal may stand anywhere in a document, and wherever it stands it is looked at exactly once. It is
accepted when its tag is known and its value is neither in quotes nor blank and, for an address or a link, has the
form of one; any other is reported, in the order in which the document is written.
-/
namespace Dialogue

/-- The type-tagged literal that a value is. -/
def Value.tagUse? : Value → Option Check.TagUse
  | .typeTag tag value _ range => some ⟨tag, value, range⟩
  | _ => none

theorem Value.tagUse?_eq_some_iff (v : Value) (use : Check.TagUse) :
    v.tagUse? = some use ↔ ∃ qualifier, v = .typeTag use.tag use.value qualifier use.range := by
  constructor
  · intro found
    cases v with
    | typeTag tag value qualifier range =>
      cases found
      exact ⟨qualifier, rfl⟩
    | _ => cases found
  · rintro ⟨qualifier, rfl⟩
    rfl

namespace Check

/-! ## Where they stand -/

theorem tagUses_eq (v : Value) : tagUses v = v.tagUse?.toList ++ v.inner.flatMap tagUses := by
  cases v with
  | list items range =>
    rw [tagUses, itemsTagUses_eq]
    rfl
  | dictionary entries range =>
    rw [tagUses, entriesTagUses_eq, Value.inner, List.flatMap_map]
    rfl
  | contextualized value context range =>
    rw [tagUses, contextTagUses_eq, Value.inner, List.flatMap_cons, List.flatMap_map]
    rfl
  | _ => rfl

/-- The walk through a value meets the literals among its parts. -/
theorem tagUses_eq_filterMap (v : Value) : tagUses v = v.parts.filterMap Value.tagUse? := by
  induction v using Value.inner_induction with
  | step v inside =>
    have deeper : v.inner.flatMap tagUses =
        v.inner.flatMap fun w => w.parts.filterMap Value.tagUse? :=
      congrArg List.flatten (List.map_congr_left inside)
    rw [tagUses_eq, deeper, Value.parts_eq, List.filterMap_cons, List.filterMap_flatMap]
    cases v.tagUse? <;> rfl

theorem nodeTagUses_eq_filterMap {n : Node}
    (inside : ∀ s, n.child? = some s → sectionTagUses s = s.values.filterMap Value.tagUse?) :
    nodeTagUses n = n.values.filterMap Value.tagUse? := by
  match n with
  | .child s => exact inside s rfl
  | .attribute a => exact tagUses_eq_filterMap a.value
  | .value v => exact tagUses_eq_filterMap v
  | .matchBlock m =>
    have cases : caseTagUses = fun c => c.values.filterMap Value.tagUse? := by
      funext c
      simp only [caseTagUses, MatchCase.values, tagUses_eq_filterMap, List.filterMap_append]
    simp only [nodeTagUses, blockTagUses, cases, tagUses_eq_filterMap, Node.values,
      MatchBlock.values, List.filterMap_append, List.filterMap_flatMap]
  | .transition t =>
    obtain ⟨operand, target, range⟩ := t
    cases operand <;>
      simp [nodeTagUses, ruleTagUses, tagUses_eq_filterMap, Node.values, DirectTransition.values]

theorem sectionTagUses_eq_filterMap (s : Section) :
    sectionTagUses s = s.values.filterMap Value.tagUse? := by
  induction s using Section.children_induction with
  | step s inside =>
    have nodes : s.body.flatMap nodeTagUses =
        s.body.flatMap fun n => n.values.filterMap Value.tagUse? := by
      refine congrArg List.flatten (List.map_congr_left fun n member => ?_)
      refine nodeTagUses_eq_filterMap fun c isChild => inside c ?_
      exact List.mem_filterMap.mpr ⟨n, member, isChild⟩
    rw [sectionTagUses_eq, nodes, Section.values_eq, List.filterMap_append, List.filterMap_flatMap,
      List.filterMap_flatMap]
    simp only [tagUses_eq_filterMap]

theorem typeTags_eq (doc : Document) :
    typeTags doc = (doc.values.filterMap Value.tagUse?).filterMap tagFinding? := by
  have sections : sectionTagUses = fun s => s.values.filterMap Value.tagUse? :=
    funext sectionTagUses_eq_filterMap
  simp only [typeTags, Document.values, sections, List.filterMap_flatMap]

/-! ## Which are accepted -/

/-- The value stands in quotes, both of one kind. -/
def InQuotes (value : String) : Prop :=
  ∃ inner, value = "\"" ++ inner ++ "\"" ∨ value = "'" ++ inner ++ "'"

/-- There is nothing but white space in the value. -/
def IsBlank (value : String) : Prop := ∀ c ∈ value.toList, Text.isBlank c = true

/-- Someone at a host with a dot behind it, without white space and with one at sign. -/
def IsAddress (value : String) : Prop :=
  ∃ user host domain, value.toList = user ++ '@' :: (host ++ '.' :: domain) ∧
    ∀ part ∈ [user, host, domain], part ≠ [] ∧ ∀ c ∈ part, c ≠ '@' ∧ Text.isBlank c = false

def HasScheme (value : String) : Prop :=
  ∃ rest, value = "https://" ++ rest ∨ value = "http://" ++ rest

/-- What a type-tagged literal is refused for; one that is accepted is refused for nothing. -/
inductive Refused (tag value : String) : Problem → Prop where
  | unknown : tag ∉ knownTags → Refused tag value (.invalidTypeTag tag)
  | quoted : tag ∈ knownTags → InQuotes value → Refused tag value (.invalidTagValue tag value .quoted)
  | blank : tag ∈ knownTags → ¬InQuotes value → IsBlank value →
      Refused tag value (.invalidTagValue tag value .empty)
  | address : tag = "email" → ¬InQuotes value → ¬IsBlank value → ¬IsAddress value →
      Refused tag value (.invalidTagValue tag value .notAnEmail)
  | link : tag = "url" → ¬InQuotes value → ¬IsBlank value → ¬HasScheme value →
      Refused tag value (.invalidTagValue tag value .missingScheme)

/-- A text longer than a mark that begins and ends with it has the mark on both sides. -/
theorem between_iff {mark : String} (single : mark.toList.length = 1)
    (small : mark.utf8ByteSize = 1) (value : String) :
    (2 ≤ value.utf8ByteSize ∧ Text.startsWith value mark = true ∧ Text.endsWith value mark = true) ↔
      ∃ inner, value = mark ++ inner ++ mark := by
  obtain ⟨c, markChars⟩ := List.length_eq_one_iff.mp single
  rw [Text.startsWith_iff, Text.endsWith_iff]
  constructor
  · rintro ⟨long, ⟨rest, starts⟩, stem, ends⟩
    have chars : c :: rest.toList = stem.toList ++ [c] := by
      have same := congrArg String.toList (starts.symm.trans ends)
      rwa [String.toList_append, String.toList_append, markChars, List.singleton_append] at same
    rcases List.cons_eq_append_iff.mp chars with ⟨alone, -⟩ | ⟨inner, stemChars, -⟩
    · -- The two marks would be one and the same.
      have nothing : stem = "" := String.toList_eq_nil_iff.mp alone
      rw [ends, nothing, String.empty_append, small] at long
      omega
    · refine ⟨String.ofList inner, ?_⟩
      have stemEq : stem = mark ++ String.ofList inner := by
        rw [← String.toList_inj, String.toList_append, String.toList_ofList, markChars, stemChars]
        rfl
      rw [ends, stemEq]
  · rintro ⟨inner, rfl⟩
    refine ⟨?_, ⟨inner ++ mark, String.append_assoc⟩, mark ++ inner, rfl⟩
    rw [String.utf8ByteSize_append, String.utf8ByteSize_append, small]
    omega

theorem isQuoted_iff (value : String) : isQuoted value = true ↔ InQuotes value := by
  have double := between_iff (by decide : "\"".toList.length = 1) (by decide) value
  have single := between_iff (by decide : "'".toList.length = 1) (by decide) value
  simp only [isQuoted, InQuotes, Bool.and_eq_true, Bool.or_eq_true, decide_eq_true_eq, exists_or,
    ← double, ← single, and_or_left]

theorem isAddressChar_iff (c : Char) :
    isAddressChar c = true ↔ c ≠ '@' ∧ Text.isBlank c = false := by
  simp [isAddressChar]

theorem isMatch_emailAddress_iff (value : String) :
    emailAddress.isMatch value = true ↔ IsAddress value := by
  simp only [emailAddress, Text.Pattern.isMatch_iff, Text.Pattern.matches_seq_iff,
    Text.Pattern.matches_plus_one_iff, Text.Pattern.matches_char_iff, isAddressChar_iff, IsAddress,
    List.forall_mem_cons, List.not_mem_nil, false_implies, implies_true, and_true]
  constructor
  · rintro ⟨user, _, eq, isUser, _, _, rfl, rfl, host, _, rfl, isHost, _, domain, rfl, rfl, isDomain⟩
    exact ⟨user, host, domain, eq, isUser, isHost, isDomain⟩
  · rintro ⟨user, host, domain, eq, isUser, isHost, isDomain⟩
    exact ⟨user, _, eq, isUser, _, _, rfl, rfl, host, _, rfl, isHost, _, domain, rfl, rfl, isDomain⟩

theorem hasScheme_iff (value : String) :
    (Text.startsWith value "https://" || Text.startsWith value "http://") = true ↔
      HasScheme value := by
  simp only [Bool.or_eq_true, Text.startsWith_iff, HasScheme, exists_or]

theorem allBlank_iff (value : String) : Text.allBlank value = true ↔ IsBlank value := List.all_eq_true

instance (value : String) : Decidable (InQuotes value) := decidable_of_iff _ (isQuoted_iff value)

instance (value : String) : Decidable (IsBlank value) := decidable_of_iff _ (allBlank_iff value)

instance (value : String) : Decidable (IsAddress value) :=
  decidable_of_iff _ (isMatch_emailAddress_iff value)

instance (value : String) : Decidable (HasScheme value) := decidable_of_iff _ (hasScheme_iff value)

-- A mark by itself is not in quotes, two of them are.
example : ¬InQuotes "\"" ∧ InQuotes "\"\"" := by decide +kernel

/-- The fault that is found is the one the value is refused for. -/
theorem tagFault?_eq_some_iff {tag value : String} (known : tag ∈ knownTags) (fault : TagFault) :
    tagFault? tag value = some fault ↔ Refused tag value (.invalidTagValue tag value fault) := by
  simp only [tagFault?, isQuoted_iff, allBlank_iff, isMatch_emailAddress_iff, hasScheme_iff]
  constructor
  · intro found
    split at found
    next quoted =>
      cases found
      exact .quoted known quoted
    next bare =>
    split at found
    next blank =>
      cases found
      exact .blank known bare blank
    next filled =>
    split at found
    next isEmail =>
      split at found
      next => cases found
      next wrong =>
        cases found
        exact .address isEmail bare filled wrong
    next =>
    split at found
    next isUrl =>
      split at found
      next => cases found
      next wrong =>
        cases found
        exact .link isUrl bare filled wrong
    next => cases found
  · intro refused
    cases refused with
    | quoted _ quoted => rw [if_pos quoted]
    | blank _ bare blank => rw [if_neg bare, if_pos blank]
    | address isEmail bare filled wrong => rw [if_neg bare, if_neg filled, if_pos isEmail, if_neg wrong]
    | link isUrl bare filled wrong =>
      subst isUrl
      rw [if_neg bare, if_neg filled, if_neg (by decide), if_pos rfl, if_neg wrong]

/-- A literal with an unknown tag is refused for its tag, any other for its value. -/
theorem Refused.known_or_unknown {tag value : String} {problem : Problem}
    (refused : Refused tag value problem) :
    (tag ∈ knownTags ∧ ∃ fault, problem = .invalidTagValue tag value fault) ∨
      (tag ∉ knownTags ∧ problem = .invalidTypeTag tag) := by
  cases refused with
  | unknown unknown => exact Or.inr ⟨unknown, rfl⟩
  | quoted known => exact Or.inl ⟨known, _, rfl⟩
  | blank known => exact Or.inl ⟨known, _, rfl⟩
  | address isEmail => exact Or.inl ⟨isEmail ▸ by decide, _, rfl⟩
  | link isUrl => exact Or.inl ⟨isUrl ▸ by decide, _, rfl⟩

theorem tagProblem?_eq_some_iff (use : TagUse) (problem : Problem) :
    tagProblem? use = some problem ↔ Refused use.tag use.value problem := by
  by_cases known : use.tag ∈ knownTags
  · rw [tagProblem?, if_pos (List.contains_iff_mem.mpr known), Option.map_eq_some_iff]
    constructor
    · rintro ⟨fault, found, rfl⟩
      exact (tagFault?_eq_some_iff known fault).mp found
    · intro refused
      rcases refused.known_or_unknown with ⟨-, fault, rfl⟩ | ⟨unknown, -⟩
      · exact ⟨fault, (tagFault?_eq_some_iff known fault).mpr refused, rfl⟩
      · exact absurd known unknown
  · rw [tagProblem?, if_neg (mt List.contains_iff_mem.mp known), Option.some.injEq]
    constructor
    · rintro rfl
      exact .unknown known
    · intro refused
      rcases refused.known_or_unknown with ⟨isKnown, -⟩ | ⟨-, rfl⟩
      · exact absurd isKnown known
      · rfl

theorem tagFinding?_eq_some_iff (use : TagUse) (f : Finding) :
    tagFinding? use = some f ↔ Refused use.tag use.value f.problem ∧ f.range = use.range := by
  rw [tagFinding?, Option.map_eq_some_iff]
  constructor
  · rintro ⟨problem, found, rfl⟩
    exact ⟨(tagProblem?_eq_some_iff use problem).mp found, rfl⟩
  · rintro ⟨refused, atRange⟩
    exact ⟨f.problem, (tagProblem?_eq_some_iff use f.problem).mpr refused, by rw [← atRange]⟩

/-! ## What is reported -/

/-- A check that is not about tags finds nothing under their codes. -/
theorem filter_tagCodes_of_apart {codes : List Code} {findings : List Finding}
    (only : Only (Coded codes) findings) (apart : ∀ code ∈ codes, code ∉ tagCodes) :
    findings.filter (fun f => f.problem.code ∈ tagCodes) = [] := by
  refine List.filter_eq_nil_iff.mpr fun f member coded => ?_
  exact apart _ (only f member) (of_decide_eq_true coded)

theorem filter_tagCodes_document (doc : Document) :
    (document doc).filter (fun f => f.problem.code ∈ tagCodes) = typeTags doc := by
  have all : (typeTags doc).filter (fun f => f.problem.code ∈ tagCodes) = typeTags doc :=
    List.filter_eq_self.mpr fun f member => decide_eq_true (only_typeTags doc f member)
  simp only [document, List.filter_append, all, List.nil_append,
    filter_tagCodes_of_apart (only_agent doc) (by decide),
    filter_tagCodes_of_apart (only_flows doc) (by decide),
    filter_tagCodes_of_apart (only_messages doc) (by decide),
    filter_tagCodes_of_apart (only_references doc) (by decide)]

/-- The finding is about a type-tagged literal at the place, and what the literal is refused for. -/
def TagReported (doc : Document) (place : Place) (f : Finding) : Prop :=
  ∃ tag value qualifier,
    doc.HasAt place (.typeTag tag value qualifier f.range) ∧ Refused tag value f.problem

theorem enumerates_typeTags (doc : Document) : Enumerates (TagReported doc) (typeTags doc) := by
  rw [typeTags_eq]
  refine ((doc.enumerates.filterMap Value.tagUse?).filterMap tagFinding?).congr fun place f => ?_
  simp only [Value.tagUse?_eq_some_iff, tagFinding?_eq_some_iff]
  constructor
  · rintro ⟨use, ⟨_, held, qualifier, rfl⟩, refused, atRange⟩
    exact ⟨use.tag, use.value, qualifier, atRange ▸ held, refused⟩
  · rintro ⟨tag, value, qualifier, held, refused⟩
    exact ⟨⟨tag, value, f.range⟩, ⟨_, held, qualifier, rfl⟩, refused, rfl⟩

/-- What a document is told about its type tags is one finding for each literal that is refused, wherever in
the document it stands, in the order in which they are written, and nothing besides. -/
theorem type_tags_checked_once (doc : Document) (findings : List Finding) :
    Enumerates (TagReported doc) findings ↔
      findings = (document doc).filter fun f =>
        f.problem.code ∈ [Code.invalidTypeTag, Code.invalidTypeTagValue] := by
  have told : ((document doc).filter fun f =>
      f.problem.code ∈ [Code.invalidTypeTag, Code.invalidTypeTagValue]) = typeTags doc :=
    filter_tagCodes_document doc
  rw [told]
  constructor
  · intro enumerated
    exact enumerated.unique (enumerates_typeTags doc)
  · rintro rfl
    exact enumerates_typeTags doc

end Check

end Dialogue
