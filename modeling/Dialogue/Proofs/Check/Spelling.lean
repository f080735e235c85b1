import Dialogue.Proofs.Check.TagReports

/-!
# How names and addresses are spelt

The patterns for addresses and for names accept exactly the texts that they are meant for, told here by the
characters of a text and by the parts that it is joined from. The messages of a section go unremarked if and only
if their names are spelt in one of the two ways that messages are to be named in.
-/
namespace Dialogue.Check

open Text.Pattern (isMatch_iff matches_headed_iff matches_joined_iff matches_plus_one_iff)

/-! ## Addresses -/

/-- One at sign and no white space; something stands in front of the at sign, and behind it there is a dot that
is neither the first nor the last character. -/
structure IsEmail (cs : List Char) : Prop where
  single : cs.count '@' = 1
  unbroken : ∀ c ∈ cs, Text.isBlank c = false
  parts : ∃ user domain, cs = user ++ '@' :: domain ∧ user ≠ [] ∧
    ∃ before after, domain = before ++ '.' :: after ∧ before ≠ [] ∧ after ≠ []

theorem count_address (user host domain : List Char) :
    (user ++ '@' :: (host ++ '.' :: domain)).count '@' =
      user.count '@' + host.count '@' + domain.count '@' + 1 := by
  have dot : ('.' :: domain).count '@' = domain.count '@' := List.count_cons_of_ne (by decide)
  rw [List.count_append, List.count_cons_self, List.count_append, dot]
  omega

theorem isEmail_of_isAddress {value : String} (address : IsAddress value) : IsEmail value.toList := by
  obtain ⟨user, host, domain, text, parts⟩ := address
  obtain ⟨⟨someone, inUser⟩, ⟨somewhere, inHost⟩, ending, inDomain⟩ :
      (user ≠ [] ∧ ∀ c ∈ user, c ≠ '@' ∧ Text.isBlank c = false) ∧
      (host ≠ [] ∧ ∀ c ∈ host, c ≠ '@' ∧ Text.isBlank c = false) ∧
      domain ≠ [] ∧ ∀ c ∈ domain, c ≠ '@' ∧ Text.isBlank c = false :=
    ⟨parts user (by simp), parts host (by simp), parts domain (by simp)⟩
  have noSign {part : List Char} (inside : ∀ c ∈ part, c ≠ '@' ∧ Text.isBlank c = false) :
      part.count '@' = 0 :=
    List.count_eq_zero.mpr fun member => (inside '@' member).1 rfl
  rw [text]
  refine ⟨?_, fun c member => ?_, user, _, rfl, someone, host, domain, rfl, somewhere, ending⟩
  · rw [count_address, noSign inUser, noSign inHost, noSign inDomain]
  · simp only [List.mem_append, List.mem_cons] at member
    rcases member with found | rfl | found | rfl | found
    · exact (inUser c found).2
    · decide
    · exact (inHost c found).2
    · decide
    · exact (inDomain c found).2

theorem isAddress_of_isEmail {value : String} (email : IsEmail value.toList) : IsAddress value := by
  obtain ⟨single, unbroken, user, _, text, someone, host, domain, rfl, somewhere, ending⟩ := email
  rw [text] at single unbroken
  -- the one at sign is the one between the parts, so none of them has another
  rw [count_address] at single
  have clean {part : List Char} (noSign : part.count '@' = 0)
      (within : part ⊆ user ++ '@' :: (host ++ '.' :: domain)) :
      ∀ c ∈ part, c ≠ '@' ∧ Text.isBlank c = false :=
    fun c member =>
      ⟨fun same => List.count_eq_zero.mp noSign (same ▸ member), unbroken c (within member)⟩
  refine ⟨user, host, domain, text, ?_⟩
  rw [List.forall_mem_cons, List.forall_mem_cons, List.forall_mem_singleton]
  refine ⟨⟨someone, clean (by omega) ?_⟩, ⟨somewhere, clean (by omega) ?_⟩, ending,
    clean (by omega) ?_⟩
  · simp
  · intro c member
    simp [member]
  · intro c member
    simp [member]

/-! ## Names -/

theorem isUpper_eq (c : Char) : isUpper c = c.isUpper := (Bool.decide_and _ _).symm

theorem isWordChar_eq (c : Char) : isWordChar c = c.isAlphanum := by
  rw [isWordChar, isUpper_eq]
  rfl

/-- A capital, then letters and digits, all of ASCII. -/
def IsCapitalized (word : List Char) : Prop :=
  ∃ c rest, word = c :: rest ∧ c.isUpper = true ∧ ∀ d ∈ rest, d.isAlphanum = true

/-- Capitalized words, at least one, with a single space between each two. -/
def IsPascalCase (cs : List Char) : Prop :=
  ∃ words : List (List Char), words ≠ [] ∧ cs = [' '].intercalate words ∧
    ∀ word ∈ words, IsCapitalized word

/-- A small letter, then letters and digits, all of ASCII. -/
def IsCamelCase (cs : List Char) : Prop :=
  ∃ c rest, cs = c :: rest ∧ c.isLower = true ∧ ∀ d ∈ rest, d.isAlphanum = true

/-- Segments of small letters and digits of ASCII, none of them empty, with an underscore between each two; the
first starts with a letter. -/
def IsSnakeCase (cs : List Char) : Prop :=
  ∃ first rest, cs = ['_'].intercalate (first :: rest) ∧ (∃ c, first.head? = some c ∧ c.isLower = true) ∧
    ∀ segment ∈ first :: rest, segment ≠ [] ∧ ∀ c ∈ segment, (c.isLower || c.isDigit) = true

theorem matches_pascalWord_iff (word : List Char) : pascalWord.Matches word ↔ IsCapitalized word := by
  simp only [pascalWord, matches_headed_iff, isUpper_eq, isWordChar_eq, IsCapitalized]

theorem isMatch_pascalCase_iff (name : String) :
    pascalCase.isMatch name = true ↔ IsPascalCase name.toList := by
  rw [isMatch_iff, pascalCase, matches_joined_iff]
  simp only [matches_pascalWord_iff]
  constructor
  · rintro ⟨first, rest, text, here, there⟩
    exact ⟨first :: rest, List.cons_ne_nil _ _, text, List.forall_mem_cons.mpr ⟨here, there⟩⟩
  · rintro ⟨words, nonempty, text, all⟩
    obtain ⟨first, rest, rfl⟩ := List.exists_cons_of_ne_nil nonempty
    obtain ⟨here, there⟩ := List.forall_mem_cons.mp all
    exact ⟨first, rest, text, here, there⟩

theorem isMatch_camelCase_iff (name : String) :
    camelCase.isMatch name = true ↔ IsCamelCase name.toList := by
  rw [isMatch_iff, camelCase, matches_headed_iff]
  simp only [isWordChar_eq]
  rfl

theorem isMatch_snakeCase_iff (name : String) :
    snakeCase.isMatch name = true ↔ IsSnakeCase name.toList := by
  rw [isMatch_iff, snakeCase, matches_joined_iff]
  simp only [matches_headed_iff, matches_plus_one_iff]
  constructor
  · rintro ⟨_, rest, text, ⟨c, tail, rfl, small, later⟩, there⟩
    have first : isSnakeChar c = true := Bool.or_eq_true_iff.mpr (Or.inl small)
    have here : ∀ d ∈ c :: tail, isSnakeChar d = true := List.forall_mem_cons.mpr ⟨first, later⟩
    exact ⟨c :: tail, rest, text, ⟨c, rfl, small⟩,
      List.forall_mem_cons.mpr ⟨⟨List.cons_ne_nil _ _, here⟩, there⟩⟩
  · rintro ⟨_, rest, text, ⟨c, head, small⟩, all⟩
    obtain ⟨tail, rfl⟩ := List.head?_eq_some_iff.mp head
    obtain ⟨⟨_, here⟩, there⟩ := List.forall_mem_cons.mp all
    obtain ⟨_, later⟩ := List.forall_mem_cons.mp here
    exact ⟨c :: tail, rest, text, ⟨c, tail, rfl, small, later⟩, there⟩

theorem isMessageName_iff (name : String) :
    isMessageName name = true ↔ IsCamelCase name.toList ∨ IsSnakeCase name.toList := by
  rw [isMessageName, Bool.or_eq_true, isMatch_camelCase_iff, isMatch_snakeCase_iff]

theorem nameFinding_eq_nil_iff (s : Section) (kind convention : String) (severity : Severity)
    (accepts : String → Bool) :
    nameFinding s kind convention severity accepts = [] ↔
      ∀ name, s.name? = some name → accepts name = true := by
  unfold nameFinding
  cases s.name? with
  | none => simp
  | some name => simp

/-- For every text: the pattern for addresses matches those with one at sign, without white space, with something
in front of the at sign and a dot inside of what is behind it; the pattern for agents, flows and states matches
capitalized words with single spaces between them; and the name of a message is accepted when it is in camel or in
snake case. So a section of messages goes unremarked when each of its messages that has a name has one of these. -/
theorem spellings_exact (text : String) (messages : Section) :
    (emailAddress.isMatch text = true ↔ IsEmail text.toList) ∧
    (pascalCase.isMatch text = true ↔ IsPascalCase text.toList) ∧
    (isMessageName text = true ↔ IsCamelCase text.toList ∨ IsSnakeCase text.toList) ∧
    (messagesNaming messages = [] ↔ ∀ message ∈ messages.children, ∀ name, message.name? = some name →
      IsCamelCase name.toList ∨ IsSnakeCase name.toList) := by
  refine ⟨?_, isMatch_pascalCase_iff text, isMessageName_iff text, ?_⟩
  · rw [isMatch_emailAddress_iff]
    exact ⟨isEmail_of_isAddress, isAddress_of_isEmail⟩
  · simp only [messagesNaming, List.flatMap_eq_nil_iff, nameFinding_eq_nil_iff, isMessageName_iff]

end Dialogue.Check
