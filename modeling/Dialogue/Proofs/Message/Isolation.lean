import Dialogue.Proofs.Message.Extraction

/-!
# One candidate by itself

The extraction counts its messages while it goes through the candidates, and all errors go into one list. Still
no candidate has a say in what becomes of another: exchange one for any other section, and what stands before it
is extracted as it was, what stands behind it differs by its number at most, and so do the names made from
numbers. A candidate whose content cannot be built leaves one error and no message.
-/
namespace Dialogue.Message

/-- The extraction of sections, one after the other. -/
def extractAll (sections : List Section) : Extraction := sections.foldl Extraction.add ⟨[], []⟩

theorem extract_eq_extractAll (doc : Document) (depth : Nat) :
    extract doc depth = extractAll (candidates doc depth) := rfl

/-- The message that a section adds when there are `order` messages before it. -/
def contribution (order : Nat) (s : Section) : List Extracted :=
  ((extractNode s).content.map fun content =>
    (⟨s.name?.getD (ordinalName order), content, order, s.range⟩ : Extracted)).toList

theorem contribution_eq (order : Nat) (s : Section) :
    contribution order s = ((recognized [s]).zipIdx order).map numbered := by
  cases found : (extractNode s).content <;> simp [contribution, recognized, found, numbered]

theorem length_contribution (order : Nat) (s : Section) :
    (contribution order s).length = (recognized [s]).length := by
  simp [contribution_eq]

theorem length_contribution_le (order : Nat) (s : Section) : (contribution order s).length ≤ 1 := by
  cases found : (extractNode s).content <;> simp [contribution, found]

/-! ## Parts of an extraction -/

theorem messages_extractAll (sections : List Section) :
    (extractAll sections).messages = (recognized sections).zipIdx.map numbered := by
  rw [extractAll, messages_foldl]
  rfl

theorem errors_extractAll (sections : List Section) :
    (extractAll sections).errors = sections.flatMap fun s => (extractNode s).errors := by
  rw [extractAll, errors_foldl]
  rfl

theorem length_messages (sections : List Section) :
    (extractAll sections).messages.length = (recognized sections).length := by
  simp [messages_extractAll]

/-- The messages of the parts stand one behind the other; each part goes on counting. -/
theorem messages_append (xs ys : List Section) :
    (extractAll (xs ++ ys)).messages = (extractAll xs).messages ++
      ((recognized ys).zipIdx (extractAll xs).messages.length).map numbered := by
  rw [messages_extractAll, recognized_append, List.zipIdx_append, List.map_append,
    ← messages_extractAll, length_messages, Nat.zero_add]

theorem messages_split (xs : List Section) (s : Section) (ys : List Section) :
    (extractAll (xs ++ s :: ys)).messages =
      (extractAll xs).messages ++ contribution (extractAll xs).messages.length s ++
        ((recognized ys).zipIdx ((extractAll xs).messages.length +
          (contribution (extractAll xs).messages.length s).length)).map numbered := by
  have parts : recognized (s :: ys) = recognized [s] ++ recognized ys := recognized_append [s] ys
  rw [messages_append, parts, List.zipIdx_append, List.map_append, length_contribution,
    contribution_eq, List.append_assoc]

theorem errors_split (xs : List Section) (s : Section) (ys : List Section) :
    (extractAll (xs ++ s :: ys)).errors =
      (extractAll xs).errors ++ (extractNode s).errors ++ (extractAll ys).errors := by
  simp only [errors_extractAll, List.flatMap_append, List.flatMap_cons, List.append_assoc]

/-- The number of a message is its place in the list. -/
theorem order_eq_place {sections : List Section} {place : Nat} {m : Extracted}
    (listed : (extractAll sections).messages[place]? = some m) : m.order = place := by
  rw [messages_extractAll, List.getElem?_map, List.getElem?_zipIdx, Option.map_map] at listed
  obtain ⟨entry, _, rfl⟩ := Option.map_eq_some_iff.mp listed
  exact Nat.zero_add place

/-! ## Counterparts -/

/-- A section with the messages that it yields in two extractions. -/
structure Counterparts where
  source : Section
  first : Extracted
  second : Extracted

/-- The two messages are those of their section and differ by their number at most: content, place and a name
that the section gives are the same. -/
structure Counterparts.Agree (shift : Int) (c : Counterparts) : Prop where
  made : (extractNode c.source).content = some c.first.content
  content : c.second.content = c.first.content
  location : c.first.location = c.source.range ∧ c.second.location = c.first.location
  named : ∀ name, c.source.name? = some name → c.first.id = name ∧ c.second.id = name
  order : (c.second.order : Int) = c.first.order + shift

/-- The messages of the same sections, counted from two numbers on. -/
def counterparts (first second : Nat) (sections : List Section) : List Counterparts :=
  (recognized sections).zipIdx.map fun entry =>
    ⟨entry.1.1, numbered (entry.1, first + entry.2), numbered (entry.1, second + entry.2)⟩

theorem sources_counterparts (first second : Nat) (sections : List Section) :
    (counterparts first second sections).map Counterparts.source = sections.filter yieldsMessage := by
  have forgotten : (fun entry : (Section × Content) × Nat => entry.1.1) = Prod.fst ∘ Prod.fst := rfl
  rw [counterparts, List.map_map, ← sources_recognized]
  change (recognized sections).zipIdx.map (fun entry => entry.1.1) = _
  rw [forgotten, ← List.map_map, List.zipIdx_map_fst]

theorem numbered_from (start : Nat) (entries : List (Section × Content)) :
    entries.zipIdx.map (fun entry => numbered (entry.1, start + entry.2)) =
      (entries.zipIdx start).map numbered := by
  have moved := congrArg (List.map numbered) (List.zipIdx_eq_map_add (l := entries) (i := start))
  rw [moved, List.map_map]
  rfl

theorem firsts_counterparts (first second : Nat) (sections : List Section) :
    (counterparts first second sections).map Counterparts.first =
      ((recognized sections).zipIdx first).map numbered := by
  rw [counterparts, List.map_map, ← numbered_from]
  rfl

theorem seconds_counterparts (first second : Nat) (sections : List Section) :
    (counterparts first second sections).map Counterparts.second =
      ((recognized sections).zipIdx second).map numbered := by
  rw [counterparts, List.map_map, ← numbered_from]
  rfl

theorem counterparts_agree {first second : Nat} {sections : List Section} {c : Counterparts}
    (member : c ∈ counterparts first second sections) : c.Agree ((second : Int) - first) := by
  obtain ⟨⟨⟨s, content⟩, place⟩, listed, rfl⟩ := List.mem_map.mp member
  have found : (s, content) ∈ recognized sections := (List.mem_zipIdx listed).2.2 ▸ List.getElem_mem _
  obtain ⟨t, _, made⟩ := List.mem_filterMap.mp found
  obtain ⟨_, made, equal⟩ := Option.map_eq_some_iff.mp made
  cases equal
  constructor
  · exact made
  · rfl
  · exact ⟨rfl, rfl⟩
  · intro name named
    simp [numbered, named]
  · simp only [numbered]
    omega

/-- The candidates of an extraction do not disturb each other. When two documents have the same candidates
except for one, the messages and errors of the candidates before it are the same; those behind it yield the same
errors and the same messages, up to a shift of all their numbers by one at most. In every extraction the number
of a message is its place, and a candidate whose content cannot be built adds one error, which says why, and no
message. -/
theorem extraction_isolates_candidates :
    (∀ first second depth depth' xs ys a b,
      candidates first depth = xs ++ a :: ys → candidates second depth' = xs ++ b :: ys →
      let before := extractAll xs
      ∃ (later : List Counterparts) (shift : Int),
        (shift = -1 ∨ shift = 0 ∨ shift = 1) ∧
        later.map Counterparts.source = ys.filter yieldsMessage ∧
        (∀ c ∈ later, c.Agree shift) ∧
        extract first depth =
          ⟨before.messages ++ contribution before.messages.length a ++ later.map Counterparts.first,
            before.errors ++ (extractNode a).errors ++ (extractAll ys).errors⟩ ∧
        extract second depth' =
          ⟨before.messages ++ contribution before.messages.length b ++ later.map Counterparts.second,
            before.errors ++ (extractNode b).errors ++ (extractAll ys).errors⟩) ∧
    (∀ doc depth place (m : Extracted),
      (extract doc depth).messages[place]? = some m → m.order = place) ∧
    ∀ doc depth xs s ys e, candidates doc depth = xs ++ s :: ys → content s = .error e →
      (extract doc depth).messages = (extractAll (xs ++ ys)).messages ∧
      (extract doc depth).errors =
        (extractAll xs).errors ++ failureText s e.message :: (extractAll ys).errors := by
  refine ⟨?_, fun doc depth place m listed => order_eq_place listed, ?_⟩
  · intro first second depth depth' xs ys a b given given' before
    -- where the numbers go on behind the one candidate and behind the other
    let start := before.messages.length + (contribution before.messages.length a).length
    let start' := before.messages.length + (contribution before.messages.length b).length
    refine ⟨counterparts start start' ys, (start' : Int) - start, ?_, sources_counterparts _ _ _,
      fun c member => counterparts_agree member, ?_, ?_⟩
    · have single := length_contribution_le before.messages.length a
      have single' := length_contribution_le before.messages.length b
      omega
    · rw [extract_eq_extractAll, given, firsts_counterparts, ← messages_split, ← errors_split]
    · rw [extract_eq_extractAll, given', seconds_counterparts, ← messages_split, ← errors_split]
  · intro doc depth xs s ys e given failed
    have outcome := extractNode_of_error failed
    have nothing (order : Nat) : contribution order s = [] := by simp [contribution, outcome]
    rw [extract_eq_extractAll, given, messages_split, errors_split, messages_append, nothing, outcome]
    constructor
    · simp
    · simp

/-- A document with one section of messages. -/
def catalogOf (messages : List Section) : Document :=
  ⟨[{ Section.ofKind "messages" with body := messages.map .child }], none⟩

def greeting : Section := (spoken "Hi").withName "hi"

def farewell : Section := (spoken "Bye").withName "bye"

theorem extraction_isolates_candidates_mute :
    candidates (catalogOf [greeting, mute, farewell]) 0 = [greeting] ++ mute :: [farewell] ∧
    candidates (catalogOf [greeting, spoken "Thanks", farewell]) 0 = [greeting] ++ spoken "Thanks" :: [farewell] ∧
    (∃ (later : List Counterparts) (shift : Int),
      (shift = -1 ∨ shift = 0 ∨ shift = 1) ∧
      later.map Counterparts.source = [farewell].filter yieldsMessage ∧
      (∀ c ∈ later, c.Agree shift) ∧
      (extract (catalogOf [greeting, mute, farewell]) 0).messages =
        (extractAll [greeting]).messages ++ later.map Counterparts.first) ∧
    (extract (catalogOf [greeting, mute, farewell]) 0).errors =
      ["Failed to extract message at line unknown: text must be a string, found boolean"] ∧
    ∀ m : Extracted, (extract (catalogOf [greeting, mute, farewell]) 0).messages[1]? = some m →
      m.order = 1 := by
  obtain ⟨isolated, ordered, failing⟩ := extraction_isolates_candidates
  obtain ⟨later, shift, bounded, sources, agree, first, _⟩ :=
    isolated (catalogOf [greeting, mute, farewell]) (catalogOf [greeting, spoken "Thanks", farewell]) 0 0
      [greeting] [farewell] mute (spoken "Thanks") rfl rfl
  refine ⟨rfl, rfl, ⟨later, shift, bounded, sources, agree, ?_⟩, ?_, ordered _ 0 1⟩
  · rw [first]
    simp [show contribution _ mute = [] from rfl]
  · rw [(failing _ 0 [greeting] mute [farewell] (.notString "text" "boolean") rfl rfl).2]
    decide +kernel

end Dialogue.Message
