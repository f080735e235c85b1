import Dialogue.Document.Builder
import Dialogue.Message.Extraction

/-!
# What an extraction yields

The extraction looks at its candidates one after the other and keeps a running count of the messages it
has found. Here its result is said at once: the messages are the readable candidates with something to
show, numbered in their order, and the errors are those of each candidate by itself.
-/
namespace Dialogue.Message

/-! ## Candidates -/

/-- The sections of messages that a top-level section holds are those that are gathered from it. -/
theorem candidatesOf_eq (s : Section) :
    candidatesOf s = (if s.isMessage then [s] else []) ++
      (Document.gatherFrom "messages" s).flatMap fun m => m.children.filter Section.isMessage := by
  unfold candidatesOf Document.gatherFrom
  by_cases messages : s.is "messages" = true
  · have notAgent : s.is "agent" = false := by
      simp only [Section.is, beq_iff_eq] at messages
      simp [Section.is, messages]
    simp [messages, notAgent]
  · simp [messages]

/-- Messages belong at the top level or into a section of messages. -/
theorem mem_primaryCandidates (doc : Document) (m : Section) :
    m ∈ primaryCandidates doc ↔
      m.isMessage = true ∧ (m ∈ doc.sections ∨ ∃ s ∈ doc.gather "messages", m ∈ s.children) := by
  simp only [primaryCandidates, candidatesOf_eq, Document.gather, List.mem_flatMap,
    List.mem_append, List.mem_filter]
  constructor
  · rintro ⟨top, listed, here | ⟨s, gathered, inside, isMessage⟩⟩
    · split at here
      next isMessage =>
        rw [List.mem_singleton.mp here]
        exact ⟨isMessage, Or.inl listed⟩
      next => simp at here
    · exact ⟨isMessage, Or.inr ⟨s, ⟨top, listed, gathered⟩, inside⟩⟩
  · rintro ⟨isMessage, listed | ⟨s, ⟨top, listed, gathered⟩, inside⟩⟩
    · exact ⟨m, listed, Or.inl (by simp [isMessage])⟩
    · exact ⟨top, listed, Or.inr ⟨s, gathered, inside, isMessage⟩⟩

/-- The scan does not run when a message stands where it belongs. -/
theorem candidates_of_primary {doc : Document} {m : Section} (depth : Nat)
    (member : m ∈ primaryCandidates doc) : candidates doc depth = primaryCandidates doc := by
  unfold candidates
  cases found : primaryCandidates doc with
  | nil => simp [found] at member
  | cons first rest => rfl

theorem scanBody_eq (budget : Nat) (body : List Node) :
    scanBody budget body = (body.filterMap Node.child?).flatMap (scan budget) := by
  induction body with
  | nil => rfl
  | cons node rest ih =>
    rw [List.filterMap_cons]
    cases node <;> simp [scanBody, ih, Node.child?]

/-- Without a level to go down, a section is found only if it is a message itself. -/
theorem scan_zero (s : Section) : scan 0 s = if s.isMessage then [s] else [] := by
  cases s
  rfl

/-- The scan stops at a message and looks for messages below everything else. -/
theorem scan_succ (budget : Nat) (s : Section) :
    scan (budget + 1) s = if s.isMessage then [s] else s.children.flatMap (scan budget) := by
  cases s
  rw [scan, scanBody_eq]
  rfl

/-! ## Messages and errors -/

/-- What is extracted from a section whose content cannot be built. -/
theorem extractNode_of_error {s : Section} {e : ContentError} (failed : content s = .error e) :
    extractNode s = ⟨none, [failureText s e.message]⟩ := by
  unfold content at failed
  unfold extractNode
  cases built : build s with
  | ok result => simp [built, Functor.map, Except.map] at failed
  | error cause =>
    rw [built] at failed
    cases failed
    rfl

/-- What is extracted from a section whose content can be built: the content if it shows something, and an
error for each conflict. -/
theorem extractNode_of_ok {s : Section} {c : Content} (read : content s = .ok c) :
    (extractNode s).content = (if c.isRecognized then some c else none) ∧
      ∃ conflicts : List Conflict, (extractNode s).errors = conflicts.map (conflictText s) := by
  unfold content at read
  unfold extractNode
  cases built : build s with
  | error cause => simp [built, Functor.map, Except.map] at read
  | ok result =>
    rw [built] at read
    cases read
    exact ⟨rfl, result.2, rfl⟩

/-- The sections that yield content, each with it. -/
def recognized (sections : List Section) : List (Section × Content) :=
  sections.filterMap fun s => (extractNode s).content.map fun content => (s, content)

/-- Whether a section is a message with something to show. -/
def yieldsMessage (s : Section) : Bool := (extractNode s).content.isSome

theorem sources_recognized (sections : List Section) :
    (recognized sections).map Prod.fst = sections.filter yieldsMessage := by
  induction sections with
  | nil => rfl
  | cons s rest ih =>
    cases found : (extractNode s).content with
    | none => simpa [recognized, yieldsMessage, found] using ih
    | some content => simpa [recognized, yieldsMessage, found] using ih

/-- What a message without a name is called. -/
def ordinalName (order : Nat) : String := "message_" ++ toString order

/-- The message that a section and its content make as number `order`. -/
def numbered (entry : (Section × Content) × Nat) : Extracted :=
  ⟨entry.1.1.name?.getD (ordinalName entry.2), entry.1.2, entry.2, entry.1.1.range⟩

theorem recognized_append (first second : List Section) :
    recognized (first ++ second) = recognized first ++ recognized second :=
  List.filterMap_append

/-- One candidate adds at most one message, with the next number. -/
theorem messages_add (e : Extraction) (s : Section) :
    (e.add s).messages =
      e.messages ++ ((recognized [s]).zipIdx e.messages.length).map numbered := by
  cases found : (extractNode s).content <;>
    simp [Extraction.add, recognized, found, numbered, ordinalName]

theorem messages_foldl (sections : List Section) (e : Extraction) :
    (sections.foldl Extraction.add e).messages =
      e.messages ++ ((recognized sections).zipIdx e.messages.length).map numbered := by
  induction sections generalizing e with
  | nil => simp [recognized]
  | cons s rest ih =>
    have split : recognized (s :: rest) = recognized [s] ++ recognized rest :=
      recognized_append [s] rest
    rw [List.foldl_cons, ih, messages_add, split, List.zipIdx_append, List.map_append,
      List.append_assoc]
    simp

theorem errors_foldl (sections : List Section) (e : Extraction) :
    (sections.foldl Extraction.add e).errors =
      e.errors ++ sections.flatMap fun s => (extractNode s).errors := by
  induction sections generalizing e with
  | nil => simp
  | cons s rest ih => simp [ih, Extraction.add, List.append_assoc]

theorem extract_messages (doc : Document) (depth : Nat) :
    (extract doc depth).messages =
      (recognized (candidates doc depth)).zipIdx.map numbered := by
  rw [extract, messages_foldl]
  rfl

theorem extract_errors (doc : Document) (depth : Nat) :
    (extract doc depth).errors =
      (candidates doc depth).flatMap fun s => (extractNode s).errors := by
  rw [extract, errors_foldl]
  rfl

/-! ## Failures -/

def failurePrefix : List Char := "Failed to extract message".toList

/-- Whether an error says that a section could not be read. The others tell of conflicts. -/
def isFailure (error : String) : Bool := failurePrefix.isPrefixOf error.toList

theorem isFailure_append {first : String} (second : String)
    (long : failurePrefix.length ≤ first.toList.length) :
    isFailure (first ++ second) = isFailure first := by
  rw [Bool.eq_iff_iff, isFailure, isFailure, List.isPrefixOf_iff_prefix,
    List.isPrefixOf_iff_prefix, String.toList_append]
  constructor
  · intro opens
    exact List.prefix_of_prefix_length_le opens (List.prefix_append _ _) long
  · intro opens
    exact opens.trans (List.prefix_append _ _)

theorem isFailure_failureText (s : Section) (reason : String) :
    isFailure (failureText s reason) = true := by
  have long : failurePrefix.length ≤ "Failed to extract message at ".toList.length := by
    decide +kernel
  have opening : isFailure "Failed to extract message at " = true := by decide +kernel
  unfold failureText
  rw [String.append_assoc, String.append_assoc, isFailure_append _ long, opening]

theorem isFailure_conflictText (s : Section) (c : Conflict) :
    isFailure (conflictText s c) = false := by
  have long : failurePrefix.length ≤ "Conflicting value in message at ".toList.length := by
    decide +kernel
  have opening : isFailure "Conflicting value in message at " = false := by decide +kernel
  unfold conflictText
  rw [String.append_assoc, String.append_assoc, isFailure_append _ long, opening]

/-- The failure of a section whose content cannot be read. -/
def failures (s : Section) : List String :=
  match content s with
  | .ok _ => []
  | .error e => [failureText s e.message]

theorem failures_eq_nil_iff (s : Section) :
    failures s = [] ↔ ∃ content, Message.content s = .ok content := by
  unfold failures
  cases Message.content s <;> simp

theorem filter_errors_extractNode (s : Section) :
    (extractNode s).errors.filter isFailure = failures s := by
  unfold failures
  cases read : content s with
  | error e => simp [extractNode_of_error read, isFailure_failureText]
  | ok c =>
    obtain ⟨_, conflicts, errors⟩ := extractNode_of_ok read
    simp [errors, isFailure_conflictText]

/-- The failures of an extraction are those of its candidates. -/
theorem filter_errors_extract (doc : Document) (depth : Nat) :
    (extract doc depth).errors.filter isFailure = (candidates doc depth).flatMap failures := by
  rw [extract_errors, List.filter_flatMap]
  simp only [filter_errors_extractNode]

/-- A text without a name. -/
def spoken (text : String) : Section := (Section.ofKind "text").withParameter none (.string text none)

/-- A text that is no string. -/
def mute : Section := (Section.ofKind "text").withParameter none (.boolean true none)

example : failures (spoken "Hello") = [] ∧
    failures mute =
      ["Failed to extract message at line unknown: text must be a string, found boolean"] := by
  decide +kernel

end Dialogue.Message
