import Dialogue.Compilation
import Dialogue.Proofs.Check.Promises

/-!
# What the checks promise about messages

A document without errors has a section of messages, none of these sections is empty, and each section
that stands inside one declares a message whose content can be read. Sections outside of them are not
looked at.
-/
namespace Dialogue.Check

/-- A section that declares a message, with content that can be read. -/
def Readable (message : Section) : Prop :=
  message.isMessage = true ∧ ∃ content, Message.content message = .ok content

/-- What the checks promise about the messages of a document. -/
structure MessagesSound (doc : Document) : Prop where
  declared : doc.gather "messages" ≠ []
  readable : ∀ s ∈ doc.gather "messages", ∀ m ∈ s.children, Readable m
  inhabited : ∀ s ∈ doc.gather "messages", ∃ m ∈ s.children, m.isMessage = true

theorem errorFree_messageContent (label : String) (message : Section) :
    ErrorFree (messageContent label message) ↔ ∃ content, Message.content message = .ok content := by
  unfold messageContent
  cases read : Message.content message with
  | ok content => simp [ErrorFree]
  | error e => simp [ErrorFree, Problem.severity]

/-- What the check of a message says, whether it has a name or not. -/
theorem readable_of_errorFree {seen : List String} {message : Section} {rest : List Section}
    (passed : ErrorFree (messageList seen (message :: rest))) :
    Readable message ∧ ∃ seen, ErrorFree (messageList seen rest) := by
  rw [messageList] at passed
  split at passed
  next isMessage =>
    cases named : message.name? with
    | none =>
      simp only [ErrorFree, named, only_append] at passed
      exact ⟨⟨isMessage, (errorFree_messageContent _ _).mp passed.1⟩, _, passed.2⟩
    | some name =>
      simp only [ErrorFree, named, only_append] at passed
      exact ⟨⟨isMessage, (errorFree_messageContent _ _).mp passed.1.2⟩, _, passed.2⟩
  next => simp [ErrorFree, Problem.severity] at passed

theorem errorFree_messageList {seen : List String} {messages : List Section}
    (passed : ErrorFree (messageList seen messages)) : ∀ m ∈ messages, Readable m := by
  induction messages generalizing seen with
  | nil => simp
  | cons message rest ih =>
    obtain ⟨readable, seen, passed⟩ := readable_of_errorFree passed
    exact List.forall_mem_cons.mpr ⟨readable, ih passed⟩

theorem errorFree_messages {doc : Document} (passed : ErrorFree (messages doc)) :
    doc.gather "messages" ≠ [] ∧ ∀ s ∈ doc.gather "messages", ∀ m ∈ s.children, Readable m := by
  unfold messages at passed
  cases gathered : doc.gather "messages" with
  | nil => simp [ErrorFree, gathered, Problem.severity] at passed
  | cons first others =>
    simp only [ErrorFree, gathered, only_append] at passed
    refine ⟨List.cons_ne_nil _ _, fun s member m inside => ?_⟩
    exact errorFree_messageList passed.2 m (List.mem_flatMap.mpr ⟨s, member, inside⟩)

theorem errorFree_emptyMessages (doc : Document) :
    ErrorFree (Compilation.emptyMessages doc) ↔
      ∀ s ∈ doc.gather "messages", ∃ m ∈ s.children, m.isMessage = true := by
  simp only [ErrorFree, Compilation.emptyMessages, only_map, List.mem_filter, Problem.severity]
  simp

/-- A document without errors keeps all promises about messages. -/
theorem messagesSound_of_errorFree {options : CompilerOptions} {doc : Document}
    (passed : ErrorFree (Compilation.findings options doc)) : MessagesSound doc := by
  simp only [ErrorFree, Compilation.findings, document, only_append] at passed
  obtain ⟨⟨⟨⟨⟨_, messagesPassed⟩, _⟩, _⟩, _⟩, emptyPassed⟩ := passed
  obtain ⟨declared, readable⟩ := errorFree_messages messagesPassed
  exact ⟨declared, readable, (errorFree_emptyMessages doc).mp emptyPassed⟩

end Dialogue.Check
