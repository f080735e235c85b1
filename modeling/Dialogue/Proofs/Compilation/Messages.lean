import Dialogue.Proofs.Check.Messages
import Dialogue.Proofs.Compilation.Success
import Dialogue.Proofs.Message.Extraction

/-!
# What becomes of messages

A message can get lost on the way into a compiled agent in two ways. It cannot be read although no check
says so: this happens to messages at the top level of a document, which are extracted but not checked. Or
it has no name of its own and the name that its number gives it is taken by another message.
-/
namespace Dialogue

/-! ## Messages that cannot be read -/

namespace Check.MessagesSound

variable {doc : Document}

/-- A sound document has a message where messages belong. -/
theorem primary (sound : MessagesSound doc) : ∃ m, m ∈ Message.primaryCandidates doc := by
  obtain ⟨s, gathered⟩ := List.exists_mem_of_ne_nil _ sound.declared
  obtain ⟨m, inside, isMessage⟩ := sound.inhabited s gathered
  exact ⟨m, (Message.mem_primaryCandidates doc m).mpr ⟨isMessage, Or.inr ⟨s, gathered, inside⟩⟩⟩

theorem candidates (sound : MessagesSound doc) (depth : Nat) :
    Message.candidates doc depth = Message.primaryCandidates doc := by
  obtain ⟨m, member⟩ := sound.primary
  exact Message.candidates_of_primary depth member

/-- What stands in a section of messages can be read. -/
theorem no_failures_inside (sound : MessagesSound doc) {top : Section} (listed : top ∈ doc.sections) :
    ((Document.gatherFrom "messages" top).flatMap fun m =>
      m.children.filter Section.isMessage).flatMap Message.failures = [] := by
  simp only [List.flatMap_eq_nil_iff, List.mem_flatMap, List.mem_filter]
  rintro m ⟨s, gathered, inside, _⟩
  have inDocument : s ∈ doc.gather "messages" := List.mem_flatMap.mpr ⟨top, listed, gathered⟩
  exact (Message.failures_eq_nil_iff m).mpr (sound.readable s inDocument m inside).2

theorem failures_candidatesOf (sound : MessagesSound doc) {top : Section}
    (listed : top ∈ doc.sections) :
    (Message.candidatesOf top).flatMap Message.failures =
      if top.isMessage then Message.failures top else [] := by
  rw [Message.candidatesOf_eq, List.flatMap_append, sound.no_failures_inside listed]
  split <;> simp

theorem failures_filter (sections : List Section) :
    (sections.filter Section.isMessage).flatMap Message.failures =
      sections.flatMap fun s => if s.isMessage then Message.failures s else [] := by
  induction sections with
  | nil => rfl
  | cons s rest ih => by_cases isMessage : s.isMessage = true <;> simp [isMessage, ih]

/-- The failures of an extraction are those of the messages at the top level. -/
theorem failures_extract (sound : MessagesSound doc) (depth : Nat) :
    (Message.extract doc depth).errors.filter Message.isFailure =
      (doc.sections.filter Section.isMessage).flatMap Message.failures := by
  rw [Message.filter_errors_extract, sound.candidates, Message.primaryCandidates,
    List.flatMap_assoc, failures_filter, List.flatMap_def, List.flatMap_def,
    List.map_congr_left fun top listed => sound.failures_candidatesOf listed]

end Check.MessagesSound

/-- In a successful compilation the messages inside sections of messages are all extracted, whatever the
depth of the scan. The extraction fails for those messages at the top level that cannot be read, in their
order, and for nothing else. -/
theorem extraction_failures_exact {options : CompilerOptions} {input : SourceDocument}
    {c : CompiledAgent} (success : (compile options input).data = some c) (depth : Nat) :
    (∀ m, m ∈ Message.candidates input.ast depth ↔ m.isMessage = true ∧
      (m ∈ input.ast.sections ∨ ∃ s ∈ input.ast.gather "messages", m ∈ s.children)) ∧
    (∀ s ∈ input.ast.gather "messages", ∀ m ∈ s.children,
      m.isMessage = true ∧ ∃ content, Message.content m = .ok content) ∧
    (Message.extract input.ast depth).errors.filter Message.isFailure =
      (input.ast.sections.filter Section.isMessage).flatMap Message.failures ∧
    ((∀ error ∈ (Message.extract input.ast depth).errors, Message.isFailure error = false) ↔
      ∀ m ∈ Message.candidates input.ast depth, ∃ content, Message.content m = .ok content) := by
  have sound := Check.messagesSound_of_errorFree (compile_findings success)
  refine ⟨fun m => ?_, sound.readable, sound.failures_extract depth, ?_⟩
  · rw [sound.candidates, Message.mem_primaryCandidates]
  · have noFailure : (∀ error ∈ (Message.extract input.ast depth).errors,
        Message.isFailure error = false) ↔
          (Message.extract input.ast depth).errors.filter Message.isFailure = [] := by
      simp [List.filter_eq_nil_iff]
    rw [noFailure, Message.filter_errors_extract, List.flatMap_eq_nil_iff]
    simp only [Message.failures_eq_nil_iff]

/-- An agent with one flow and some messages, and further sections behind them. -/
def coffeeInput (messages others : List Section) : SourceDocument :=
  agentInput (namedAgent "Coffee") messages others

/-- An input with a message at the top level whose text is no string. -/
def strayInput : SourceDocument := coffeeInput [helloMessage] [Message.mute.withName "broken"]

/-- The compilation succeeds and the message is gone. -/
theorem stray_message_dropped :
    (compile .standard strayInput).success = true ∧
      (compile .standard strayInput).diagnostics.isEmpty = true ∧
      ((compile .standard strayInput).data.map fun c =>
        c.messages.keys) = some ["hello"] ∧
      (Message.extract strayInput.ast 20).errors =
        ["Failed to extract message at line unknown: text must be a string, found boolean"] := by
  decide +kernel

theorem extraction_failures_exact_stray :
    ∃ c, (compile .standard strayInput).data = some c ∧
      ∃ m ∈ Message.candidates strayInput.ast 0,
        ∀ content, Message.content m ≠ .ok content := by
  have compiled : (compile .standard
      strayInput).data.isSome = true := by decide +kernel
  obtain ⟨c, success⟩ := Option.isSome_iff_exists.mp compiled
  obtain ⟨_, _, _, readable⟩ := extraction_failures_exact success 0
  have failed : ¬ ∀ error ∈ (Message.extract strayInput.ast
      0).errors, Message.isFailure error = false := by decide +kernel
  simp only [readable, Classical.not_forall, not_exists] at failed
  obtain ⟨m, member, unreadable⟩ := failed
  exact ⟨c, success, m, member, unreadable⟩

/-! ## Messages whose name is taken -/

namespace Message

theorem ordinalName_injective {first second : Nat} (equal : ordinalName first = ordinalName second) :
    first = second := by
  have digits : Nat.toDigits 10 first = Nat.toDigits 10 second := by
    simpa [ordinalName, ← String.toList_inj, String.toList_append, Nat.toString_eq_repr] using equal
  have values := congrArg (Nat.ofDigitChars 10 · 0) digits
  simpa only [Nat.ofDigitChars_ten_toDigits] using values

/-- A message has the name that the number of another one, without a name, stands for. -/
def OrdinalClash (entries : List (Section × Content)) : Prop :=
  ∃ named ∈ entries, ∃ order unnamed, entries[order]? = some unnamed ∧
    unnamed.1.name? = none ∧ named.1.name? = some (ordinalName order)

theorem names_recognized_sublist (sections : List Section) :
    ((recognized sections).filterMap fun entry => entry.1.name?).Sublist
      (sections.filterMap Section.name?) := by
  have kept : ((recognized sections).map Prod.fst).Sublist sections := by
    rw [sources_recognized]
    exact List.filter_sublist
  simpa [List.filterMap_map, Function.comp_def] using kept.filterMap Section.name?

/-- Two messages have the same id only when a name clashes with a number. -/
theorem numbered_id_ne {entries : List (Section × Content)}
    (distinct : (entries.filterMap fun entry => entry.1.name?).Nodup)
    (separate : ¬ OrdinalClash entries) {i j : Nat} {first second : Section × Content}
    (atFirst : entries[i]? = some first) (atSecond : entries[j]? = some second) (before : i < j) :
    (numbered (first, i)).id ≠ (numbered (second, j)).id := by
  intro equal
  have firstMember := List.mem_of_getElem? atFirst
  have secondMember := List.mem_of_getElem? atSecond
  unfold numbered at equal
  cases firstName : first.1.name? with
  | none =>
    cases secondName : second.1.name? with
    | none =>
      simp only [firstName, secondName, Option.getD_none] at equal
      exact Nat.ne_of_lt before (ordinalName_injective equal)
    | some name =>
      simp only [firstName, secondName, Option.getD_none, Option.getD_some] at equal
      exact separate ⟨second, secondMember, i, first, atFirst, firstName, by rw [secondName, equal]⟩
  | some name =>
    cases secondName : second.1.name? with
    | none =>
      simp only [firstName, secondName, Option.getD_none, Option.getD_some] at equal
      exact separate ⟨first, firstMember, j, second, atSecond, secondName, by rw [firstName, equal]⟩
    | some other =>
      simp only [firstName, secondName, Option.getD_some] at equal
      obtain ⟨firstBound, rfl⟩ := List.getElem?_eq_some_iff.mp atFirst
      obtain ⟨secondBound, rfl⟩ := List.getElem?_eq_some_iff.mp atSecond
      have apart := List.pairwise_iff_getElem.mp (List.pairwise_filterMap.mp distinct) i j
        firstBound secondBound before name firstName other secondName
      exact apart equal

theorem ids_nodup_iff {entries : List (Section × Content)}
    (distinct : (entries.filterMap fun entry => entry.1.name?).Nodup) :
    ((entries.zipIdx.map numbered).map Extracted.id).Nodup ↔ ¬ OrdinalClash entries := by
  constructor
  · rintro apart ⟨named, member, order, unnamed, atOrder, noName, name⟩
    obtain ⟨place, bound, atPlace⟩ := List.getElem_of_mem member
    have same : ((entries.zipIdx.map numbered).map Extracted.id)[place]? =
        ((entries.zipIdx.map numbered).map Extracted.id)[order]? := by
      simp [List.getElem?_zipIdx, atOrder, List.getElem?_eq_getElem bound, atPlace, numbered, name,
        noName]
    have equal : place = order := (List.getElem?_inj (by simpa using bound) apart).mp same
    subst equal
    rw [List.getElem?_eq_getElem bound, atPlace, Option.some.injEq] at atOrder
    subst atOrder
    simp [noName] at name
  · intro separate
    refine List.pairwise_iff_getElem.mpr fun i j boundI boundJ before => ?_
    simp only [List.length_map, List.length_zipIdx] at boundI boundJ
    simpa [List.getElem_zipIdx] using numbered_id_ne distinct separate
      (List.getElem?_eq_getElem boundI) (List.getElem?_eq_getElem boundJ) before

theorem lookup_messages (id : String) (messages : List Extracted) :
    Table.lookup id (messages.map fun m => (m.id, m.content)) =
      (messages.find? fun m => m.id = id).map Extracted.content := by
  rw [Table.lookup_eq_find?, List.find?_map, Option.map_map]
  rfl

end Message

/-- The catalog of a successful compilation, when no two messages are given the same name. It has one entry
for each extracted message, and each id stands for its own message, exactly when no message is called what
the number of an unnamed one stands for; then the entries are the messages in their order. In any case an
id stands for the first message that has it. -/
theorem catalog_complete_iff {options : CompilerOptions} {input : SourceDocument} {c : CompiledAgent}
    (success : (compile options input).data = some c)
    (distinct : ((Message.candidates input.ast options.effectiveScanDepth).filterMap
      Section.name?).Nodup) :
    let extracted := (Message.extract input.ast options.effectiveScanDepth).messages
    let clash := Message.OrdinalClash
      (Message.recognized (Message.candidates input.ast options.effectiveScanDepth))
    ((c.messages.size = extracted.length ∧
      ∀ m ∈ extracted, c.messages.get? m.id = some m.content) ↔ ¬ clash) ∧
    (¬ clash → c.messages.entries = extracted.map fun m => (m.id, m.content)) ∧
    ∀ id, c.messages.get? id = (extracted.find? fun m => m.id = id).map Message.Extracted.content := by
  intro extracted clash
  obtain ⟨_, _, messages, _⟩ := compile_data success
  have distinctIds : (extracted.map Message.Extracted.id).Nodup ↔ ¬ clash := by
    have names := distinct.sublist (Message.names_recognized_sublist _)
    rw [← Message.ids_nodup_iff names, ← Message.extract_messages]
  have keys : (extracted.map fun m => (m.id, m.content)).map Prod.fst =
      extracted.map Message.Extracted.id := by simp
  have kept : ¬ clash → c.messages.entries = extracted.map fun m => (m.id, m.content) := by
    intro separate
    rw [messages, Compilation.catalog, Table.entries_ofFirst_of_distinct]
    rw [keys]
    exact distinctIds.mpr separate
  refine ⟨⟨fun ⟨whole, _⟩ => ?_, fun separate => ⟨?_, fun m member => ?_⟩⟩, kept, fun id => ?_⟩
  · rw [← distinctIds, ← keys, ← Table.size_ofFirst_iff, List.length_map, ← whole, messages]
    rfl
  · rw [Table.size, kept separate, List.length_map]
  · rw [Table.get?_eq_some_iff, kept separate]
    exact List.mem_map.mpr ⟨m, member, rfl⟩
  · rw [messages, Compilation.catalog, Table.get?_ofFirst, Message.lookup_messages]

def greetingInput : SourceDocument := coffeeInput [helloMessage, Message.spoken "Bye"] []

theorem catalog_complete_iff_greeting :
    ((Message.candidates greetingInput.ast CompilerOptions.standard.effectiveScanDepth).filterMap
      Section.name?).Nodup ∧
    ∃ c, (compile .standard greetingInput).data = some c ∧
      c.messages.keys = ["hello", "message_1"] ∧
      ¬ Message.OrdinalClash (Message.recognized
        (Message.candidates greetingInput.ast CompilerOptions.standard.effectiveScanDepth)) := by
  have distinct : ((Message.candidates greetingInput.ast
      CompilerOptions.standard.effectiveScanDepth).filterMap Section.name?).Nodup := by
    decide +kernel
  have compiled : (compile .standard greetingInput).data.any (fun c =>
      c.messages.keys = ["hello", "message_1"] ∧
        c.messages.size = (Message.extract greetingInput.ast
          CompilerOptions.standard.effectiveScanDepth).messages.length ∧
        ∀ m ∈ (Message.extract greetingInput.ast
          CompilerOptions.standard.effectiveScanDepth).messages,
          c.messages.get? m.id = some m.content) = true := by decide +kernel
  cases success : (compile .standard greetingInput).data with
  | none => simp [success] at compiled
  | some c =>
    simp only [success, Option.any_some, decide_eq_true_eq] at compiled
    obtain ⟨keys, complete⟩ := compiled
    exact ⟨distinct, c, rfl, keys, (catalog_complete_iff success distinct).1.mp complete⟩

/-- A message without a name behind one that is called like the number of the second message. -/
def numberedInput : SourceDocument :=
  coffeeInput [(Message.spoken "Hello").withName "message_1", Message.spoken "Bye"] []

/-- Two messages are extracted, under distinct names as far as they have any; one of them is compiled. -/
theorem unnamed_message_lost :
    let depth := CompilerOptions.standard.effectiveScanDepth
    (compile .standard numberedInput).success = true ∧
      (compile .standard numberedInput).diagnostics.isEmpty = true ∧
      ((Message.candidates numberedInput.ast depth).filterMap Section.name?).Nodup ∧
      (Message.extract numberedInput.ast depth).messages.map (fun m => (m.id, m.content.text)) =
        [("message_1", some "Hello"), ("message_1", some "Bye")] ∧
      ((compile .standard numberedInput).data.map fun c =>
        c.messages.entries.map fun entry => (entry.1, entry.2.text)) =
          some [("message_1", some "Hello")] := by
  decide +kernel

end Dialogue
