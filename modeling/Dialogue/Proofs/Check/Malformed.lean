import Dialogue.Proofs.Check.Reported
import Dialogue.Proofs.Message.Conflicts
import Dialogue.Proofs.Message.Extraction

/-!
# Malformed messages

The checks and the extraction build the content of a message separately, the one for the sake of its errors,
the other for the sake of the content. They agree: inside the sections of messages a message is reported as
malformed exactly if it cannot be extracted, for the same reason.
-/
namespace Dialogue

namespace Message

/-- The extraction of a section fails: there is no content, and the only error says why. -/
def FailsWith (s : Section) (reason : String) : Prop :=
  (extractNode s).content = none ∧ (extractNode s).errors = [failureText s reason]

theorem failureText_injective {s : Section} {first second : String}
    (equal : failureText s first = failureText s second) : first = second := by
  unfold failureText at equal
  generalize "Failed to extract message at " ++ lineLabel s ++ ": " = opening at equal
  have chars := congrArg String.toList equal
  rw [String.toList_append, String.toList_append] at chars
  exact String.toList_inj.mp (List.append_cancel_left chars)

/-- An extraction fails exactly if the content cannot be built; an error of a conflict is never mistaken for
that. -/
theorem failsWith_iff (s : Section) (reason : String) :
    FailsWith s reason ↔ ∃ e, content s = .error e ∧ e.message = reason := by
  constructor
  · rintro ⟨_, single⟩
    cases read : content s with
    | error e =>
      rw [extractNode_of_error read, List.cons.injEq] at single
      exact ⟨e, rfl, failureText_injective single.1⟩
    | ok c =>
      obtain ⟨_, conflicts, errors⟩ := extractNode_of_ok read
      have member : failureText s reason ∈ conflicts.map (conflictText s) := by
        rw [← errors, single]
        exact List.mem_singleton.mpr rfl
      obtain ⟨conflict, _, equal⟩ := List.mem_map.mp member
      have failure := isFailure_failureText s reason
      rw [← equal, isFailure_conflictText] at failure
      exact absurd failure Bool.false_ne_true
  · rintro ⟨e, failed, rfl⟩
    rw [FailsWith, extractNode_of_error failed]
    exact ⟨rfl, rfl⟩

end Message

namespace Check

/-- The messages that stand in the sections of messages. -/
def declaredMessages (doc : Document) : List Section :=
  (doc.gather "messages").flatMap fun s => s.children.filter Section.isMessage

/-- What a message is called in findings. -/
def messageLabel (s : Section) : String := s.name?.getD (unnamed ++ " " ++ s.kind)

/-- What the check of its content has to say on a message. -/
def reportOn (s : Section) : List Finding := messageContent (messageLabel s) s

theorem reportOn_eq_iff (s : Section) (reason : String) :
    reportOn s = [⟨.malformedMessage (messageLabel s) reason, s.range⟩] ↔
      Message.FailsWith s reason := by
  rw [Message.failsWith_iff, reportOn, messageContent]
  cases read : Message.content s with
  | ok c => simp
  | error e => simp

theorem reportOn_eq_nil_iff (s : Section) :
    reportOn s = [] ↔ ∃ c, Message.content s = .ok c := by
  rw [reportOn, messageContent]
  cases read : Message.content s <;> simp

/-- One message after the other: each of them gets its own reports under the code, whatever names were
seen. -/
theorem withCode_messageList (seen : List String) (sections : List Section) :
    withCode .malformedMessageContent (messageList seen sections) =
      (sections.filter Section.isMessage).flatMap reportOn := by
  have own (label : String) (s : Section) :
      withCode .malformedMessageContent (messageContent label s) = messageContent label s :=
    withCode_of_single (only_messageContent label s)
  have repeated (kind : String) (seen : List String) (name : String) (s : Section) :
      withCode .malformedMessageContent (repeatedName kind seen name s) = [] :=
    withCode_of_foreign (only_repeatedName kind seen name s) (by decide)
  induction sections generalizing seen with
  | nil => rfl
  | cons s rest ih =>
    rw [messageList]
    by_cases isMessage : s.isMessage = true
    · rw [if_pos isMessage, List.filter_cons_of_pos isMessage, List.flatMap_cons, reportOn,
        messageLabel]
      cases named : s.name? with
      | none => simp only [withCode_append, own, ih, Option.getD_none]
      | some name =>
        simp only [withCode_append, own, repeated, ih, Option.getD_some, List.nil_append]
    · rw [if_neg isMessage, List.filter_cons_of_neg isMessage, ← ih seen]
      rfl

theorem withCode_malformedMessage (doc : Document) :
    withCode .malformedMessageContent (document doc) = (declaredMessages doc).flatMap reportOn := by
  have structural : withCode .malformedMessageContent (document doc) =
      withCode .malformedMessageContent (messages doc) := by
    rw [withCode_structural (by decide) (by decide), withCode_of_foreign (only_agent doc) (by decide),
      withCode_of_foreign (only_flows doc) (by decide), List.nil_append, List.nil_append]
  rw [structural, messages, declaredMessages]
  cases doc.gather "messages" with
  | nil => rfl
  | cons first others =>
    have extra : withCode .malformedMessageContent (others.map fun other =>
        ⟨.duplicateDefinition "messages" none, other.range⟩) = [] :=
      withCode_of_foreign (only_repeatedSections "messages" others) (by decide)
    simp only [withCode_append, extra, withCode_messageList, List.filter_flatMap,
      List.nil_append]

/-- The checks and the extraction agree on what is malformed. The reports of malformed messages are, in order,
those on the messages that stand in sections of messages. A message is reported, once and with a reason, exactly
if its extraction fails with that reason; any other message is extracted with the content that the checks have
built for it, if that shows something, and without content if not. Building the content with a buffer of earlier
conflicts changes neither the content nor the failure. -/
theorem malformed_messages_agree (doc : Document) :
    withCode .malformedMessageContent (document doc) = (declaredMessages doc).flatMap reportOn ∧
    (∀ s reason, reportOn s = [⟨.malformedMessage (messageLabel s) reason, s.range⟩] ↔
      Message.FailsWith s reason) ∧
    (∀ s, (∀ reason, ¬Message.FailsWith s reason) →
      reportOn s = [] ∧ ∃ c, Message.content s = .ok c ∧
        (Message.extractNode s).content = if c.isRecognized then some c else none) ∧
    ∀ buffer s, Message.buildInto buffer s =
      (fun built => (built.1, buffer ++ built.2)) <$> Message.build s := by
  refine ⟨withCode_malformedMessage doc, reportOn_eq_iff, ?_, Message.buildInto_eq⟩
  intro s extracted
  cases read : Message.content s with
  | error e => exact absurd ((Message.failsWith_iff s _).mpr ⟨e, read, rfl⟩) (extracted e.message)
  | ok c =>
    exact ⟨(reportOn_eq_nil_iff s).mpr ⟨c, read⟩, c, rfl, (Message.extractNode_of_ok read).1⟩

def halfSilent : Document :=
  ⟨[(Section.ofKind "messages").withNode (.child (Message.spoken "Hi"))
    |>.withNode (.child Message.mute)], none⟩

theorem malformed_messages_agree_silent :
    (withCode .malformedMessageContent (document halfSilent)).map Finding.problem =
      [.malformedMessage "<unnamed> text" "text must be a string, found boolean"] ∧
    Message.FailsWith Message.mute "text must be a string, found boolean" ∧
    (∀ reason, ¬Message.FailsWith (Message.spoken "Hi") reason) ∧
    reportOn (Message.spoken "Hi") = [] ∧ ∃ c, Message.content (Message.spoken "Hi") = .ok c ∧
      (Message.extractNode (Message.spoken "Hi")).content = if c.isRecognized then some c else none := by
  obtain ⟨reported, malformed, wellFormed, _⟩ := malformed_messages_agree halfSilent
  have clean : (Message.extractNode (Message.spoken "Hi")).errors = [] := by decide +kernel
  have extracted : ∀ reason, ¬Message.FailsWith (Message.spoken "Hi") reason := by
    intro reason failed
    exact List.cons_ne_nil _ _ (failed.2.symm.trans clean)
  refine ⟨?_, (malformed Message.mute _).mp rfl, extracted, wellFormed (Message.spoken "Hi") extracted⟩
  rw [reported]
  rfl

end Check

end Dialogue
