import Dialogue.Proofs.Document.Respelling
import Dialogue.Proofs.Message.Extraction
import Dialogue.Proofs.Message.Reading

/-!
# Messages of a respelt document

No reader of a message notices a respelling, which leaves literals and texts as they are. So the messages
of a respelt document are those of the document, in the same order and with the same names; only their
places differ.
-/
namespace Dialogue.Message

variable (r : Respelling)

/-! ## Sections -/

/-- Places and the spelling of atoms are not looked at. -/
theorem unnoticed_respell : Value.Unnoticed (Value.respell r) := by
  refine .of_bare (Value.literal_respell r) (Value.core_respell r) fun v bare => ?_
  cases v with
  | contextualized value context range => cases bare
  | atom value range => exact .atom _ _ (r.atomName_atom value)
  | list items range =>
    rw [Value.respell, Value.respellItems_eq]
    exact .list items _ _
  | dictionary entries range =>
    rw [Value.respell, Value.respellEntries_eq]
    refine .dictionary _ _ ?_
    rw [List.map_map]
    rfl
  | _ => constructor

theorem bareString?_respell (n : Node) :
    bareString? (n.respell r) = (bareString? n).map (Value.respell r) := by
  match n with
  | .value v => cases v <;> rfl
  | .child _ | .attribute _ | .matchBlock _ | .transition _ => rfl

theorem givesAlike_respell (s : Section) : GivesAlike (Value.respell r) s (s.respell r) where
  kind := Section.kind_respell r s
  shorthand := shorthand?_congr (Section.kind_respell r s) (Section.positional?_respell r s)
    (Section.body_respell r s) (bareString?_respell r)
  named := Section.named_respell r s
  attributes := by
    rw [Section.attributes_respell, List.map_map]
    rfl

/-- A respelling has no say in what a message shows, nor in what is wrong with it. -/
@[simp] theorem build_respell (s : Section) : build (s.respell r) = build s :=
  build_congr (unnoticed_respell r) (givesAlike_respell r) (givesAlike_respell r s)
    (Section.childrenOf_respell r s "richCard")

@[simp] theorem content_respell (s : Section) : content (s.respell r) = content s := by
  simp [content]

/-! ## The catalog -/

theorem candidatesOf_respell (s : Section) :
    candidatesOf (s.respell r) = (candidatesOf s).map (Section.respell r) := by
  simp only [candidatesOf_eq, Section.isMessage_respell, Document.gatherFrom_respell,
    List.map_append, List.flatMap_map, List.map_flatMap, Section.children_respell, List.filter_map,
    Function.comp_def]
  split <;> rfl

theorem primaryCandidates_respell (doc : Document) :
    primaryCandidates (doc.respell r) = (primaryCandidates doc).map (Section.respell r) := by
  simp only [primaryCandidates, Document.respell, List.flatMap_map, List.map_flatMap,
    candidatesOf_respell]

theorem scan_respell (budget : Nat) (s : Section) :
    scan budget (s.respell r) = (scan budget s).map (Section.respell r) := by
  induction budget generalizing s with
  | zero =>
    rw [scan_zero, scan_zero, Section.isMessage_respell]
    split <;> rfl
  | succ budget ih =>
    rw [scan_succ, scan_succ, Section.isMessage_respell, Section.children_respell]
    split
    · rfl
    · simp only [List.flatMap_map, List.map_flatMap, ih]

theorem candidates_respell (doc : Document) (depth : Nat) :
    candidates (doc.respell r) depth = (candidates doc depth).map (Section.respell r) := by
  unfold candidates
  rw [primaryCandidates_respell]
  cases primaryCandidates doc with
  | nil => simp only [List.map_nil, Document.respell, List.flatMap_map, List.map_flatMap, scan_respell]
  | cons first rest => rfl

theorem content_extractNode (s : Section) :
    (extractNode (s.respell r)).content = (extractNode s).content := by
  unfold extractNode
  rw [build_respell]
  cases build s <;> rfl

theorem recognized_respell (sections : List Section) :
    recognized (sections.map (Section.respell r)) =
      (recognized sections).map fun entry => (entry.1.respell r, entry.2) := by
  simp [recognized, List.filterMap_map, List.map_filterMap, Function.comp_def, content_extractNode]

def Extracted.respell (m : Extracted) : Extracted := ⟨m.id, m.content, m.order, r.place m.location⟩

theorem numbered_respell (entry : (Section × Content) × Nat) :
    numbered ((entry.1.1.respell r, entry.1.2), entry.2) = (numbered entry).respell r := by
  simp [numbered, Extracted.respell]

/-- The messages of a respelt document are those of the document, at other places. -/
theorem messages_respell (doc : Document) (depth : Nat) :
    (extract (doc.respell r) depth).messages =
      (extract doc depth).messages.map (Extracted.respell r) := by
  rw [extract_messages, extract_messages, candidates_respell, recognized_respell, List.zipIdx_map,
    List.map_map, List.map_map]
  exact List.map_congr_left fun entry _ => numbered_respell r entry

end Dialogue.Message
