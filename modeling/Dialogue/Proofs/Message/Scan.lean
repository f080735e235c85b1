import Dialogue.Document.Builder
import Dialogue.Proofs.Document.Places
import Dialogue.Proofs.Message.Extraction

/-!
# The scan for misplaced messages

Where no message stands where it belongs, the document is scanned for messages. The scan goes down a given number of
levels and stops at every message, so it comes to the messages that are in no other message. They are found as they
are written, each once.
-/
namespace Dialogue

/-! ## Sections inside sections -/

/-- The section that stands at a place of a section: the section itself, or one inside its children. -/
inductive Section.HasSectionAt : Section → Place → Section → Prop
  | here (s : Section) : HasSectionAt s [] s
  | inside {s child inner : Section} {i : Nat} {place : Place} :
      s.children[i]? = some child → HasSectionAt child place inner → HasSectionAt s (i :: place) inner

/-- The section that stands at a place of a document. -/
inductive Document.HasSectionAt : Document → Place → Section → Prop
  | inside {doc : Document} {s inner : Section} {i : Nat} {place : Place} :
      doc.sections[i]? = some s → s.HasSectionAt place inner → HasSectionAt doc (i :: place) inner

/-- How many sections are around a place of a document. -/
def Place.depth (place : Place) : Nat := place.length - 1

theorem Section.hasSectionAt_nil {s inner : Section} : s.HasSectionAt [] inner ↔ inner = s := by
  constructor
  · intro held
    cases held
    rfl
  · rintro rfl
    exact .here inner

theorem Section.hasSectionAt_cons {s inner : Section} {i : Nat} {place : Place} :
    s.HasSectionAt (i :: place) inner ↔
      ∃ child, s.children[i]? = some child ∧ child.HasSectionAt place inner := by
  constructor
  · intro held
    cases held with
    | inside found held => exact ⟨_, found, held⟩
  · rintro ⟨child, found, held⟩
    exact .inside found held

theorem Document.hasSectionAt_cons {doc : Document} {inner : Section} {i : Nat} {place : Place} :
    doc.HasSectionAt (i :: place) inner ↔
      ∃ s, doc.sections[i]? = some s ∧ s.HasSectionAt place inner := by
  constructor
  · intro held
    cases held with
    | inside found held => exact ⟨_, found, held⟩
  · rintro ⟨s, found, held⟩
    exact .inside found held

namespace Message

/-- A message that is in no other message. -/
structure OutermostAt (has : Place → Section → Prop) (place : Place) (m : Section) : Prop where
  held : has place m
  isMessage : m.isMessage = true
  alone : ∀ above s, above <+: place → above ≠ place → has above s → s.isMessage = false

/-- Where the top is no message, the outermost messages are those of the parts. -/
theorem outermostAt_iff_indexed {parts : List Section} {has : Place → Section → Prop}
    (nested : ∀ i place m, has (i :: place) m ↔ ∃ s, parts[i]? = some s ∧ s.HasSectionAt place m)
    (top : ∀ s, has [] s → s.isMessage = false) (place : Place) (m : Section) :
    OutermostAt has place m ↔ Indexed parts (fun s => OutermostAt s.HasSectionAt) place m := by
  constructor
  · rintro ⟨held, isMessage, alone⟩
    cases place with
    | nil => simp [top m held] at isMessage
    | cons i rest =>
      obtain ⟨s, found, below⟩ := (nested i rest m).mp held
      refine ⟨i, s, rest, found, rfl, below, isMessage, fun above a around different there => ?_⟩
      refine alone (i :: above) a (List.cons_prefix_cons.mpr ⟨rfl, around⟩) (by simpa using different) ?_
      exact (nested i above a).mpr ⟨s, found, there⟩
  · rintro ⟨i, s, rest, found, rfl, held, isMessage, alone⟩
    refine ⟨(nested i rest m).mpr ⟨s, found, held⟩, isMessage, fun above a around different there => ?_⟩
    cases above with
    | nil => exact top a there
    | cons j above =>
      obtain ⟨rfl, inner⟩ := List.cons_prefix_cons.mp around
      obtain ⟨other, located, below⟩ := (nested j above a).mp there
      obtain rfl : s = other := Option.some.inj (found.symm.trans located)
      exact alone above a inner (by simpa using different) below

/-- A message is the only outermost one at or below it. -/
theorem outermostAt_of_message {s : Section} (isMessage : s.isMessage = true) (place : Place)
    (m : Section) : OutermostAt s.HasSectionAt place m ↔ place = [] ∧ m = s := by
  constructor
  · rintro ⟨held, _, alone⟩
    cases place with
    | nil => exact ⟨rfl, Section.hasSectionAt_nil.mp held⟩
    | cons i rest =>
      have covered := alone [] s List.nil_prefix (by simp) (.here s)
      simp [isMessage] at covered
  · rintro ⟨rfl, rfl⟩
    refine ⟨.here m, isMessage, fun above _ around different _ => ?_⟩
    exact absurd (List.prefix_nil.mp around) different

/-! ## What the scan finds -/

theorem scan_enumerates_of_message {s : Section} (isMessage : s.isMessage = true) (budget : Nat) :
    Enumerates (fun place m => place.length ≤ budget ∧ OutermostAt s.HasSectionAt place m)
      (scan budget s) := by
  have only : scan budget s = [s] := by
    cases budget with
    | zero => rw [scan_zero, if_pos isMessage]
    | succ budget => rw [scan_succ, if_pos isMessage]
  rw [only]
  refine (enumerates_here s).congr fun place m => ?_
  rw [outermostAt_of_message isMessage]
  exact (and_iff_right_of_imp fun here => by simp [here.1]).symm

/-- The scan lists the outermost messages that are no more levels down than it goes. -/
theorem scan_enumerates (budget : Nat) (s : Section) :
    Enumerates (fun place m => place.length ≤ budget ∧ OutermostAt s.HasSectionAt place m)
      (scan budget s) := by
  induction budget generalizing s with
  | zero =>
    cases isMessage : s.isMessage with
    | true => exact scan_enumerates_of_message isMessage 0
    | false =>
      rw [scan_zero, isMessage]
      refine enumerates_nil fun place m => ?_
      rintro ⟨short, held, marked, _⟩
      obtain rfl := List.eq_nil_of_length_eq_zero (Nat.le_zero.mp short)
      rw [Section.hasSectionAt_nil.mp held, isMessage] at marked
      exact Bool.noConfusion marked
  | succ budget ih =>
    cases isMessage : s.isMessage with
    | true => exact scan_enumerates_of_message isMessage (budget + 1)
    | false =>
      have top : ∀ t, s.HasSectionAt [] t → t.isMessage = false := by
        intro t here
        rw [Section.hasSectionAt_nil.mp here, isMessage]
      rw [scan_succ, isMessage]
      refine (enumerates_indexed fun child _ => ih child).congr fun place m => ?_
      rw [outermostAt_iff_indexed (fun _ _ _ => Section.hasSectionAt_cons) top]
      -- one level down, a place is one longer and the scan has one level less to go
      constructor
      · rintro ⟨i, child, rest, found, rfl, short, held⟩
        exact ⟨Nat.succ_le_succ short, i, child, rest, found, rfl, held⟩
      · rintro ⟨short, i, child, rest, found, rfl, held⟩
        exact ⟨i, child, rest, found, rfl, Nat.le_of_succ_le_succ short, held⟩

/-- The outermost messages of a document, down to a depth. -/
def ReachedAt (doc : Document) (depth : Nat) (place : Place) (m : Section) : Prop :=
  place.depth ≤ depth ∧ OutermostAt doc.HasSectionAt place m

theorem scan_sections_enumerates (budget : Nat) (doc : Document) :
    Enumerates (ReachedAt doc budget) (doc.sections.flatMap (scan budget)) := by
  have top : ∀ s, doc.HasSectionAt [] s → s.isMessage = false := by
    intro s here
    cases here
  refine (enumerates_indexed fun s _ => scan_enumerates budget s).congr fun place m => ?_
  rw [ReachedAt, outermostAt_iff_indexed (fun _ _ _ => Document.hasSectionAt_cons) top]
  constructor
  · rintro ⟨i, s, rest, found, rfl, short, held⟩
    exact ⟨short, i, s, rest, found, rfl, held⟩
  · rintro ⟨short, i, s, rest, found, rfl, held⟩
    exact ⟨i, s, rest, found, rfl, short, held⟩

theorem candidates_of_misplaced {doc : Document} (misplaced : primaryCandidates doc = []) (depth : Nat) :
    candidates doc depth = doc.sections.flatMap (scan (min depth maxScanDepth)) := by
  rw [candidates, misplaced]

/-- Where no message stands where it belongs, the candidates are the outermost messages down to the depth of the
scan, which is never more than twenty: as they are written, each once. A deeper scan finds what a shallower one finds
and perhaps more, and all scans of twenty levels or more yield the same. -/
theorem scan_finds_outermost (doc : Document) (misplaced : primaryCandidates doc = []) (depth : Nat) :
    Enumerates (ReachedAt doc (min depth 20)) (candidates doc depth) ∧
      (∀ deeper, depth ≤ deeper → (candidates doc depth).Sublist (candidates doc deeper)) ∧
      ∀ deeper, 20 ≤ depth → 20 ≤ deeper →
        candidates doc depth = candidates doc deeper ∧ extract doc depth = extract doc deeper := by
  have found : ∀ depth, Enumerates (ReachedAt doc (min depth 20)) (candidates doc depth) := by
    intro depth
    rw [candidates_of_misplaced misplaced]
    exact scan_sections_enumerates _ doc
  refine ⟨found depth, fun deeper more => ?_, fun deeper enough also => ?_⟩
  · refine (found depth).sublist (found deeper) fun place m reached => ⟨?_, reached.2⟩
    have short := reached.1
    omega
  · have same : candidates doc depth = candidates doc deeper := by
      rw [candidates_of_misplaced misplaced, candidates_of_misplaced misplaced, maxScanDepth,
        Nat.min_eq_right enough, Nat.min_eq_right also]
    exact ⟨same, by rw [extract, extract, same]⟩

/-- Two misplaced messages, the deeper one first, and one more that is inside the first. -/
def strayDocument : Document :=
  let tip := (spoken "Try the mocha").withName "tip"
  let extras := (Section.ofKind "extras").withNode (.child (tip.withNode (.child tip)))
  let agent := (Section.ofKind "agent").withName "Coffee" |>.withNode (.child extras)
    |>.withNode (.child ((Section.ofKind "richCard").withName "menu"))
  ⟨[agent], none⟩

theorem scan_finds_outermost_stray :
    primaryCandidates strayDocument = [] ∧
      ((candidates strayDocument 1).map Section.name? = [some "menu"] ∧
        (candidates strayDocument 2).map Section.name? = [some "tip", some "menu"]) ∧
      Enumerates (ReachedAt strayDocument 2) (candidates strayDocument 2) ∧
      (candidates strayDocument 1).Sublist (candidates strayDocument 2) ∧
      candidates strayDocument 20 = candidates strayDocument 35 := by
  have misplaced : primaryCandidates strayDocument = [] := rfl
  obtain ⟨_, deeper, _⟩ := scan_finds_outermost strayDocument misplaced 1
  obtain ⟨found, _, _⟩ := scan_finds_outermost strayDocument misplaced 2
  obtain ⟨_, _, enough⟩ := scan_finds_outermost strayDocument misplaced 20
  exact ⟨misplaced, by decide +kernel, found, deeper 2 (by decide),
    (enough 35 (by decide) (by decide)).1⟩

end Message

end Dialogue
