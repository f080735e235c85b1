import Dialogue.Document.Builder
import Dialogue.Proofs.Compilation.Structure

/-!
# Reports on reserved properties

An agent is named by its identifier, so none of the sections that give it properties may have a property `name`.
Where the document has an agent, each section that has one is reported, once. Without an agent none is: the check
ends when it finds that the agent is missing.
-/
namespace Dialogue.Check

/-- The first agent section and the sections of settings, those that may have no property `name`. -/
def guardedSections (doc : Document) : List Section :=
  doc.agents.take 1 ++ doc.gather "config" ++ doc.gather "configuration" ++ doc.gather "defaults"

/-- Those that have one. -/
def namedSections (doc : Document) : List Section :=
  (guardedSections doc).filter fun s => !s.lacks "name"

/-- The report on such a section, at the place of the attribute or else of the section. -/
def reservedReport (s : Section) : Finding :=
  ⟨.invalidPropertyName "name" s.kind, ((s.attribute? "name").bind Attribute.range).or s.range⟩

theorem reservedName_eq (s : Section) :
    reservedName s = if s.lacks "name" then [] else [reservedReport s] := by
  unfold reservedName reservedReport reservedProperty
  cases given : s.attribute? "name" with
  | none => rw [if_pos ((Section.attribute?_eq_none_iff s "name").mp given)]
  | some a =>
    have has : ¬s.lacks "name" = true := by
      rw [← Section.attribute?_eq_none_iff, given]
      exact Option.some_ne_none a
    rw [if_neg has]
    rfl

theorem flatMap_reservedName (sections : List Section) :
    sections.flatMap reservedName =
      (sections.filter fun s => !s.lacks "name").map reservedReport := by
  induction sections with
  | nil => rfl
  | cons s rest ih =>
    rw [List.flatMap_cons, ih, reservedName_eq]
    cases lacking : s.lacks "name" <;> simp [lacking]

theorem withCode_invalidPropertyName_agent (doc : Document) :
    withCode .invalidPropertyName (agent doc) =
      if doc.agents.isEmpty then [] else (namedSections doc).map reservedReport := by
  unfold agent namedSections guardedSections
  cases doc.agents with
  | nil => rfl
  | cons first others =>
    have repeated : withCode .invalidPropertyName
        (others.map fun other => ⟨.duplicateDefinition "agent" none, other.range⟩) = [] :=
      withCode_of_foreign (only_repeatedSections _ _) (by decide)
    have named : withCode .invalidPropertyName (agentIdentifier first) = [] :=
      withCode_of_foreign (only_agentIdentifier first) (by decide)
    have shown : withCode .invalidPropertyName (displayName first) = [] :=
      withCode_of_foreign (only_displayName first) (by decide)
    have reserved : withCode .invalidPropertyName ((propertySections doc first).flatMap reservedName) =
        (propertySections doc first).flatMap reservedName :=
      withCode_of_single ((only_flatMap _ _).mpr fun s _ => only_reservedName s)
    simp only [withCode_append, repeated, named, shown]
    exact reserved.trans (flatMap_reservedName _)

/-- No other check reports a property. -/
theorem withCode_invalidPropertyName (doc : Document) :
    withCode .invalidPropertyName (document doc) =
      if doc.agents.isEmpty then [] else (namedSections doc).map reservedReport := by
  rw [withCode_structural (by decide) (by decide), withCode_of_foreign (only_flows doc) (by decide),
    withCode_of_foreign (only_messages doc) (by decide), withCode_invalidPropertyName_agent,
    List.append_nil, List.append_nil]

/-- For every document with an agent, the checks report a reserved property once for each guarded section that has
one, in the order of these sections, whatever else is missing or wrong; for a document without an agent they report
none. So every such section is reported if and only if there is an agent or nothing to report. -/
theorem reserved_names_told (doc : Document) :
    let told := ((document doc).map Finding.diagnostic).filter fun d => d.code = .invalidPropertyName
    (doc.agents ≠ [] → told = (namedSections doc).map fun s => (reservedReport s).diagnostic) ∧
    (doc.agents = [] → told = []) ∧
    (told.length = (namedSections doc).length ↔ doc.agents ≠ [] ∨ namedSections doc = []) := by
  intro told
  have reports : told = (if doc.agents.isEmpty then [] else (namedSections doc).map reservedReport).map
      Finding.diagnostic := by
    rw [← withCode_invalidPropertyName]
    exact filter_diagnostics .invalidPropertyName (document doc)
  cases agents : doc.agents with
  | nil =>
    rw [agents] at reports
    have untold : told = [] := reports
    refine ⟨fun present => absurd rfl present, fun _ => untold, ?_⟩
    rw [untold, List.length_nil, eq_comm, List.length_eq_zero_iff]
    exact ⟨Or.inr, fun either => either.resolve_left fun present => present rfl⟩
  | cons first others =>
    rw [agents] at reports
    have all : told = (namedSections doc).map fun s => (reservedReport s).diagnostic := by
      rw [reports]
      exact List.map_map
    have present : first :: others ≠ [] := List.cons_ne_nil _ _
    refine ⟨fun _ => all, fun absent => absurd absent present, ?_⟩
    rw [all, List.length_map]
    exact ⟨fun _ => Or.inl present, fun _ => rfl⟩

/-- Settings that name their agent, beside an agent that does not name itself. -/
def namedSettings : Document :=
  ⟨[Section.ofKind "agent",
    (Section.ofKind "config").withAttribute "name" (.string "Coffee" none),
    (Section.ofKind "defaults").withAttribute "name" (.string "Coffee" none)], none⟩

theorem reserved_names_told_settings :
    namedSettings.agents ≠ [] ∧
      ((document namedSettings).map Finding.diagnostic).filter (fun d => d.code = .invalidPropertyName) =
        [(Problem.invalidPropertyName "name" "config").diagnostic none,
          (Problem.invalidPropertyName "name" "defaults").diagnostic none] := by
  have present : namedSettings.agents ≠ [] := List.cons_ne_nil _ _
  exact ⟨present, (reserved_names_told namedSettings).1 present⟩

/-- Settings that name an agent which the document lacks. -/
def strandedSettings : Document :=
  ⟨[(Section.ofKind "config").withAttribute "name" (.string "Coffee" none)], none⟩

/-- The missing agent hides the reserved property. -/
theorem reserved_name_hidden :
    (namedSections strandedSettings).length = 1 ∧
      ((document strandedSettings).map Finding.diagnostic).filter (fun d => d.code = .invalidPropertyName) = [] ∧
      (document strandedSettings).map Finding.problem =
        [.missingRequiredField "agent section", .missingRequiredField "flow section",
          .missingRequiredField "messages section"] := by
  decide +kernel

end Dialogue.Check
