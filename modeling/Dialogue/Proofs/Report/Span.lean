import Dialogue.Proofs.Report.Lines

/-!
# Spans of ranges

A span cuts a text between characters: what is before it, what it covers and what is behind it are texts, whatever the
range says and however the lines of the text end. Counting the lines and the columns before a character leads back to
its offset, so a range on one line covers exactly the characters between its two columns.
-/
namespace Dialogue.Report

/-! ## Cutting a text -/

/-- A text ends between two characters of every text that goes on from it. -/
theorem isValid_of_isPrefix {source : String} {first : List Char} (opens : first <+: source.toList) :
    String.Pos.Raw.IsValid source ⟨byteLength first⟩ := by
  obtain ⟨rest, split⟩ := opens
  refine String.Pos.Raw.isValid_iff_exists_append.mpr ⟨.ofList first, .ofList rest, ?_, ?_⟩
  · rw [← String.ofList_append, split, String.ofList_toList]
  · rw [String.rawEndPos_ofList, byteLength_eq_utf8Len]

theorem extract_of_split {source : String} {first shown rest : List Char}
    (split : source.toList = first ++ (shown ++ rest)) :
    String.Pos.Raw.extract source ⟨byteLength first⟩ ⟨byteLength first + byteLength shown⟩ =
      String.ofList shown := by
  rw [← String.ofList_toList (s := source), split, ← List.append_assoc, byteLength_eq_utf8Len,
    byteLength_eq_utf8Len, String.extract_of_valid]

/-- Of two beginnings of a text, the one with fewer bytes begins the other. -/
theorem prefix_of_byteLength_lt {source first last : List Char} (opens : first <+: source)
    (reaches : last <+: source) (longer : byteLength first < byteLength last) : first <+: last := by
  rcases Nat.le_total first.length last.length with short | long
  · exact List.prefix_of_prefix_length_le opens reaches short
  · have := byteLength_le_of_isPrefix (List.prefix_of_prefix_length_le reaches opens long)
    omega

theorem sizeAt_byteLength (first rest : List Char) :
    sizeAt (byteLength first) (first ++ rest) = byteLength (rest.take 1) := by
  induction first with
  | nil => cases rest <;> rfl
  | cons c more ih =>
    have positive := c.utf8Size_pos
    have whole : byteLength (c :: more) = c.utf8Size + byteLength more := rfl
    rw [List.cons_append, ← ih]
    cases size : byteLength (c :: more) with
    | zero => omega
    | succ n =>
      rw [sizeAt]
      congr 1
      omega

/-- The span of a range that starts in the text cuts the text in three. It goes up to the end of the range if that is
behind the start, and else covers at most one character. -/
theorem span?_cuts {source first : List Char} {range : Range}
    (starts : before? source range.start = some first) :
    ∃ shown rest, source = first ++ (shown ++ rest) ∧
      span? source range = some ⟨byteLength first, byteLength shown⟩ ∧
      ∀ last, before? source range.stop = some last → byteLength first < byteLength last →
        last = first ++ shown := by
  have opens := before?_isPrefix starts
  have offset : byteOffset? source range.start = some (byteLength first) := by
    rw [byteOffset?_eq, starts, Option.map_some]
  unfold span?
  rw [offset, byteOffset?_eq]
  dsimp only
  by_cases further : ∃ last, before? source range.stop = some last ∧ byteLength first < byteLength last
  · obtain ⟨last, ends, longer⟩ := further
    obtain ⟨shown, rfl⟩ := prefix_of_byteLength_lt opens (before?_isPrefix ends) longer
    obtain ⟨rest, split⟩ := before?_isPrefix ends
    rw [byteLength_append] at longer
    refine ⟨shown, rest, by rw [← split, List.append_assoc], ?_, fun last found _ => ?_⟩
    · rw [ends, Option.map_some, Option.getD_some, byteLength_append, Nat.max_eq_left (by omega),
        if_pos longer, Nat.add_sub_cancel_left]
    · exact Option.some.inj (found.symm.trans ends)
  · obtain ⟨behind, split⟩ := opens
    have back : ((before? source range.stop).map byteLength).getD (byteLength first) ≤ byteLength first := by
      cases ends : before? source range.stop with
      | none => exact Nat.le.refl
      | some last => exact Nat.le_of_not_lt fun longer => further ⟨last, ends, longer⟩
    refine ⟨behind.take 1, behind.drop 1, by rw [List.take_append_drop, split], ?_, fun last ends longer => ?_⟩
    · rw [Nat.max_eq_right back, if_neg (Nat.lt_irrefl _), ← split, sizeAt_byteLength]
    · exact absurd ⟨last, ends, longer⟩ further

theorem span?_eq_none_iff (source : List Char) (range : Range) :
    span? source range = none ↔
      range.start.line = 0 ∨ (lines source).length < range.start.line.toNat := by
  rw [← before?_eq_none_iff]
  cases starts : before? source range.start with
  | none => simp [span?, byteOffset?_eq, starts]
  | some first =>
    obtain ⟨shown, rest, _, spanned, _⟩ := span?_cuts starts
    simp [spanned]

/-- What a span covers of a range that is in order. -/
theorem span?_of_ordered {source : List Char} {range : Range} (ordered : range.start.NotAfter range.stop)
    {first last : Nat} (starts : byteOffset? source range.start = some first)
    (ends : byteOffset? source range.stop = some last) :
    first ≤ last ∧ (first < last → span? source range = some ⟨first, last - first⟩) := by
  rw [byteOffset?_eq] at starts ends
  obtain ⟨before, earlier, rfl⟩ := Option.map_eq_some_iff.mp starts
  obtain ⟨upTo, later, rfl⟩ := Option.map_eq_some_iff.mp ends
  refine ⟨byteLength_le_of_isPrefix (before?_mono ordered earlier later), fun longer => ?_⟩
  obtain ⟨shown, rest, _, spanned, reached⟩ := span?_cuts earlier
  rw [spanned, reached upTo later longer, byteLength_append, Nat.add_sub_cancel_left]

/-- A range has a span exactly if its first line is there. The span starts and stops between two characters of the
text and does not go beyond its end. A range that is in order and whose last line is there starts at no greater offset
than it stops, and its span goes from the one to the other. -/
theorem spans_stay_inside (source : String) (range : Range) :
    (span? source.toList range = none ↔
      range.start.line = 0 ∨ (lines source.toList).length < range.start.line.toNat) ∧
    (∀ span, span? source.toList range = some span →
      String.Pos.Raw.IsValid source ⟨span.offset⟩ ∧
      String.Pos.Raw.IsValid source ⟨span.offset + span.length⟩ ∧
      span.offset + span.length ≤ source.utf8ByteSize) ∧
    (range.start.NotAfter range.stop → range.stop.line ≠ 0 →
      range.stop.line.toNat ≤ (lines source.toList).length →
      ∃ last, byteOffset? source.toList range.stop = some last ∧
        ∀ first, byteOffset? source.toList range.start = some first →
          first ≤ last ∧ (first < last → span? source.toList range = some ⟨first, last - first⟩)) := by
  refine ⟨span?_eq_none_iff _ _, fun span found => ?_, fun ordered present inside => ?_⟩
  · cases starts : before? source.toList range.start with
    | none =>
      rw [before?_eq_none_iff, ← span?_eq_none_iff, found] at starts
      exact absurd starts (Option.some_ne_none span)
    | some first =>
      obtain ⟨shown, rest, split, spanned, _⟩ := span?_cuts starts
      obtain rfl := Option.some.inj (spanned.symm.trans found)
      have upTo : first ++ shown <+: source.toList := ⟨rest, by rw [split, List.append_assoc]⟩
      rw [← byteLength_append, ← byteLength_toList]
      exact ⟨isValid_of_isPrefix (before?_isPrefix starts), isValid_of_isPrefix upTo,
        byteLength_le_of_isPrefix upTo⟩
  · cases ends : byteOffset? source.toList range.stop with
    | none =>
      rw [byteOffset?_eq, Option.map_eq_none_iff, before?_eq_none_iff] at ends
      exact absurd ends (not_or.mpr ⟨present, by omega⟩)
    | some last => exact ⟨last, rfl, fun first starts => span?_of_ordered ordered starts ends⟩

example : span? "é\r\nab".toList ⟨⟨1, 2⟩, ⟨2, 2⟩⟩ = some ⟨2, 3⟩ ∧
    span? "é\r\nab".toList ⟨⟨2, 9⟩, ⟨1, 1⟩⟩ = some ⟨6, 0⟩ := by decide +kernel

/-! ## Columns -/

/-- A range on one line covers the characters of the content between its columns. -/
theorem span?_of_columns {source : List Char} (line : Line source) {range : Range}
    (number : range.start.line.toNat = 1 + line.front.count '\n')
    (same : range.stop.line = range.start.line) (positive : 1 ≤ range.start.column.toNat)
    (ordered : range.start.column < range.stop.column)
    (inside : range.stop.column.toNat ≤ line.content.length + 1) :
    ∃ rest,
      let first := line.front ++ line.content.take (range.start.column.toNat - 1)
      let shown := (line.content.drop (range.start.column.toNat - 1)).take
        (range.stop.column.toNat - range.start.column.toNat)
      source = first ++ (shown ++ rest) ∧ span? source range = some ⟨byteLength first, byteLength shown⟩ := by
  have columns := UInt64.lt_iff_toNat_lt.mp ordered
  have nonempty : line.content ≠ [] := by
    rintro empty
    rw [empty, List.length_nil] at inside
    omega
  have starts := before?_of_line line nonempty number
  have ends := before?_of_line line nonempty (p := range.stop) (by rw [same, number])
  have shownNonempty : (line.content.drop (range.start.column.toNat - 1)).take
      (range.stop.column.toNat - range.start.column.toNat) ≠ [] := by
    rw [← List.length_pos_iff, List.length_take, List.length_drop]
    omega
  -- the content up to the second column is that up to the first and what is between them
  have joined : line.content.take (range.stop.column.toNat - 1) =
      line.content.take (range.start.column.toNat - 1) ++
        (line.content.drop (range.start.column.toNat - 1)).take
          (range.stop.column.toNat - range.start.column.toNat) := by
    rw [← List.take_add]
    congr 1
    omega
  obtain ⟨shown, rest, split, spanned, reached⟩ := span?_cuts starts
  have equal := reached _ ends (by
    rw [joined, byteLength_append, byteLength_append, byteLength_append]
    have := byteLength_pos shownNonempty
    omega)
  rw [joined, ← List.append_assoc, List.append_cancel_left_eq] at equal
  subst equal
  exact ⟨rest, split, spanned⟩

/-- Offsets invert the counting of lines and columns. The offset of a character that does not belong to the ending of
its line is found at the line that is one more than the number of line feeds before it and the column that is one more
than the number of characters behind the last of them. So a range on one line, from a column to a later one that is no
more than one behind the content, covers exactly the characters of the content from the one up to the other. -/
theorem offsets_invert_counting (source : String) :
    (∀ before c after, source.toList = before ++ c :: after → ¬EndsLine c after →
      ∀ p : Position, p.line.toNat = 1 + before.count '\n' →
        p.column.toNat = 1 + (openLine before).length →
        byteOffset? source.toList p = some (String.ofList before).utf8ByteSize) ∧
    ∀ (line : Line source.toList) (range : Range),
      range.start.line.toNat = 1 + line.front.count '\n' → range.stop.line = range.start.line →
      1 ≤ range.start.column.toNat → range.start.column < range.stop.column →
      range.stop.column.toNat ≤ line.content.length + 1 →
      ∃ span, span? source.toList range = some span ∧
        span.offset = (String.ofList
          (line.front ++ line.content.take (range.start.column.toNat - 1))).utf8ByteSize ∧
        String.Pos.Raw.extract source ⟨span.offset⟩ ⟨span.offset + span.length⟩ =
          String.ofList ((line.content.drop (range.start.column.toNat - 1)).take
            (range.stop.column.toNat - range.start.column.toNat)) := by
  constructor
  · intro before c after split inContent p number column
    rw [byteOffset?_eq, split, before?_of_character inContent number column, Option.map_some,
      utf8ByteSize_ofList]
  · intro line range number same positive ordered inside
    obtain ⟨rest, split, spanned⟩ := span?_of_columns line number same positive ordered inside
    exact ⟨_, spanned, (utf8ByteSize_ofList _).symm, extract_of_split split⟩

/-- Two lines with a character of two bytes each; a carriage return and a line feed end the first, a carriage return
the second. -/
def twoLines : String := "é\r\nün\r"

theorem offsets_invert_counting_two_lines :
    (¬EndsLine 'n' ['\r'] ∧ byteOffset? twoLines.toList ⟨2, 2⟩ = some 6) ∧
      ∃ span, span? twoLines.toList ⟨⟨2, 1⟩, ⟨2, 3⟩⟩ = some span ∧ span.offset = 4 ∧
        String.Pos.Raw.extract twoLines ⟨span.offset⟩ ⟨span.offset + span.length⟩ = "ün" := by
  have inContent : ¬EndsLine 'n' ['\r'] := by
    rintro (feed | returns)
    · exact absurd feed (by decide)
    · exact absurd (returns 'n' List.mem_cons_self) (by decide)
  let second : Line twoLines.toList :=
    ⟨['é', '\r', '\n'], ['ü', 'n'], ['\r'], [], by decide +kernel, fun _ => rfl, by decide, by decide, 1,
      .inr ⟨rfl, rfl⟩⟩
  obtain ⟨offsets, spans⟩ := offsets_invert_counting twoLines
  have found := offsets ['é', '\r', '\n', 'ü'] 'n' ['\r'] (by decide +kernel) inContent ⟨2, 2⟩
    (by decide) (by decide)
  obtain ⟨span, spanned, offset, shown⟩ := spans second ⟨⟨2, 1⟩, ⟨2, 3⟩⟩ (by decide) rfl (by decide)
    (by decide) (by decide)
  exact ⟨⟨inContent, found⟩, span, spanned, offset, shown⟩

end Dialogue.Report
