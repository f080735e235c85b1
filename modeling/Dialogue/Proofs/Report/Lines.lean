import Dialogue.Report.Span
import Mathlib.Data.List.DropRight
import Mathlib.Data.String.Basic

/-!
# Lines of a text

A line starts where the text starts or behind a line feed. It has a content, and the carriage returns and the line feed
that end it; the last line of a text need not have a line feed. A position stands for the text before it: all lines
before its own, and as much of the content of its own line as its column says. Offsets are the bytes of such texts.
-/
namespace Dialogue

/-- A position is the same as another one or comes before it as one reads. -/
def Position.NotAfter (p q : Position) : Prop :=
  p.line < q.line ∨ p.line = q.line ∧ p.column ≤ q.column

namespace Report

/-! ## Bytes -/

theorem byteLength_eq_utf8Len (cs : List Char) : byteLength cs = String.utf8Len cs := by
  induction cs with
  | nil => rfl
  | cons c rest ih => rw [byteLength, ih, String.utf8Len_cons, Nat.add_comm]

theorem byteLength_append (first second : List Char) :
    byteLength (first ++ second) = byteLength first + byteLength second := by
  simp only [byteLength_eq_utf8Len, String.utf8Len_append]

theorem utf8ByteSize_ofList (cs : List Char) : (String.ofList cs).utf8ByteSize = byteLength cs := by
  rw [String.utf8ByteSize_ofList, byteLength_eq_utf8Len]

theorem byteLength_toList (text : String) : byteLength text.toList = text.utf8ByteSize := by
  rw [byteLength_eq_utf8Len, String.utf8Len_toList]

theorem byteLength_le_of_isPrefix {first whole : List Char} (opens : first <+: whole) :
    byteLength first ≤ byteLength whole := by
  simp only [byteLength_eq_utf8Len]
  exact String.utf8Len_le_of_prefix opens

theorem byteLength_pos {cs : List Char} (nonempty : cs ≠ []) : 0 < byteLength cs := by
  rw [byteLength_eq_utf8Len, Nat.pos_iff_ne_zero, ne_eq, String.utf8Len_eq_zero]
  exact nonempty

/-! ## Splitting into lines -/

/-- A text behind which a line starts: the empty text, or one that ends in a line feed. -/
def Closed (text : List Char) : Prop := ∀ nonempty : text ≠ [], text.getLast nonempty = '\n'

theorem Closed.of_cons {c : Char} {text : List Char} (closed : Closed (c :: text)) : Closed text := by
  intro nonempty
  rw [← List.getLast_cons nonempty]
  exact closed (List.cons_ne_nil c text)

theorem Closed.ne_nil {c : Char} {text : List Char} (closed : Closed (c :: text)) (other : c ≠ '\n') :
    text ≠ [] := by
  rintro rfl
  exact other (closed (List.cons_ne_nil c []))

theorem flatten_lines (text : List Char) : (lines text).flatten = text := by
  induction text with
  | nil => rfl
  | cons c rest ih =>
    rw [lines]
    split
    · simp [ih]
    · split
      next isEmpty =>
        rw [isEmpty] at ih
        rw [← ih]
        rfl
      next line later isLine =>
        rw [isLine] at ih
        rw [← ih]
        rfl

theorem exists_lines {text : List Char} (nonempty : text ≠ []) :
    ∃ line later, lines text = line :: later := by
  refine List.exists_cons_of_ne_nil fun noLines => nonempty ?_
  rw [← flatten_lines text, noLines]
  rfl

/-- The lines of a text go on behind a line feed as if the text started there. -/
theorem lines_append {front : List Char} (closed : Closed front) (text : List Char) :
    lines (front ++ text) = lines front ++ lines text := by
  induction front with
  | nil => rfl
  | cons c rest ih =>
    have later := ih closed.of_cons
    by_cases feed : c = '\n'
    · simp [lines, feed, later]
    · obtain ⟨line, others, split⟩ := exists_lines (closed.ne_nil feed)
      simp [lines, feed, later, split]

theorem length_lines {front : List Char} (closed : Closed front) :
    (lines front).length = front.count '\n' := by
  induction front with
  | nil => rfl
  | cons c rest ih =>
    have later := ih closed.of_cons
    by_cases feed : c = '\n'
    · simp [lines, feed, later]
    · obtain ⟨line, others, split⟩ := exists_lines (closed.ne_nil feed)
      rw [List.count_cons_of_ne feed, ← later, lines, if_neg feed, split]
      rfl

theorem lines_of_open {text : List Char} (single : '\n' ∉ text) (nonempty : text ≠ []) :
    lines text = [text] := by
  induction text with
  | nil => exact absurd rfl nonempty
  | cons c rest ih =>
    obtain ⟨other, later⟩ := not_or.mp (List.mem_cons.not.mp single)
    rw [lines, if_neg (Ne.symm other)]
    by_cases last : rest = []
    · rw [last]
      rfl
    · rw [ih later last]

theorem lines_of_fed {text : List Char} (single : '\n' ∉ text) (rest : List Char) :
    lines (text ++ '\n' :: rest) = (text ++ ['\n']) :: lines rest := by
  induction text with
  | nil => simp [lines]
  | cons c more ih =>
    obtain ⟨other, later⟩ := not_or.mp (List.mem_cons.not.mp single)
    rw [List.cons_append, lines, if_neg (Ne.symm other), ih later]
    rfl

/-! ## One line -/

/-- A line of a text, said by its parts. The content is what is left of it without the carriage returns and the line
feed at its end. -/
structure Line (source : List Char) where
  front : List Char
  content : List Char
  ending : List Char
  rest : List Char
  split : source = front ++ ((content ++ ending) ++ rest)
  starts : Closed front
  single : '\n' ∉ content
  trimmed : ∀ nonempty : content ≠ [], content.getLast nonempty ≠ '\r'
  ends : ∃ returns, ending = List.replicate returns '\r' ++ ['\n'] ∨
    ending = List.replicate returns '\r' ∧ rest = []

namespace Line

variable {source : List Char} (line : Line source)

theorem isLineEnd_of_ending {c : Char} (member : c ∈ line.ending) : isLineEnd c = true := by
  obtain ⟨returns, fed | ⟨unfed, _⟩⟩ := line.ends
  · rw [fed, List.mem_append, List.mem_singleton] at member
    rcases member with back | rfl
    · rw [(List.mem_replicate.mp back).2]
      rfl
    · rfl
  · rw [unfed] at member
    rw [(List.mem_replicate.mp member).2]
    rfl

/-- What is taken off a line is its ending. -/
theorem lineContent_eq : lineContent (line.content ++ line.ending) = line.content := by
  have whole : line.content.rdropWhile isLineEnd = line.content := by
    rw [List.rdropWhile_eq_self_iff]
    intro nonempty ends
    have feed : line.content.getLast nonempty ≠ '\n' := fun equal =>
      line.single (equal ▸ List.getLast_mem nonempty)
    simp [isLineEnd, feed, line.trimmed nonempty] at ends
  have ending : ∀ c ∈ line.ending.reverse, isLineEnd c = true := fun c member =>
    line.isLineEnd_of_ending (List.mem_reverse.mp member)
  rw [lineContent, Text.dropTrailing, List.reverse_append, List.dropWhile_append_of_pos ending]
  exact whole

theorem lines_eq (nonempty : line.content ≠ []) :
    lines source = lines line.front ++ (line.content ++ line.ending) :: lines line.rest := by
  have single (returns : Nat) : '\n' ∉ line.content ++ List.replicate returns '\r' := by
    simp [line.single]
  conv => lhs; rw [line.split, lines_append line.starts]
  congr 1
  obtain ⟨returns, fed | ⟨unfed, last⟩⟩ := line.ends
  · rw [fed, ← List.append_assoc, List.append_assoc _ ['\n'], List.singleton_append,
      lines_of_fed (single returns)]
  · rw [unfed, last, List.append_nil, lines_of_open (single returns) (by simp [nonempty])]
    rfl

end Line

/-- What a text has behind its last line feed. -/
def openLine (text : List Char) : List Char := text.rtakeWhile (· != '\n')

theorem feed_not_mem_openLine (text : List Char) : '\n' ∉ openLine text := by
  intro member
  simpa using List.mem_rtakeWhile_imp member

/-- A character belongs to the ending of its line: it is the line feed, or no other character than carriage returns
comes up to the next line feed. -/
def EndsLine (c : Char) (after : List Char) : Prop :=
  c = '\n' ∨ ∀ x ∈ c :: after.takeWhile (· != '\n'), x = '\r'

/-- The carriage returns at the end of a text can be told from the rest. -/
theorem exists_content (text : List Char) :
    ∃ content returns, text = content ++ List.replicate returns '\r' ∧
      ∀ nonempty : content ≠ [], content.getLast nonempty ≠ '\r' := by
  obtain ⟨returns, back⟩ : ∃ returns, text.rtakeWhile (· == '\r') = List.replicate returns '\r' :=
    ⟨_, List.eq_replicate_iff.mpr
      ⟨rfl, fun c member => by simpa using List.mem_rtakeWhile_imp member⟩⟩
  refine ⟨text.rdropWhile (· == '\r'), returns, ?_, fun nonempty => ?_⟩
  · rw [← back]
    exact List.rdropWhile_append_rtakeWhile.symm
  · simpa using List.rdropWhile_last_not _ text nonempty

theorem exists_line_of_body {source front body tail : List Char} (split : source = front ++ (body ++ tail))
    (starts : Closed front) (single : '\n' ∉ body) (ends : tail = [] ∨ ∃ rest, tail = '\n' :: rest) :
    ∃ (line : Line source) (returns : Nat), line.front = front ∧
      body = line.content ++ List.replicate returns '\r' := by
  obtain ⟨content, returns, rfl, trimmed⟩ := exists_content body
  have inside : '\n' ∉ content := fun member => single (List.mem_append_left _ member)
  rcases ends with rfl | ⟨rest, rfl⟩
  · exact ⟨⟨front, content, _, [], split, starts, inside, trimmed, returns, .inr ⟨rfl, rfl⟩⟩, returns,
      rfl, rfl⟩
  · refine ⟨⟨front, content, _, rest, ?_, starts, inside, trimmed, returns, .inl rfl⟩, returns, rfl, rfl⟩
    simp [split]

/-- Every place of a text is on a line. -/
theorem exists_line (before after : List Char) :
    ∃ (line : Line (before ++ after)) (returns : Nat), before = line.front ++ openLine before ∧
      openLine before ++ after.takeWhile (· != '\n') = line.content ++ List.replicate returns '\r' := by
  have front : before.rdropWhile (· != '\n') ++ openLine before = before :=
    List.rdropWhile_append_rtakeWhile
  have split : before ++ after = before.rdropWhile (· != '\n') ++
      ((openLine before ++ after.takeWhile (· != '\n')) ++ after.dropWhile (· != '\n')) := by
    rw [List.append_assoc, List.takeWhile_append_dropWhile, ← List.append_assoc, front]
  have starts : Closed (before.rdropWhile (· != '\n')) := fun nonempty => by
    simpa using List.rdropWhile_last_not _ before nonempty
  have single : '\n' ∉ openLine before ++ after.takeWhile (· != '\n') := by
    rw [List.mem_append]
    rintro (member | member)
    · exact feed_not_mem_openLine before member
    · simpa using List.mem_takeWhile_imp member
  have ends : after.dropWhile (· != '\n') = [] ∨ ∃ rest, after.dropWhile (· != '\n') = '\n' :: rest := by
    cases tail : after.dropWhile (· != '\n') with
    | nil => exact .inl rfl
    | cons c rest =>
      have feed := List.head?_dropWhile_not (· != '\n') after
      simp only [tail, List.head?_cons, bne_eq_false_iff_eq] at feed
      exact .inr ⟨rest, by rw [feed]⟩
  obtain ⟨line, returns, same, body⟩ := exists_line_of_body split starts single ends
  exact ⟨line, returns, by rw [same, front], body⟩

/-! ## Positions -/

/-- The text before a position. Columns beyond the content of a line stand for its end. -/
def before? (source : List Char) (p : Position) : Option (List Char) :=
  if p.line.toNat = 0 then none
  else (lines source)[p.line.toNat - 1]?.map fun line =>
    ((lines source).take (p.line.toNat - 1)).flatten ++ (lineContent line).take (p.column.toNat - 1)

/-- The offset of a position is the number of bytes before it. -/
theorem byteOffset?_eq (source : List Char) (p : Position) :
    byteOffset? source p = (before? source p).map byteLength := by
  unfold byteOffset? before?
  cases number : p.line.toNat with
  | zero => rfl
  | succ index =>
    simp only [Nat.add_one_ne_zero, if_false, Nat.add_sub_cancel]
    cases (lines source)[index]? with
    | none => rfl
    | some line => simp [byteLength_append]

theorem before?_eq_none_iff (source : List Char) (p : Position) :
    before? source p = none ↔ p.line = 0 ∨ (lines source).length < p.line.toNat := by
  have zero : p.line = 0 ↔ p.line.toNat = 0 := UInt64.toNat_inj.symm
  rw [zero, before?]
  split
  next absent => simp [absent]
  next present =>
    rw [Option.map_eq_none_iff, List.getElem?_eq_none_iff]
    omega

/-- A position on a line stands for what is before the line and the part of its content before the column. -/
theorem before?_of_line {source : List Char} (line : Line source) (nonempty : line.content ≠ [])
    {p : Position} (number : p.line.toNat = 1 + line.front.count '\n') :
    before? source p = some (line.front ++ line.content.take (p.column.toNat - 1)) := by
  have index : p.line.toNat - 1 = (lines line.front).length := by
    rw [length_lines line.starts]
    omega
  rw [before?, if_neg (by omega), index, line.lines_eq nonempty, List.getElem?_append_right Nat.le.refl,
    Nat.sub_self, List.getElem?_cons_zero, Option.map_some, List.take_left, flatten_lines,
    line.lineContent_eq]

theorem before?_eq_some_iff {source : List Char} {p : Position} {before : List Char} :
    before? source p = some before ↔ ∃ index line, p.line.toNat = index + 1 ∧
      (lines source)[index]? = some line ∧
      before = ((lines source).take index).flatten ++ (lineContent line).take (p.column.toNat - 1) := by
  rw [before?]
  split
  next absent => simp [absent]
  next present =>
    rw [Option.map_eq_some_iff]
    constructor
    · rintro ⟨line, found, rfl⟩
      exact ⟨_, line, by omega, found, rfl⟩
    · rintro ⟨index, line, number, found, rfl⟩
      rw [number, Nat.add_sub_cancel]
      exact ⟨line, found, rfl⟩

theorem flatten_take_isPrefix {few many : Nat} (le : few ≤ many) (pieces : List (List Char)) :
    (pieces.take few).flatten <+: (pieces.take many).flatten := by
  obtain ⟨more, split⟩ := List.take_prefix_take_left (l := pieces) le
  exact ⟨more.flatten, by rw [← List.flatten_append, split]⟩

/-- What is before a position on a line does not go beyond the line. -/
theorem before_line_isPrefix {source line : List Char} {index : Nat}
    (found : (lines source)[index]? = some line) (columns : Nat) :
    ((lines source).take index).flatten ++ (lineContent line).take columns <+:
      ((lines source).take (index + 1)).flatten := by
  have inside : (lineContent line).take columns <+: line :=
    (List.take_prefix columns _).trans (List.rdropWhile_prefix isLineEnd line)
  rw [List.take_add_one, found, List.flatten_append, Option.toList_some, List.flatten_singleton]
  exact (List.prefix_append_right_inj _).mpr inside

theorem before?_isPrefix {source : List Char} {p : Position} {before : List Char}
    (found : before? source p = some before) : before <+: source := by
  obtain ⟨index, line, _, located, rfl⟩ := before?_eq_some_iff.mp found
  refine (before_line_isPrefix located _).trans ?_
  conv => rhs; rw [← flatten_lines source, ← List.take_length (l := lines source)]
  exact flatten_take_isPrefix (List.getElem?_eq_some_iff.mp located).1 _

/-- What is before a position is also before every later one. -/
theorem before?_mono {source : List Char} {p q : Position} (ordered : p.NotAfter q)
    {first second : List Char} (earlier : before? source p = some first)
    (later : before? source q = some second) : first <+: second := by
  obtain ⟨index, line, number, located, rfl⟩ := before?_eq_some_iff.mp earlier
  obtain ⟨index', line', number', located', rfl⟩ := before?_eq_some_iff.mp later
  rcases ordered with above | ⟨same, columns⟩
  · have below : index + 1 ≤ index' := by
      have := UInt64.lt_iff_toNat_lt.mp above
      omega
    exact (before_line_isPrefix located _).trans
      ((flatten_take_isPrefix below _).trans (List.prefix_append _ _))
  · obtain rfl : index = index' := by
      rw [same] at number
      omega
    obtain rfl : line = line' := Option.some.inj (located.symm.trans located')
    have := UInt64.le_iff_toNat_le.mp columns
    exact (List.prefix_append_right_inj _).mpr (List.take_prefix_take_left (by omega))

/-- The text before a character that does not belong to the ending of its line is what is before its position: as many
lines as there are line feeds, and on its own line as many characters as there are behind the last of them. -/
theorem before?_of_character {before after : List Char} {c : Char} (inContent : ¬EndsLine c after)
    {p : Position} (number : p.line.toNat = 1 + before.count '\n')
    (column : p.column.toNat = 1 + (openLine before).length) :
    before? (before ++ c :: after) p = some before := by
  obtain ⟨line, returns, split, body⟩ := exists_line before (c :: after)
  obtain ⟨other, notReturns⟩ := not_or.mp inContent
  rw [List.takeWhile_cons_of_pos (by simpa using other)] at body
  -- were the character outside the content, only carriage returns would follow it
  obtain ⟨more, nonempty, content⟩ : ∃ more, more ≠ [] ∧ line.content = openLine before ++ more := by
    rcases List.append_eq_append_iff.mp body with ⟨more, content, tail⟩ | ⟨more, _, tail⟩
    · refine ⟨more, ?_, content⟩
      rintro rfl
      exact notReturns fun x member => List.eq_of_mem_replicate (tail ▸ member)
    · refine absurd (fun x member => ?_) notReturns
      exact List.eq_of_mem_replicate (tail ▸ List.mem_append_right more member)
  have count : before.count '\n' = line.front.count '\n' := by
    conv => lhs; rw [split]
    rw [List.count_append, List.count_eq_zero.mpr (feed_not_mem_openLine before), Nat.add_zero]
  rw [before?_of_line line (by simp [content, nonempty]) (by rw [number, count]), column,
    Nat.add_sub_cancel_left, content, List.take_left, ← split]

end Report

end Dialogue
