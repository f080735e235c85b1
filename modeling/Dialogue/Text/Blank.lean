/-!
# White space and trimming

White space is the Unicode property of that name: 25 characters, most of them outside ASCII.
Trimming works on character lists, so that facts about it are facts about lists.
-/
namespace Dialogue.Text

/-- The characters of the Unicode property `White_Space`. -/
def isBlank (c : Char) : Bool :=
  let n := c.toNat
  (0x09 ≤ n && n ≤ 0x0d) || n == 0x20 || n == 0x85 || n == 0xa0 || n == 0x1680 ||
    (0x2000 ≤ n && n ≤ 0x200a) || n == 0x2028 || n == 0x2029 || n == 0x202f || n == 0x205f ||
    n == 0x3000

/-- A text with nothing but white space in it. -/
def allBlank (s : String) : Bool := s.toList.all isBlank

/-- The text without its leading characters `c`. -/
def dropLeading (c : Char) (s : String) : String :=
  String.ofList (s.toList.dropWhile (· == c))

/-- The list without its longest suffix of characters that satisfy `p`. -/
def dropTrailing (p : Char → Bool) (cs : List Char) : List Char :=
  (cs.reverse.dropWhile p).reverse

/-- Whether `s` begins with `start`. -/
def startsWith (s start : String) : Bool := start.toList.isPrefixOf s.toList

/-- Whether `s` ends with `ending`. -/
def endsWith (s ending : String) : Bool := ending.toList.isSuffixOf s.toList

/-- What is left of `s` when `ending` is taken off its end. -/
def withoutEnding? (s ending : String) : Option String :=
  if endsWith s ending then
    some (String.ofList (s.toList.take (s.toList.length - ending.toList.length)))
  else none

/-- What is left of `s` when `start` is taken off its front. -/
def withoutStart? (s start : String) : Option String :=
  if startsWith s start then some (String.ofList (s.toList.drop start.toList.length)) else none

/-- `s` pushed to the right until it fills `width` columns. -/
def padLeft (width : Nat) (s : String) : String :=
  String.ofList (List.replicate (width - s.length) ' ') ++ s

/-- The texts in order, `separator` between each two. -/
def join (separator : String) : List String → String
  | [] => ""
  | [s] => s
  | s :: t :: rest => s ++ separator ++ join separator (t :: rest)

end Dialogue.Text
