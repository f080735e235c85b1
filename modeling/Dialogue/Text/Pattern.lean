import Dialogue.Text.Blank

/-!
# Patterns

Regular patterns over characters, matched against a whole text. A text is matched one character at a
time: the derivative of a pattern by a character matches the texts that the pattern matches behind that
character.

They have what the patterns of the checks need; captures and the search for a match inside a text are not
modelled.
-/
namespace Dialogue.Text

inductive Pattern where
  | nothing
  | empty
  | one (accepts : Char → Bool)
  | seq (first second : Pattern)
  | alt (left right : Pattern)
  | star (repeated : Pattern)

namespace Pattern

/-- One or more. -/
def plus (p : Pattern) : Pattern := .seq p (.star p)

def char (c : Char) : Pattern := .one (· == c)

/-- Whether the empty text matches. -/
def nullable : Pattern → Bool
  | .nothing => false
  | .empty => true
  | .one _ => false
  | .seq p q => p.nullable && q.nullable
  | .alt p q => p.nullable || q.nullable
  | .star _ => true

/-- A sequence in which what cannot match or adds nothing is left out. -/
def thenBy : Pattern → Pattern → Pattern
  | .nothing, _ => .nothing
  | .empty, q => q
  | p, q => .seq p q

/-- A choice in which what cannot match is left out. -/
def orElse : Pattern → Pattern → Pattern
  | .nothing, q => q
  | p, .nothing => p
  | p, q => .alt p q

/-- What is left of a pattern once it has matched a character. -/
def derive (c : Char) : Pattern → Pattern
  | .nothing => .nothing
  | .empty => .nothing
  | .one accepts => if accepts c then .empty else .nothing
  | .seq p q =>
    if p.nullable then ((p.derive c).thenBy q).orElse (q.derive c) else (p.derive c).thenBy q
  | .alt p q => (p.derive c).orElse (q.derive c)
  | .star p => (p.derive c).thenBy (.star p)

/-- Whether a pattern matches all of the characters. -/
def accepts (p : Pattern) : List Char → Bool
  | [] => p.nullable
  | c :: rest => (p.derive c).accepts rest

/-- Whether a pattern matches a whole text. -/
def isMatch (p : Pattern) (s : String) : Bool := p.accepts s.toList

end Pattern

end Dialogue.Text
