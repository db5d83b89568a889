/-
# SchemaDiagram.Text.Span -- sets of code points, as spans

A Unicode property is kept as a list of spans.  Every second code point of a
block often has a property (capital and small letters alternate), so a span has
a step.
-/

namespace SchemaDiagram.Text

set_option autoImplicit false

/-- The code points `first`, `first + step`, … up to `last`. -/
structure Span where
  first : Nat
  last : Nat
  step : Nat

namespace Span

def holds (s : Span) (n : Nat) : Bool :=
  s.first ≤ n && n ≤ s.last && (n - s.first) % s.step == 0

end Span

def inSpans (spans : List Span) (c : Char) : Bool :=
  spans.any (·.holds c.toNat)

end SchemaDiagram.Text
