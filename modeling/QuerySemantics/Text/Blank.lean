/-!
# Blanks

## Main definitions

* `Blank.isBlank`: whether a character is white space.
-/

set_option autoImplicit false

namespace QuerySemantics

namespace Blank

/-- The ranges of white space characters: tabs, line ends, and the separators of every width. -/
def ranges : List (Nat × Nat) :=
  [(0x9, 0xD), (0x20, 0x20), (0x85, 0x85), (0xA0, 0xA0), (0x1680, 0x1680), (0x2000, 0x200A),
    (0x2028, 0x2029), (0x202F, 0x202F), (0x205F, 0x205F), (0x3000, 0x3000)]

/-- **White space.** -/
def isBlank (c : Char) : Bool :=
  ranges.any fun (low, high) => low ≤ c.toNat && c.toNat ≤ high

end Blank

end QuerySemantics
