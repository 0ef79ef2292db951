import QueryLexer.Text.Ranges

/-!
Blanks: the characters with the Unicode property White_Space. Line ends are among them, as are the
no-break space and the ideographic space; the zero-width space is not.
-/

namespace QueryLexer.Text

def blankRanges : List (Nat × Nat) :=
  [(0x9, 0xD), (0x20, 0x20), (0x85, 0x85), (0xA0, 0xA0), (0x1680, 0x1680), (0x2000, 0x200A),
   (0x2028, 0x2029), (0x202F, 0x202F), (0x205F, 0x205F), (0x3000, 0x3000)]

def isBlank (c : Char) : Bool := inRanges blankRanges c

end QueryLexer.Text
