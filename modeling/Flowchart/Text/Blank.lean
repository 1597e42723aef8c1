import Flowchart.Text.Ranges

/-! # Blank characters

The characters with the Unicode property White_Space. They separate the words of a state name and
are trimmed off the parts of a tag and of a style declaration.
-/

namespace Flowchart.Text

/-- White_Space: the ASCII blanks, the no-break space and the spaces of general punctuation. -/
def blankRanges : Ranges :=
  [(0x9, 0xD), (0x20, 0x20), (0x85, 0x85), (0xA0, 0xA0), (0x1680, 0x1680), (0x2000, 0x200A),
   (0x2028, 0x2029), (0x202F, 0x202F), (0x205F, 0x205F), (0x3000, 0x3000)]

/-- Tells whether a character is blank. -/
def isBlank (c : Char) : Bool :=
  blankRanges.has c

/-- Drops what `p` holds of at both ends. -/
def trimBy (p : Char → Bool) (cs : List Char) : List Char :=
  ((cs.dropWhile p).reverse.dropWhile p).reverse

/-- Drops the blanks at both ends. -/
def trim (cs : List Char) : List Char :=
  trimBy isBlank cs

/-- The maximal runs of characters that `sep` does not hold of, in order. -/
def runs (sep : Char → Bool) (cs : List Char) : List (List Char) :=
  (cs.splitOnP sep).filter (fun run => !run.isEmpty)

end Flowchart.Text
