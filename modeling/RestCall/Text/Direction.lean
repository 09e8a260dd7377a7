import RestCall.Text.DirectionTable
/-!
# RestCall — direction of writing

Letters are written from left to right or from right to left, and other
characters take their direction from their surroundings in one way or
another.
-/

namespace RestCall

namespace Text

/-- How a character is written. -/
inductive Direction where
  | left
  | right
  | arabicDigit
  | europeanDigit
  | attached
  | neutral
deriving Repr, DecidableEq

/-- How a character is written. -/
def direction (c : Char) : Direction :=
  let n := c.toNat
  if n < 0x80 then
    if c.isAlpha then .left else if c.isDigit then .europeanDigit else .neutral
  else if isIn rightRuns n then .right
  else if isIn arabicDigitRuns n then .arabicDigit
  else if isIn europeanDigitRuns n then .europeanDigit
  else if isIn attachedRuns n then .attached
  else if isIn neutralRuns n then .neutral
  else .left

/-- Whether a character is a mark, which belongs to the one before it. -/
def isMark (c : Char) : Bool := direction c == .attached || isIn spacingMarkRuns c.toNat

end Text

end RestCall
