import RestCall.Text.Canonical
import RestCall.Text.Direction
import RestCall.Text.JoiningTable
/-!
# RestCall — joiners

Two invisible characters guide how letters are joined. Either may follow a
mark that takes a vowel away. The one that keeps letters apart may also
stand where the letters around it would be joined, marks not counted.
-/

namespace RestCall

namespace Text

/-- The invisible character that keeps letters apart. -/
def nonJoiner : Char := Char.ofNat 0x200C

/-- The invisible character that joins letters. -/
def joiner : Char := Char.ofNat 0x200D

/-- Whether a character is a mark that takes a vowel away. -/
def isVowelKiller (c : Char) : Bool := order c.toNat == 9

/-- The nearest character that is no mark. -/
def nearestLetter? (cs : List Char) : Option Char :=
  (cs.dropWhile fun c => direction c == .attached).head?

/-- Whether a letter is joined to the one behind it. -/
def joinsBehind (c : Char) : Bool := isIn joinedBothRuns c.toNat || isIn joinedBehindRuns c.toNat

/-- Whether a letter is joined to the one before it. -/
def joinsBefore (c : Char) : Bool := isIn joinedBothRuns c.toNat || isIn joinedBeforeRuns c.toNat

/-- Whether a character may stand between others, the nearest first on
either side, as far as it is a joiner. -/
def joinerFits (before : List Char) (c : Char) (behind : List Char) : Bool :=
  if c = nonJoiner then
    before.head?.any isVowelKiller ||
      ((nearestLetter? before).any joinsBehind && (nearestLetter? behind).any joinsBefore)
  else if c = joiner then before.head?.any isVowelKiller
  else true

/-- Whether every joiner stands where it may, behind the given characters. -/
def joinersFitAfter (before : List Char) : List Char → Bool
  | [] => true
  | c :: behind => joinerFits before c behind && joinersFitAfter (c :: before) behind

/-- Whether every joiner stands where it may. -/
def joinersFit (cs : List Char) : Bool := joinersFitAfter [] cs

end Text

end RestCall
