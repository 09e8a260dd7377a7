import RestCall.Text.Joining
/-!
# RestCall — labels of domain names

A label in the characters it is meant to show. No label begins with a
mark, and joiners stand only where they have an effect. Once any label of
a name holds text written from right to left, every label of it has to
keep to one direction.
-/

namespace RestCall

namespace Url

open Text (Direction direction)

/-- Whether a label could stand in a name by itself. -/
def isLabel (label : List Char) : Bool :=
  !label.head?.any Text.isMark && Text.joinersFit label

/-- Whether a label holds text written from right to left. -/
def isRightward (label : List Char) : Bool :=
  label.any fun c => direction c == .right || direction c == .arabicDigit

/-- The directions of a label without the marks at its end. -/
def directionsOf (cs : List Char) : List Direction :=
  ((cs.map direction).reverse.dropWhile (· == .attached)).reverse

/-- Whether a label keeps to one direction. Its first character is a letter
and decides which; the last one is a letter of that direction or a digit,
and numbers of one kind only stand between letters from right to left. -/
def keepsDirection : List Char → Bool
  | [] => true
  | c :: rest =>
    let directions := directionsOf rest
    match direction c with
    | .left =>
      directions.all (fun d => d != .right && d != .arabicDigit) &&
        directions.getLast?.all (· != .neutral)
    | .right =>
      directions.all (· != .left) && directions.getLast?.all (· != .neutral) &&
        !(directions.contains .arabicDigit && directions.contains .europeanDigit)
    | _ => false

end Url

end RestCall
