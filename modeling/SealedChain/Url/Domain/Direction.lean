import SealedChain.Unicode.Direction

/-!
# Directions in a domain

Where a domain holds a letter that is written from right to left, each of its labels has to keep to
one direction, from its first letter to its last letter or digit, so that no part of a label is
shown inside another.
-/
namespace SealedChain.Url.Domain

open Unicode (Direction)

def isTurned (cs : List Char) : Bool :=
  cs.any fun c => Direction.of c == .right || Direction.of c == .arabicDigit

/-- Whether directions are all among some, and the last that is not of a mark is among others. -/
def runs (within ends : List Direction) (directions : List Direction) : Bool :=
  directions.all within.contains &&
    ((directions.reverse.find? (· != .nonspacing)).map ends.contains).getD false

/-- Whether a label keeps to one direction. Digits of both kinds do not stand together. -/
def keepsDirection (label : List Char) : Bool :=
  let directions := label.map Direction.of
  match directions with
  | [] => true
  | .left :: _ => runs [.left, .europeanDigit, .sign, .nonspacing] [.left, .europeanDigit] directions
  | .right :: _ =>
    let ends := [.right, .europeanDigit, .arabicDigit]
    runs (.sign :: .nonspacing :: ends) ends directions &&
      !(directions.contains .europeanDigit && directions.contains .arabicDigit)
  | _ => false

end SealedChain.Url.Domain
