import SealedChain.Text.Pieces
import SealedChain.Url.Domain.Direction
import SealedChain.Url.Domain.Label

/-!
# Domains

A domain is brought to its usual form and cut into labels at its points; it is written as its labels
are, in ASCII.
-/
namespace SealedChain.Url.Domain

def ascii? (cs : List Char) : Option (List Char) := do
  let text ← usualText? cs
  let labels ← (Text.pieces (· == '.') text).mapM Label.ofText?
  if labels.any (isTurned ·.shown) && !labels.all (keepsDirection ·.shown) then none
  else some (Text.joined '.' (labels.map Label.written))

end SealedChain.Url.Domain
