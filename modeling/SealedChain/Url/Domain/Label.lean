import SealedChain.Unicode.Composed
import SealedChain.Unicode.Joining
import SealedChain.Url.Domain.Replacement
import SealedChain.Url.Punycode

/-!
# Labels of a domain

A label is written in ASCII. What it shows may be another text, which has to be in its usual form
and well written: it does not begin with a mark, and a character that joins letters, or keeps them
apart, stands only where that can be seen.
-/
namespace SealedChain.Url.Domain

def isForbidden (c : Char) : Bool :=
  c.toNat ≤ 0x20 || c.toNat == 0x7f ||
    ['%', '#', '/', ':', '<', '>', '?', '@', '[', '\\', ']', '^', '|'].contains c

def usualText? (cs : List Char) : Option (List Char) := do
  let text := Unicode.composed (← cs.mapM usual?).flatten
  if text.any isForbidden then none else some text

def nonJoiner : Char := Char.ofNat 0x200c

def joiner : Char := Char.ofNat 0x200d

/-- Whether a character has an effect between the text before it, last character first, and the
text after it. -/
def fits (before : List Char) (c : Char) (after : List Char) : Bool :=
  let afterVirama := before.head?.any (Unicode.combiningClass · == Unicode.virama)
  if c = joiner then afterVirama
  else if c = nonJoiner then
    afterVirama ||
      ((before.dropWhile Unicode.isTransparent).head?.any Unicode.joinsNext &&
        (after.dropWhile Unicode.isTransparent).head?.any Unicode.joinsPrevious)
  else true

def allFit (before : List Char) : List Char → Bool
  | [] => true
  | c :: rest => fits before c rest && allFit (c :: before) rest

/-- Whether a label that is not in ASCII is well written. -/
def isWellWritten (label : List Char) : Bool :=
  !label.head?.any Unicode.isMark && allFit [] label

/-- The most characters that are written in ASCII. -/
def longestShown : Nat := 1000

def longestCode : Nat := 2000

def isAscii (cs : List Char) : Bool := cs.all (·.toNat < 128)

def shownBy? (code : List Char) : Option (List Char) :=
  if !isAscii code || longestCode < code.length then none
  else match Punycode.decode? code with
    | none => none
    | some shown =>
      if !isAscii shown && usualText? shown == some shown && isWellWritten shown &&
          Punycode.encode shown == code then some shown
      else none

structure Label where
  shown : List Char
  /-- The label in ASCII. -/
  written : List Char
  deriving DecidableEq, Repr

def codeMark : List Char := ['x', 'n', '-', '-']

def Label.ofText? (cs : List Char) : Option Label :=
  if codeMark.isPrefixOf cs then
    (shownBy? (cs.drop codeMark.length)).map fun shown => ⟨shown, cs⟩
  else if isAscii cs then some ⟨cs, cs⟩
  else if longestShown < cs.length || !isWellWritten cs then none
  else some ⟨cs, codeMark ++ Punycode.encode cs⟩

end SealedChain.Url.Domain
