import SealedChain.Unicode.CombiningClass
import SealedChain.Unicode.Composite

/-!
# Composed texts

Texts that look the same may be spelled differently, with composite characters or with their parts,
and with their marks in different orders. `composed` gives the one spelling of them all: every
composite is taken apart, the marks of each letter are put in the order of their classes, and what
can be put together is put together.
-/
namespace SealedChain.Unicode

def takenApart : (depth : Nat) → Char → List Char
  | 0, c => [c]
  | depth + 1, c =>
    match parts? c with
    | some (first, second) => takenApart depth first ++ [second]
    | none => [c]

def deepest : Nat := 4

/-- Puts a character before a text, behind the marks of lower classes. -/
def insertMark (c : Char) : List Char → List Char
  | [] => [c]
  | d :: rest =>
    if combiningClass d ≠ 0 ∧ combiningClass d < combiningClass c then d :: insertMark c rest
    else c :: d :: rest

/-- A text with the marks of each letter in the order of their classes. -/
def ordered (cs : List Char) : List Char := cs.foldr insertMark []

/-- A text that is being put together. -/
structure Composing where
  done : List Char := []
  letter : Option Char := none
  marks : List Char := []

namespace Composing

/-- Whether a mark that was not added keeps a character away from the letter. -/
def blocks (s : Composing) (c : Char) : Bool :=
  match s.marks with
  | [] => false
  | last :: _ => combiningClass c ≤ combiningClass last

def step (s : Composing) (c : Char) : Composing :=
  match s.letter with
  | none =>
    if combiningClass c = 0 then { s with letter := some c } else { s with done := c :: s.done }
  | some letter =>
    match if s.blocks c then none else whole? letter c with
    | some whole => { s with letter := some whole }
    | none =>
      if combiningClass c = 0 then { done := s.marks ++ letter :: s.done, letter := some c }
      else { s with marks := c :: s.marks }

def text (s : Composing) : List Char := (s.marks ++ s.letter.toList ++ s.done).reverse

end Composing

def putTogether (cs : List Char) : List Char := (cs.foldl Composing.step {}).text

/-- The spelling of a text that all texts of its look share. -/
def composed (cs : List Char) : List Char :=
  putTogether (ordered (cs.flatMap (takenApart deepest)))

end SealedChain.Unicode
