import SealedChain.Url.Host

/-!
# Paths

A path is a list of segments. A segment of one point stands for nothing and one of two points takes
the segment before it away, unless that is a drive; either leaves an empty segment at the end of the
path. The drive that the path of a file begins with is written with a colon, and a line break or tab
after it ends it as a slash does.
-/
namespace SealedChain.Url

def isSlash (special : Bool) (c : Char) : Bool := c == '/' || (special && c == '\\')

def isBreak (c : Char) : Bool := c == '\t' || c == '\n' || c == '\r'

def unbroken (cs : List Char) : List Char := cs.filter (!isBreak ·)

namespace Path

def plainPoints : List Char → List Char
  | '%' :: '2' :: 'e' :: rest | '%' :: '2' :: 'E' :: rest => '.' :: plainPoints rest
  | c :: rest => c :: plainPoints rest
  | [] => []

def isDrive : List Char → Bool
  | [letter, mark] => letter.isAlpha && (mark == ':' || mark == '|')
  | _ => false

/-- Whether a segment is a drive, or starts with one before a backslash. -/
def startsWithDrive (cs : List Char) : Bool := isDrive (cs.takeWhile (· != '\\'))

/-- The segments, last first, without the last one, which stays if it is a drive. -/
def shorten : List (List Char) → List (List Char)
  | [] => []
  | last :: before => if startsWithDrive last then last :: before else before

/-- The drive that a break ends, and what follows it, if something does. -/
def brokenDrive? (cs : List Char) : Option (List Char × List Char) :=
  match cs.dropWhile isBreak with
  | [] => none
  | letter :: rest =>
    match rest.dropWhile isBreak with
    | ':' :: mark :: rest =>
      if letter.isAlpha && isBreak mark && !(unbroken rest).isEmpty then
        some ([letter, ':'], unbroken rest)
      else none
    | _ => none

/-- The segments, last first, after those in `acc`. -/
def walk (file : Bool) (acc : List (List Char)) : List (List Char) → List (List Char)
  | [] => acc
  | cs :: rest =>
    match if file && acc.isEmpty then brokenDrive? cs else none with
    | some (drive, after) => walk file [escape .path after, drive] rest
    | none =>
      let ended := fun (acc : List (List Char)) => if rest.isEmpty then [] :: acc else acc
      let segment := unbroken cs
      let plain := plainPoints segment
      if plain = ['.', '.'] then walk file (ended (shorten acc)) rest
      else if plain = ['.'] then walk file (ended acc) rest
      else if file && acc.isEmpty && isDrive segment then walk file [segment.take 1 ++ [':']] rest
      else walk file (escape .path segment :: acc) rest

def segments (special file : Bool) (cs : List Char) : List (List Char) :=
  (walk file [] (Text.pieces (isSlash special) cs)).reverse

/-- The text of a path that is given without its first slash. -/
def text (special file : Bool) (cs : List Char) : List Char :=
  (segments special file cs).flatMap ('/' :: ·)

def hasDrive (cs : List Char) : Bool :=
  let path := segments true true cs
  path.head?.any isDrive && path == segments true true (unbroken cs)

end Path

end SealedChain.Url
