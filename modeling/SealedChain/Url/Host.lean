import SealedChain.Net.Ip
import SealedChain.Url.Domain.Basic
import SealedChain.Url.Error
import SealedChain.Url.Percent

/-!
# Hosts

The host of a web URL is an address or a domain, which is written in ASCII. A domain whose last label
is a number has to be an address of one to four numbers, each in decimal, octal or hexadecimal. The
host of any other URL is taken as it is.
-/
namespace SealedChain.Url

open Text (pieces)

inductive Host where
  | domain (name : List Char)
  | ipv4 (ip : Net.Ipv4)
  | ipv6 (ip : Net.Ipv6)
  deriving DecidableEq, Repr

def Host.text : Host → List Char
  | .domain name => name
  | .ipv4 ip => ip.text
  | .ipv6 ip => '[' :: (ip.text ++ [']'])

namespace Ipv4Text

/-- The number that a piece of an address stands for; none if it is no number. -/
def number? (cs : List Char) : Option Nat :=
  match cs with
  | [] => none
  | '0' :: 'x' :: rest | '0' :: 'X' :: rest => Digits.value? 16 rest
  | '0' :: rest => Digits.value? 8 rest
  | cs => Digits.value? 10 cs

def parts (cs : List Char) : List (List Char) :=
  let all := pieces (· == '.') cs
  if all.getLast? = some [] then all.dropLast else all

def endsInNumber (cs : List Char) : Bool :=
  match (parts cs).getLast? with
  | none => false
  | some last => (!last.isEmpty && last.all Char.isDigit) || (number? last).isSome

/-- What the octets of an address weigh, and how many addresses there are. -/
def weights : List Nat := [0x1000000, 0x10000, 0x100]

/-- The number that the octets before the last number of an address make. -/
def high (octets : List Nat) : Nat := (octets.zipWith (· * ·) weights).foldl (· + ·) 0

/-- How many values the last of this many numbers may have. -/
def lastLimit (count : Nat) : Nat := (0x100000000 :: weights).getD (count - 1) 0

/-- The address of numbers, all but the last of which are octets. -/
def ofNumbers? (ns : List Nat) : Option Net.Ipv4 :=
  match ns.reverse with
  | [] => none
  | last :: before =>
    if before.any (255 < ·) ∨ lastLimit ns.length ≤ last then none
    else some (.ofNat (high before.reverse + last))

def parse? (cs : List Char) : Option Net.Ipv4 := ((parts cs).mapM number?).bind ofNumbers?

end Ipv4Text

namespace Host

def bracketed (cs : List Char) : Except ParseError Host :=
  if cs.getLast? ≠ some ']' then .error .ipv6
  else match Net.Read.ipv6? cs.dropLast with
    | some (ip, []) => .ok (.ipv6 ip)
    | _ => .error .ipv6

def parse (cs : List Char) : Except ParseError Host :=
  match cs with
  | '[' :: rest => bracketed rest
  | cs =>
    match (unescapedText? cs).bind Domain.ascii? with
    | none => .error .domainName
    | some [] => .error .emptyHost
    | some name =>
      if Ipv4Text.endsInNumber name then
        match Ipv4Text.parse? name with
        | some ip => .ok (.ipv4 ip)
        | none => .error .ipv4
      else .ok (.domain name)

def notBare (c : Char) : Bool :=
  ['\x00', '\t', '\n', '\r', ' ', '#', '/', ':', '<', '>', '?', '@', '[', '\\', ']', '^',
    '|'].contains c

def parseBare (cs : List Char) : Except ParseError Host :=
  match cs with
  | '[' :: rest => bracketed rest
  | cs =>
    if cs.any notBare then .error .domainCharacter
    else .ok (.domain (escape .bare cs))

end Host

end SealedChain.Url
