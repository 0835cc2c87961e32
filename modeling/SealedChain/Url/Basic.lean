import SealedChain.Url.Path

/-!
# URLs

An absolute URL in its normal form: the scheme and the domain in lower case, the default port left
out, every part with the escapes that it needs.
-/
namespace SealedChain

namespace Url

/-- What stands between the two slashes and the path. -/
structure Authority where
  username : List Char := []
  password : List Char := []
  host : Host
  port : Option Nat := none
  deriving DecidableEq, Repr

def Authority.userText (a : Authority) : List Char :=
  match a.username, a.password with
  | [], [] => []
  | name, [] => name ++ ['@']
  | name, password => name ++ ':' :: (password ++ ['@'])

def Authority.text (a : Authority) : List Char :=
  a.userText ++ a.host.text ++ match a.port with
    | some port => ':' :: Digits.decimal port
    | none => []

end Url

structure Url where
  scheme : List Char
  authority : Option Url.Authority
  path : List Char
  query : Option (List Char)
  fragment : Option (List Char)
  deriving DecidableEq, Repr

namespace Url

def marked (mark : Char) : Option (List Char) → List Char
  | some cs => mark :: cs
  | none => []

def text (u : Url) : String :=
  let authority := match u.authority with
    | some a => '/' :: '/' :: a.text
    | none => []
  String.ofList (u.scheme ++ ':' :: (authority ++ u.path ++ marked '?' u.query ++
    marked '#' u.fragment))

inductive Kind where
  | web
  | file
  | other
  deriving DecidableEq, Repr

def Kind.ofScheme (scheme : List Char) : Kind :=
  let scheme := String.ofList scheme
  if scheme = "file" then .file
  else if ["http", "https", "ws", "wss", "ftp"].contains scheme then .web
  else .other

def defaultPort? (scheme : List Char) : Option Nat :=
  match String.ofList scheme with
  | "http" | "ws" => some 80
  | "https" | "wss" => some 443
  | "ftp" => some 21
  | _ => none

def endsAuthority (special : Bool) (c : Char) : Bool :=
  isSlash special c || c == '?' || c == '#'

def trimmed (cs : List Char) : List Char :=
  let start := cs.dropWhile (·.toNat ≤ 0x20)
  (start.reverse.dropWhile (·.toNat ≤ 0x20)).reverse

def scheme? (cs : List Char) : Option (List Char × List Char) :=
  let isScheme := fun (c : Char) => c.isAlphanum || c == '+' || c == '-' || c == '.'
  match cs, cs.dropWhile isScheme with
  | first :: _, ':' :: rest =>
    if first.isAlpha then some ((cs.takeWhile isScheme).map Char.toLower, rest) else none
  | _, _ => none

/-- The text before the last of a character, and what follows it. -/
def splitLast (mark : Char) (cs : List Char) : Option (List Char × List Char) :=
  match cs.reverse.dropWhile (· != mark) with
  | _ :: before => some (before.reverse, (cs.reverse.takeWhile (· != mark)).reverse)
  | [] => none

/-- How many characters of a text belong to the host: up to a colon outside brackets. -/
def hostLength (special : Bool) : (inside : Bool) → List Char → Nat
  | _, [] => 0
  | inside, c :: rest =>
    if (c == ':' && !inside) || endsAuthority special c then 0
    else hostLength special (if c = '[' then true else if c = ']' then false else inside) rest + 1

def port? (scheme cs : List Char) : Except ParseError (Option Nat × List Char) :=
  let digits := cs.takeWhile Char.isDigit
  let rest := cs.dropWhile Char.isDigit
  let number := (Digits.value? 10 digits).getD 0
  if 0x10000 ≤ number then .error .port
  else if (rest.head?.map fun c => endsAuthority true c) = some false then .error .port
  else if digits.isEmpty ∨ defaultPort? scheme = some number then .ok (none, rest)
  else .ok (some number, rest)

def userOf (cs : List Char) : List Char × List Char :=
  (escape .userInfo (cs.takeWhile (· != ':')),
    escape .userInfo ((cs.dropWhile (· != ':')).drop 1))

def hostAndPort (scheme : List Char) (special : Bool) (user : List Char × List Char)
    (cs : List Char) : Except ParseError (Authority × List Char) := do
  let length := hostLength special false cs
  let name := cs.take length
  let rest := cs.drop length
  if special && name.isEmpty then throw .emptyHost
  let host ← if special then Host.parse name else Host.parseBare name
  if name.isEmpty && rest.head? = some ':' then throw .emptyHost
  let (port, rest) ← match rest with
    | ':' :: rest => port? scheme rest
    | rest => .ok (none, rest)
  if name.isEmpty && (user.1 ≠ [] ∨ user.2 ≠ []) then throw .emptyHost
  return ({ username := user.1, password := user.2, host, port }, rest)

def readAuthority (scheme : List Char) (special : Bool) (cs : List Char) :
    Except ParseError (Authority × List Char) :=
  let upToEnd := cs.takeWhile (!endsAuthority special ·)
  let rest := cs.dropWhile (!endsAuthority special ·)
  match splitLast '@' upToEnd with
  | none => hostAndPort scheme special ([], []) cs
  | some (user, host) =>
    if user.isEmpty && host.isEmpty && !rest.isEmpty then .error .emptyHost
    else hostAndPort scheme special (userOf user) (host ++ rest)

def beforeQuery (cs : List Char) : List Char := cs.takeWhile fun c => c != '?' && c != '#'

def queryOf (special : Bool) (cs : List Char) : Option (List Char) :=
  match cs.dropWhile fun c => c != '?' && c != '#' with
  | '?' :: rest => some (escape (.query special) (rest.takeWhile (· != '#')))
  | _ => none

def fragmentOf (cs : List Char) : Option (List Char) :=
  match cs.dropWhile (· != '#') with
  | _ :: rest => some (escape .fragment rest)
  | [] => none

def dropSlash (special : Bool) : List Char → List Char
  | [] => []
  | c :: rest => if isSlash special c then rest else c :: rest

def withPath (scheme : List Char) (authority : Option Authority) (special : Bool)
    (path cs : List Char) : Url :=
  { scheme, authority, path, query := queryOf special cs, fragment := fragmentOf cs }

/-- The URL of a web scheme. Any number of slashes may come before its authority. -/
def web (scheme cs : List Char) : Except ParseError Url := do
  let (a, rest) ← readAuthority scheme true (cs.dropWhile (isSlash true))
  let path := Path.text true false (dropSlash true (beforeQuery rest))
  return withPath scheme (some a) true path rest

/-- The URL of another scheme, with an authority, a path of segments or a path taken as it is. -/
def other (scheme cs : List Char) : Except ParseError Url :=
  match cs with
  | '/' :: '/' :: rest => do
    let (a, rest) ← readAuthority scheme false rest
    let path := match beforeQuery rest with
      | [] => []
      | cs => Path.text false false (dropSlash false cs)
    return withPath scheme (some a) false path rest
  | '/' :: rest =>
    let path := Path.text false false (beforeQuery rest)
    let path := match path with
      | '/' :: '/' :: _ => '/' :: '.' :: path
      | path => path
    .ok (withPath scheme none false path rest)
  | cs => .ok (withPath scheme none false (escape .bare (beforeQuery cs)) cs)

/-- The path of a file without empty segments before it. -/
def filePath (cs : List Char) : List Char :=
  '/' :: (Path.text true true cs).dropWhile (· == '/')

/-- The host that a file URL names. One's own computer is none. -/
def fileHost (name : List Char) : Except ParseError Host := do
  if name.isEmpty then return .domain []
  let host ← Host.parse name
  return if host = .domain "localhost".toList then .domain [] else host

def afterBreaks (cs : List Char) : List Char := cs.dropWhile isBreak

/-- The URL of a file with a path that may hold line breaks and tabs. -/
def withFilePath (scheme : List Char) (host : Host) (path cs : List Char) : Url :=
  withPath scheme (some { host }) true (filePath path) (unbroken cs)

def afterSlashes? (cs : List Char) : Option (List Char) :=
  match afterBreaks cs with
  | [] => none
  | first :: rest =>
    match afterBreaks rest with
    | [] => none
    | second :: rest => if isSlash true first && isSlash true second then some rest else none

/-- The URL of a file. The line breaks and tabs are still in the text. A drive that the path begins
with takes the place of the host; where two slashes are not followed by a host, the path begins with
an empty segment. -/
def file (scheme cs : List Char) : Except ParseError Url :=
  match afterSlashes? cs with
  | none =>
    .ok (withFilePath scheme (.domain []) (dropSlash true (beforeQuery (afterBreaks cs))) cs)
  | some rest =>
    let name := unbroken (rest.takeWhile (!endsAuthority true ·))
    let after := rest.dropWhile (!endsAuthority true ·)
    if Path.isDrive name then .ok (withFilePath scheme (.domain []) (beforeQuery rest) rest)
    else do
      let path := beforeQuery after
      match ← fileHost name with
      | .domain [] => return withFilePath scheme (.domain []) path after
      | host =>
        let path := dropSlash true path
        return withFilePath scheme (if Path.hasDrive path then .domain [] else host) path after

def parse (text : String) : Except ParseError Url :=
  let whole := trimmed text.toList
  match scheme? (unbroken whole) with
  | none => .error .relative
  | some (scheme, rest) =>
    match Kind.ofScheme scheme with
    | .web => web scheme rest
    | .file => file scheme ((whole.dropWhile (· != ':')).drop 1)
    | .other => other scheme rest

end Url

end SealedChain
