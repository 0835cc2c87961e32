/-!
# Texts that are no URL

Why a text is no URL, and the wording of each reason.
-/
namespace SealedChain.Url

inductive ParseError where
  | relative
  | emptyHost
  | domainName
  | domainCharacter
  | port
  | ipv4
  | ipv6
  deriving DecidableEq, Repr

def ParseError.message : ParseError → String
  | .relative => "relative URL without a base"
  | .emptyHost => "empty host"
  | .domainName => "invalid international domain name"
  | .domainCharacter => "invalid domain character"
  | .port => "invalid port number"
  | .ipv4 => "invalid IPv4 address"
  | .ipv6 => "invalid IPv6 address"

end SealedChain.Url
