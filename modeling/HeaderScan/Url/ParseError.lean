/-!
# Reasons why a text is no URL
-/

namespace HeaderScan.Url

/-- What stops a text from being an absolute URL. -/
inductive ParseError where
  | relativeWithoutBase
  | emptyHost
  | badIPv4
  | badIPv6
  | badPort
  | badDomainCharacter
  | badInternationalName
deriving DecidableEq

/-- The reason in words. -/
def ParseError.message : ParseError → String
  | relativeWithoutBase => "relative URL without a base"
  | emptyHost => "empty host"
  | badIPv4 => "invalid IPv4 address"
  | badIPv6 => "invalid IPv6 address"
  | badPort => "invalid port number"
  | badDomainCharacter => "invalid domain character"
  | badInternationalName => "invalid international domain name"

end HeaderScan.Url
