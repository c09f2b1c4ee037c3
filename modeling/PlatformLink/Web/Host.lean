import PlatformLink.Web.Address
import PlatformLink.Web.Domain

/-!
# Hosts

The host of a URL of a special scheme is a domain or a number; it is percent-decoded and then
written in the form in which it is looked up. Under any other scheme the host is a text that keeps
its case.
-/

namespace PlatformLink.Web

def isForbiddenInHost (c : Char) : Bool :=
  c == '\x00' || c == '\t' || c == '\n' || c == '\r' || " #/:<>?@[\\]^|".toList.contains c

/-- An address in brackets, if the host begins with one. -/
def bracketed? (host : List Char) : Option (Except UrlFault String) :=
  match host with
  | '[' :: rest =>
    some (if rest.getLast? = some ']' then (ipv6? rest.dropLast).map ipv6Text
      else .error .invalidIpv6)
  | _ => none

/-- The host of a special scheme. -/
def domainHost (host : List Char) : Except UrlFault String :=
  match bracketed? host with
  | some r => r
  | none => do
    let s ← match Text.decode? (percentDecode host) with
      | some s => pure s
      | none => .error .invalidDomain
    let domain ← domainOfText s
    if endsInNumber domain then return ipv4Text (← ipv4? domain)
    else return String.ofList domain

/-- The host of any other scheme. -/
def plainHost (host : List Char) : Except UrlFault String :=
  match bracketed? host with
  | some r => r
  | none =>
    if host.any isForbiddenInHost then .error .forbiddenHostCharacter
    else .ok (String.ofList (UrlPart.control.encode host))

end PlatformLink.Web
