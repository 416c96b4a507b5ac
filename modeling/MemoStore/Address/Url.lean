import MemoStore.Host.Fault

/-!
# URLs

Only what decides about a connection is read: the scheme, and whether the part behind
it names a host as a URL must. Control characters and spaces around a URL are no part
of it, and neither are tabs and line ends inside it.
-/

namespace MemoStore.Address

/-- What is wrong with a URL. -/
inductive UrlFault where
  | noScheme
  | invalidService
  | host (fault : Host.Fault)
  deriving DecidableEq, Repr

/-- The name of a fault in messages. -/
def UrlFault.label : UrlFault → String
  | .noScheme => "RelativeUrlWithoutBase"
  | .invalidService => "InvalidPort"
  | .host .empty => "EmptyHost"
  | .host .invalidIpv4 => "InvalidIpv4Address"
  | .host .invalidIpv6 => "InvalidIpv6Address"
  | .host .invalidCharacter => "InvalidDomainCharacter"
  | .host .invalidName => "IdnaError"

namespace Url

open MemoStore.Text

/-- The characters of a URL that count. -/
def relevant (text : List Char) : List Char :=
  (dropEnds text).filter fun c => c != '\t' && c != '\n' && c != '\r'
where
  dropEnds (text : List Char) : List Char :=
    ((text.dropWhile (· ≤ ' ')).reverse.dropWhile (· ≤ ' ')).reverse

/-- Whether a character may stand in a scheme behind the first letter. -/
def isSchemeChar (c : Char) : Bool :=
  c.isAlphanum || c = '+' || c = '-' || c = '.'

/-- Reads the scheme of a URL, in lower case, and what follows its colon. -/
def splitScheme? (text : List Char) : Option (String × List Char) :=
  if !(text.head?.any Char.isAlpha) then none
  else
    match text.dropWhile isSchemeChar with
    | ':' :: rest =>
      some (String.ofList ((text.takeWhile isSchemeChar).map Char.toLower), rest)
    | _ => none

/-- The schemes of the web, whose URLs always name a host, and one by a domain name. -/
def isWebScheme (scheme : String) : Bool :=
  ["http", "https", "ws", "wss", "ftp"].contains scheme

/-- A text cut at the last at sign. -/
def cutAtLastAt (text : List Char) : Option (List Char × List Char) :=
  if text.contains '@' then
    let after := (text.reverse.takeWhile (· != '@')).reverse
    some (text.take (text.length - after.length - 1), after)
  else none

/-- Splits the service number off a host, at the first colon that no bracket encloses. -/
def splitService (enclosed : Bool) : List Char → List Char × Option (List Char)
  | [] => ([], none)
  | c :: rest =>
    if c = ':' && !enclosed then ([], some rest)
    else
      let (host, service) :=
        splitService (if c = '[' then true else if c = ']' then false else enclosed) rest
      (c :: host, service)

/-- Whether a service number fits 16 bits or is left out. -/
def isServiceNumber (text : List Char) : Bool :=
  let digits := text.takeWhile Char.isDigit
  let after := text.dropWhile Char.isDigit
  decimalValue digits < 65536 &&
    (after.isEmpty || after.head? == some '\\')

/-- The fault of a host, if it has one. -/
def hostFault? (web : Bool) (host : List Char) : Option UrlFault :=
  (if web && host.isEmpty then some .empty
    else if web then Host.domainFault? host
    else Host.textFault? host).map .host

/-- The fault of the part of a URL between two slashes and the next slash, question
mark or number sign, if it has one. -/
def authorityFault? (web : Bool) (authority : List Char) (more : Bool) : Option UrlFault :=
  match cutAtLastAt authority with
  | some ([], []) => if more then some (.host .empty) else hostServiceFault? false []
  | some ([], host) => hostServiceFault? false host
  | some (user, host) => hostServiceFault? (user != [':']) host
  | none => hostServiceFault? false authority
where
  /-- The fault of a host with its service number, behind a user or not. -/
  hostServiceFault? (user : Bool) (text : List Char) : Option UrlFault :=
    let (host, service) := splitService false text
    match hostFault? web host, service with
    | some fault, _ => some fault
    | none, some service =>
      if host.isEmpty then some (.host .empty)
      else if isServiceNumber service then none
      else some .invalidService
    | none, none => if host.isEmpty && user then some (.host .empty) else none

/-- Whether a character ends the part of a URL that names the host. -/
def endsAuthority (web : Bool) (c : Char) : Bool :=
  c = '/' || c = '?' || c = '#' || (web && c = '\\')

/-- The fault of a URL whose host follows, if it has one. -/
def afterSlashesFault? (web : Bool) (text : List Char) : Option UrlFault :=
  let authority := text.takeWhile fun c => !endsAuthority web c
  authorityFault? web authority (authority.length < text.length)

/-- Whether a text names a drive, which is no host. -/
def isDrive : List Char → Bool
  | [letter, mark] => letter.isAlpha && (mark = ':' || mark = '|')
  | _ => false

/-- The fault of what follows the scheme of a file URL, if it has one. It names a host
behind two slashes, which may be left out. -/
def fileFault? (rest : List Char) : Option UrlFault :=
  let (slashes, text) := rest.splitAt 2
  let host := text.takeWhile fun c => !endsAuthority true c
  if slashes.length < 2 || slashes.any (fun c => c != '/' && c != '\\') then none
  else if host.isEmpty || isDrive host then none
  else (Host.domainFault? host).map .host

/-- The fault of what follows a scheme, if it has one. -/
def fault? (scheme : String) (rest : List Char) : Option UrlFault :=
  if isWebScheme scheme then
    afterSlashesFault? true (rest.dropWhile fun c => c = '/' || c = '\\')
  else if scheme = "file" then fileFault? rest
  else
    match rest with
    | '/' :: '/' :: text => afterSlashesFault? false text
    | _ => none

/-- The scheme of a URL, or what is wrong with it. -/
def scheme (url : String) : Except UrlFault String :=
  match splitScheme? (relevant url.toList) with
  | none => .error .noScheme
  | some (scheme, rest) =>
    match fault? scheme rest with
    | some fault => .error fault
    | none => .ok scheme

end Url

end MemoStore.Address
