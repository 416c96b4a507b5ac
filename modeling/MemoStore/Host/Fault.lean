import MemoStore.Host.Domain
import MemoStore.Host.Numeric
import MemoStore.Text.Utf8

/-!
# Hosts in URLs

The host of a URL is an address in brackets, or else, where hosts are known by domain
names, a domain name or an address of four octets, whose characters may be encoded. In
other URLs it is a text without the characters that have a meaning there.
-/

namespace MemoStore.Host

open MemoStore.Text

/-- What is wrong with a host. -/
inductive Fault where
  | empty
  | invalidIpv4
  | invalidIpv6
  | invalidCharacter
  | invalidName
  deriving DecidableEq, Repr

/-- The characters that no text for a host has. -/
def isForbidden (c : Char) : Bool :=
  ['\x00', '\t', '\n', '\r', ' ', '#', '/', ':', '<', '>', '?', '@', '[', '\\', ']', '^',
    '|'].contains c

/-- The fault of an address in brackets, if it has one. -/
def bracketFault? (host : List Char) : Option Fault :=
  if host.getLast? = some ']' && isIpv6 host.tail.dropLast then none else some .invalidIpv6

/-- The fault of a host that is known by a domain name, if it has one. -/
def domainFault? (host : List Char) : Option Fault :=
  if host.head? = some '[' then bracketFault? host
  else
    match (Utf8.read (Percent.decode host)).toOption.bind fun name => readDomain? name.toList with
    | none => some .invalidName
    | some name =>
      if name.isEmpty then some .empty
      else if endsInNumber name && !isIpv4 name then some .invalidIpv4
      else none

/-- The fault of a host that is only a text, if it has one. -/
def textFault? (host : List Char) : Option Fault :=
  if host.head? = some '[' then bracketFault? host
  else if host.any isForbidden then some .invalidCharacter
  else none

end MemoStore.Host
