import CertLifecycle.Ip.V6
import CertLifecycle.Text.Bytes
import CertLifecycle.Uri.Domain
import CertLifecycle.Uri.Encoding

/-!
The host of a URI. Schemes of the web take domain names, which are brought into ASCII, and IPv4
addresses in any of their numeric spellings; other schemes keep the name as it is written. Both take
IPv6 addresses in brackets.
-/

namespace CertLifecycle.Uri

/-- A host: a name, possibly empty, or an address. -/
inductive Host where
  | name (text : List Char)
  | ipv4 (ip : Ip.V4)
  | ipv6 (ip : Ip.V6)
  deriving DecidableEq

namespace Host

/-- The host as it stands in a URI. -/
def text : Host → List Char
  | .name text => text
  | .ipv4 ip => ip.text
  | .ipv6 ip => ['['] ++ ip.text ++ [']']

/-- What no host name may hold. -/
def isForbidden (c : Char) : Bool :=
  c ∈ ['\x00', '\t', '\n', '\r', ' ', '#', '/', ':', '<', '>', '?', '@', '[', '\\', ']', '^', '|']

/-- What no domain name may hold. -/
def isForbiddenInDomain (c : Char) : Bool :=
  isForbidden c || c.toNat < 0x20 || c == '%' || 0x7e < c.toNat

/-- One number of an IPv4 address: hexadecimal after 0x, octal after another leading zero, and
decimal otherwise. -/
def ipv4Number? : List Char → Option Nat
  | [] => none
  | '0' :: mark :: digits =>
    if mark = 'x' ∨ mark = 'X' then if digits.isEmpty then some 0 else Text.nat? 16 digits
    else Text.nat? 8 (mark :: digits)
  | digits => Text.nat? 10 digits

/-- The labels of a name between its dots, without an empty one at the end. -/
def labels (name : List Char) : List (List Char) :=
  let parts := Text.pieces '.' name
  if parts.getLast? = some [] then parts.dropLast else parts

/-- Whether the last label is a number, so that the name must be an IPv4 address. -/
def endsInNumber (name : List Char) : Bool :=
  match (labels name).getLast? with
  | none => false
  | some last => (!last.isEmpty && last.all Char.isDigit) || (ipv4Number? last).isSome

/-- The address that up to four numbers write: all but the last are octets, and the last fills the
rest. -/
def ipv4OfNumbers? (numbers : List Nat) : Option Ip.V4 := do
  let last ← numbers.getLast?
  let octets := numbers.dropLast
  if numbers.length ≤ 4 ∧ octets.all (· < 256) ∧ last < 1 <<< (8 * (4 - octets.length)) then
    let front := octets.foldl (fun value octet => value * 256 + octet) 0
    some (Ip.V4.ofNat (front <<< (8 * (4 - octets.length)) + last))
  else none

/-- Reads an IPv6 address up to the closing bracket, which must end the text. -/
def bracketed? (cs : List Char) : Option Host :=
  if cs.getLast? = some ']' then (Ip.V6.parse? cs.dropLast).map ipv6 else none

/-- Reads the host of a scheme of the web. -/
def ofDomain? [Idna] : List Char → Option Host
  | '[' :: rest => bracketed? rest
  | cs => do
    let decoded ← Text.ofUtf8? (unescape cs)
    let domain ← domainToAscii? decoded.toList
    -- The check comes last, so neither an escape nor a mapping can bring in what is forbidden.
    if domain.isEmpty ∨ domain.any isForbiddenInDomain then none
    else if endsInNumber domain then
      (ipv4OfNumbers? (← (labels domain).mapM ipv4Number?)).map ipv4
    else some (.name domain)

/-- Reads the host of any other scheme. -/
def ofName? : List Char → Option Host
  | '[' :: rest => bracketed? rest
  | cs => if cs.any isForbidden then none else some (.name (escape escapesControls cs))

end Host

end CertLifecycle.Uri
