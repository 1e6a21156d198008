import Soliscope.Text.Lower
import Soliscope.Url.DomainName
import Soliscope.Url.Percent

/-! # Hosts

A host is an IPv4 address, an IPv6 address between brackets, or a name.  What looks like an address
has to be one.  Names are kept in ASCII and in lower case.
-/

namespace Soliscope.Url

open Soliscope.Text

/-- What is wrong with a host. -/
inductive HostFlaw where
  | ipv4
  | ipv6
  | name
  deriving DecidableEq, Repr

/-- A decimal octet, without needless zeros. -/
def isOctet (text : List Char) : Bool :=
  !text.isEmpty && text.length ≤ 3 && text.all Char.isDigit &&
    !(text.head? == some '0' && text != ['0']) &&
    text.foldl (fun value c => 10 * value + (c.toNat - '0'.toNat)) 0 ≤ 255

/-- An IPv4 address. -/
def isIPv4 (text : List Char) : Bool :=
  let octets := text.splitOn '.'
  octets.length == 4 && octets.all isOctet

/-- A group of an IPv6 address. -/
def isHexGroup (text : List Char) : Bool :=
  !text.isEmpty && text.length ≤ 4 && text.all fun c => (hexValue? c).isSome

/-- The groups of an IPv6 address whose last two may be written as an IPv4 address. -/
def hexGroups? (groups : List (List Char)) : Option (List (List Char)) :=
  match groups.getLast? with
  | some last =>
    if last.contains '.' then
      if isIPv4 last then some (groups.dropLast ++ [['0'], ['0']]) else none
    else some groups
  | none => some groups

/-- The groups on one side of the gap in an IPv6 address.  At the end of the address the side may be
empty. -/
def isSide (groups : List (List Char)) : Bool :=
  groups == [[]] || groups.all isHexGroup

/-- The number of groups on one side of the gap. -/
def sideCount (groups : List (List Char)) : Nat :=
  if groups == [[]] then 0 else groups.length

/-- The groups are those of an IPv6 address: eight, or fewer with one gap. -/
def areGroups (groups : List (List Char)) : Bool :=
  let inner := (groups.drop 1).dropLast
  match inner.findIdx? List.isEmpty with
  | none => groups.length == 8 && groups.all isHexGroup
  | some gap =>
    let before := groups.take (gap + 1)
    let after := groups.drop (gap + 2)
    isSide before && isSide after && sideCount before + sideCount after < 8

/-- The zone of an IPv6 address, if there is one, names something. -/
def isZone (text : List Char) : Bool :=
  match text with
  | [] => true
  | _ :: zone => !zone.isEmpty && !zone.contains '%'

/-- An IPv6 address. -/
def isIPv6 (text : List Char) : Bool :=
  let groups := (text.takeWhile (· != '%')).splitOn ':'
  !text.contains '/' && isZone (text.dropWhile (· != '%')) && 3 ≤ groups.length &&
    (hexGroups? groups).any areGroups

/-- Four numbers between dots, so that an IPv4 address is meant. -/
def looksLikeIPv4 (text : List Char) : Bool :=
  let numbers := text.splitOn '.'
  numbers.length == 4 && numbers.all fun number => !number.isEmpty && number.all Char.isDigit

/-- Something between brackets, so that an IPv6 address is meant. -/
def isBracketed (text : List Char) : Bool :=
  2 ≤ text.length && text.head? == some '[' && text.getLast? == some ']'

/-- The characters that stand for themselves in a name. -/
def isNameSafe (c : Char) : Bool :=
  "!$&'()*+,;=\"\x60%|\\\x7b\x7d".toList.contains c

/-- A host as it is kept. -/
def keptHost (host : List Char) : Except HostFlaw (List Char) :=
  if host.isEmpty then .ok []
  else if looksLikeIPv4 host then if isIPv4 host then .ok host else .error .ipv4
  else if isBracketed host then
    let address := (host.drop 1).dropLast
    if isIPv6 address then .ok address else .error .ipv6
  else if isAscii host then .ok (escape isNameSafe (host.map Char.toLower))
  else
    match encodeName (Text.lower (String.ofList host)).toList with
    | .ok name => .ok name
    | .error _ => .error .name

/-- The host that a kept host stands for. -/
def shownHost (kept : List Char) : Except NameFlaw (List Char) :=
  if asciiMark.isPrefixOf kept then decodeName kept else .ok kept

end Soliscope.Url
