import Provisioning.Bytes.Hex
import Provisioning.Decimal.Numeral
import Provisioning.Fault
import Provisioning.Text.Parts

/-!
# The authority of a location

An authority may hold an address in brackets: one of eight groups of hexadecimal
digits, of which a run of zeros may be left out and the last two may be written as
four octets, or one of a later version behind its mark. Outside ASCII no character
may be equivalent to a delimiter.
-/

namespace Provisioning.Http.Authority

/-! ## Addresses -/

/-- An octet in decimal, without a zero in front. -/
def isOctet (text : List Char) : Bool :=
  text ≠ [] && text.all Numeral.isDigit && text.length ≤ 3 &&
    (text = ['0'] || text.head? ≠ some '0') && Numeral.ofDigits text ≤ 255

/-- Four octets with points between them. -/
def isOctets (text : List Char) : Bool :=
  let parts := Text.splitAt '.' text
  parts.length == 4 && parts.all isOctet

/-- Up to four hexadecimal digits. -/
def isGroup (text : List Char) : Bool :=
  text ≠ [] && text.length ≤ 4 && text.all fun c => (Hex.value? c).isSome

/-- The last part as groups: four octets count as two. -/
def lastGroups (part : List Char) : Option (List (List Char)) :=
  if part.contains '.' then
    if isOctets part then some [['0'], ['0']] else none
  else some [part]

/-- The groups before and after the first empty part of a list that is not its last. -/
def splitGap : List (List Char) → Option (List (List Char) × List (List Char))
  | [] => none
  | [] :: next :: rest => some ([], next :: rest)
  | part :: rest => (splitGap rest).map fun (before, after) => (part :: before, after)

/-- Whether parts are eight groups, or fewer with one gap between them. A gap at an
end is written with one more separator. -/
def areGroups (parts : List (List Char)) : Bool :=
  match parts with
  | [] :: [] :: rest => fits 0 (dropLast rest)
  | _ =>
    match splitGap parts with
    | some (before, after) =>
      before ≠ [] && before.all isGroup && fits before.length (dropLast after)
    | none => parts.length == 8 && parts.all isGroup
where
  /-- The groups behind a gap; a gap at the end leaves one empty part. -/
  dropLast (after : List (List Char)) : List (List Char) :=
    if after = [[]] then [] else after
  fits (before : Nat) (after : List (List Char)) : Bool :=
    after.all isGroup && before + after.length < 8

/-- An address of eight groups, without the zone behind it. -/
def isGrouped (text : List Char) : Bool :=
  let parts := Text.splitAt ':' text
  parts.length ≥ 3 &&
    match parts.getLast? with
    | some part =>
      match lastGroups part with
      | some groups => areGroups (parts.dropLast ++ groups)
      | none => false
    | none => false

/-- An address of eight groups; behind a percent sign it may name a zone. -/
def isZoned (text : List Char) : Bool :=
  match Text.splitAt '%' text with
  | [address] => isGrouped address
  | [address, zone] => zone ≠ [] && isGrouped address
  | _ => false

/-- An address of a later version: its number, a point and more, behind the mark. -/
def isVersioned (text : List Char) : Bool :=
  let number := text.takeWhile (· != '.')
  number ≠ [] && number.all (fun c => (Hex.value? c).isSome) && number.length + 1 < text.length

/-! ## Authorities -/

/-- What is wrong with what stands in brackets. -/
def bracketFault? (host : List Char) : Option AuthorityFault :=
  match host with
  | 'v' :: rest => if isVersioned rest then none else some .version
  | _ =>
    if isOctets host then some .octets
    else if isZoned host then none
    else some (.noAddress (String.ofList host))

/-- Characters outside ASCII that are equivalent to a text with a delimiter in it. -/
def likeDelimiter : List Nat :=
  [0x2047, 0x2048, 0x2049, 0x2100, 0x2101, 0x2105, 0x2106, 0x2a74, 0xfe13, 0xfe16, 0xfe55,
    0xfe56, 0xfe5f, 0xfe6b, 0xff03, 0xff0f, 0xff1a, 0xff1f, 0xff20]

/-- What keeps an authority from naming a host. -/
def fault? (authority : List Char) : Option AuthorityFault :=
  if authority.contains '[' != authority.contains ']' then some .bracket
  else
    let host := ((authority.dropWhile (· != '[')).drop 1).takeWhile (· != ']')
    match if authority.contains '[' then bracketFault? host else none with
    | some fault => some fault
    | none =>
      if authority.any fun c => likeDelimiter.contains c.toNat then
        some (.delimiter (String.ofList authority))
      else none

end Provisioning.Http.Authority
