import LabelPress.Text.Basic

/-!
# Addresses of the internet protocol

Which texts are addresses of version 4 or 6. The strict form of version 4 has four decimal numbers
without leading zeros; version 6 allows one run of zero groups to be left out, an address of
version 4 in place of the last two groups, and a zone after a percent sign.
-/

namespace LabelPress

namespace IpAddress

/-- Whether a text is one of the four numbers of version 4. -/
def isOctet (t : Text) : Bool :=
  t.length ≤ 3 && (t = Text.ofString "0" || t.head? != some (.scalar '0'))
    && t.all CodePoint.isAsciiDigit && (Text.toNat? t).any (· ≤ 255)

/-- Whether a text is an address of version 4. -/
def isVersion4 (t : Text) : Bool :=
  let octets := Text.splitOn '.' t
  octets.length = 4 && octets.all isOctet

/-- Whether a text is a group of version 6. -/
def isGroup (t : Text) : Bool :=
  !t.isEmpty && t.length ≤ 4 && t.all fun c => c.hexDigit?.isSome

/-- The groups of an address with one of version 4 at its end made two groups. -/
def expandLast? (parts : List Text) : Option (List Text) :=
  match parts.getLast? with
  | none => none
  | some last =>
    if !last.has '.' then some parts
    else if isVersion4 last then some (parts.dropLast ++ List.replicate 2 (Text.ofNat 0))
    else none

/-- Whether groups with colons between them are an address. An empty group that is not at an end
stands for the groups left out, of which there has to be one; an empty group at an end has to be
next to it. -/
def areGroups (parts : List Text) : Bool :=
  let inner := parts.drop 1 |>.dropLast
  match inner.findIdx? List.isEmpty with
  | none => parts.length = 8 && parts.all isGroup
  | some k =>
    let before := parts.take (k + 1)
    let after := parts.drop (k + 2)
    let before := if before = [[]] then [] else before
    let after := if after = [[]] then [] else after
    parts.length ≤ 9 && before.length + after.length ≤ 7
      && before.all isGroup && after.all isGroup

/-- Whether a text is an address of version 6 without a zone. -/
def isUnzoned6 (t : Text) : Bool :=
  let parts := Text.splitOn ':' t
  3 ≤ parts.length && (expandLast? parts).any areGroups

/-- Whether a text is an address of version 6. A zone is not empty and holds no percent sign. -/
def isVersion6 (t : Text) : Bool :=
  match Text.splitOn '%' t with
  | [address] => isUnzoned6 address
  | [address, zone] => !zone.isEmpty && isUnzoned6 address
  | _ => false

end IpAddress

/-- Whether a text is an address of the internet protocol. A slash would make it a network. -/
def isIpAddress (t : Text) : Bool :=
  !t.has '/' && (IpAddress.isVersion4 t || IpAddress.isVersion6 t)

example : isIpAddress "10.0.0.5" ∧ isIpAddress "::1" ∧ isIpAddress "fe80::1%eth0" := by decide

example : ¬ isIpAddress "10.0.0.05" ∧ ¬ isIpAddress "1:::2" ∧ ¬ isIpAddress "1.2.3" := by decide

end LabelPress
