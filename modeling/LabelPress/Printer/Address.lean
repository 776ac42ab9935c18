import LabelPress.Fault.Basic
import LabelPress.Printer.IpAddress
import LabelPress.Text.Blank
import LabelPress.Text.Case.Upper
import LabelPress.Text.Digit

/-!
# Printer addresses

What a printer may be addressed by: a host with a port on a network, or a device address over a
short-range radio. Each has one reader that gives the address in the form in which it is used, or
tells what is wrong with it.
-/

namespace LabelPress

/-- Why an address is refused. -/
inductive AddressProblem where
  | empty
  | longName (host : Text)
  | malformedIp (host : Text)
  | badName (host : Text)
  | badPort (port : Value)
  | badDevice (device : Text)
  /-- A port is given where ports mean nothing. -/
  | unusedPort
  /-- No link is of the kind that is asked for. -/
  | unknownKind (kind : Value)

/-- The wording of a refusal. -/
def AddressProblem.message : AddressProblem → Text
  | .empty => "printer address is empty"
  | .longName host => "hostname too long: " ++ host.quoted
  | .malformedIp host => "malformed IP address: " ++ host.quoted
  | .badName host => "invalid hostname: " ++ host.quoted
  | .badPort port => "invalid TCP port: " ++ port.quoted
  | .badDevice device => "not a Bluetooth device address: " ++ device.quoted
  | .unusedPort => "a port does not apply to Bluetooth printers"
  | .unknownKind kind =>
    "Unknown transport '" ++ kind.plain ++ "'. Available transports: network, bluetooth"

/-- Whether a refusal can be put into words: what it shows of the address can be shown. -/
def AddressProblem.isShowable : AddressProblem → Bool
  | .badPort port => port.isShowable
  | .unknownKind kind => kind.isShowable
  | _ => true

/-- The fault that a refusal raises. One that cannot be put into words is no refused address but a
number too long to be written. -/
def AddressProblem.fault (p : AddressProblem) : Fault :=
  if p.isShowable then ⟨.address, p.message⟩ else .tooLong

namespace Address

/-! ## Hosts -/

/-- The longest host name. -/
def maxHost : Nat := 253

/-- Whether a code point may stand in a part of a host name. -/
def isNamePoint (c : CodePoint) : Bool :=
  match c with
  | .scalar c => c.isAlphanum || c = '-'
  | .lone _ => false

/-- A text without one line feed at its end. -/
def dropFinalLineFeed (t : Text) : Text :=
  if t.getLast? = some (.scalar '\n') then t.dropLast else t

/-- Whether a text is a part of a host name: 1 to 63 letters, digits and hyphens with no hyphen at
either end, and possibly a line feed after them. -/
def isNamePart (t : Text) : Bool :=
  let t := dropFinalLineFeed t
  1 ≤ t.length && t.length ≤ 63 && t.all isNamePoint
    && t.head? != some (.scalar '-') && t.getLast? != some (.scalar '-')

/-- Whether a text is not empty and all digits, of any script and kind. -/
def isAllDigits (t : Text) : Bool := !t.isEmpty && t.all CodePoint.isDigit

/-- A host: an address of the internet protocol or a name with points between its parts. Points at
the end of a name count for nothing, and a name of digits alone is a mistyped address. -/
def readHost (t : Text) : Except AddressProblem Text :=
  let host := t.strip
  let parts := Text.splitOn '.' (host.trimEnd (· = .scalar '.'))
  if host.isEmpty then .error .empty
  else if isIpAddress host then .ok host
  else if maxHost < host.length then .error (.longName host)
  else if parts.all isAllDigits then .error (.malformedIp host)
  else if !parts.all isNamePart then .error (.badName host)
  else .ok host

/-! ## Ports -/

/-- A port of a network host. -/
structure Port where
  number : Nat
  positive : 0 < number
  lt : number < 65536
  deriving DecidableEq, Repr

/-- A port: a whole number in range, in no other form. -/
def readPort (v : Value) : Except AddressProblem Port :=
  match v with
  | .int n =>
    if h : 0 < n.toNat ∧ n.toNat < 65536 then .ok ⟨n.toNat, h.1, h.2⟩ else .error (.badPort v)
  | v => .error (.badPort v)

/-! ## Device addresses -/

/-- Whether a text is six groups of two hexadecimal digits with colons between them, and possibly a
line feed after them. -/
def isDevice (t : Text) : Bool :=
  let groups := Text.splitOn ':' (dropFinalLineFeed t)
  groups.length = 6 && groups.all fun g => g.length = 2 && g.all fun c => c.hexDigit?.isSome

/-- A device address, in upper case. -/
def readDevice (t : Text) : Except AddressProblem Text :=
  let device := t.strip
  if device.isEmpty then .error .empty
  else if isDevice device then .ok device.toUpper
  else .error (.badDevice device)

end Address

end LabelPress
