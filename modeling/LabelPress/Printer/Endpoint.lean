import LabelPress.Printer.Address

/-!
# Endpoints

An endpoint says where a document is to go: by which kind of link, to which address, at which
port. The kind may be given as a kind or as a bare word; a bare word does as well where a link is
built, but it is no kind, and what is particular to network links, the standard port and the port
in the endpoint's text, does not apply to it.
-/

namespace LabelPress

/-- The kinds of links. -/
inductive LinkKind where
  | bluetooth
  | network
  deriving DecidableEq, Repr

namespace LinkKind

/-- Every kind of link. -/
def all : List LinkKind := [.bluetooth, .network]

/-- The word for a kind of link. -/
def word : LinkKind → Text
  | .bluetooth => "bluetooth"
  | .network => "network"

/-- The kind of link that a text names. -/
def ofWord? (t : Text) : Option LinkKind := all.find? (·.word = t)

end LinkKind

/-- A kind of link as an endpoint gives it: a kind, or a bare piece of data. -/
inductive KindGiven where
  | kind (k : LinkKind)
  | bare (v : Value)
  deriving Repr

namespace KindGiven

/-- The kind of link that is meant. -/
def kind? : KindGiven → Option LinkKind
  | .kind k => some k
  | .bare v => v.text?.bind LinkKind.ofWord?

/-- Whether a network link is given as a kind. -/
def isNetworkKind : KindGiven → Bool
  | .kind .network => true
  | _ => false

/-- A kind as a piece of data. -/
def toValue : KindGiven → Value
  | .kind .bluetooth => .text "TransportKind.SHORT_RANGE_WIRELESS"
  | .kind .network => .text "TransportKind.NETWORK_SOCKET"
  | .bare v => v

/-- The fault of a piece of data being no kind. -/
def noKind (v : Value) : Fault :=
  if v.isShowable then ⟨.value, v.quoted ++ " is not a valid TransportKind"⟩ else .tooLong

/-- The word for the kind of link that is meant, or the fault that there is none. -/
def word (given : KindGiven) : Except Fault Text :=
  match given, given.kind? with
  | _, some k => .ok k.word
  | .bare v, none => .error (noKind v)
  | .kind k, none => .ok k.word

end KindGiven

/-- An address as an endpoint gives it: a text, or the empty list that stands for an option whose
text is left out. -/
inductive AddressGiven where
  | text (t : Text)
  | leftOut
  deriving DecidableEq, Repr

namespace AddressGiven

/-- The text of an address; one that is left out has nothing in it. -/
def toText : AddressGiven → Text
  | .text t => t
  | .leftOut => []

/-- An address as a piece of data. -/
def toValue : AddressGiven → Value
  | .text t => .text t
  | .leftOut => .list []

/-- An address as messages show it. -/
def plain (given : AddressGiven) : Text := given.toValue.plain

end AddressGiven

/-- The port of network printers where none is given. -/
def standardPort : Int := 9100

/-- Where a document is to go. A port of null is none. -/
structure Endpoint where
  kind : KindGiven
  address : AddressGiven
  port : Value := .null
  deriving Repr

namespace Endpoint

/-- The port to use: the standard one if the kind is the network kind and no port is given. -/
def effectivePort (e : Endpoint) : Value :=
  match e.kind.isNetworkKind, e.port with
  | true, .null => .int standardPort
  | _, port => port

/-- An endpoint as logs carry it: its address, with the port if the kind is the network kind. -/
def describe (e : Endpoint) : Value :=
  if e.kind.isNetworkKind then .text (e.address.plain ++ ":" ++ e.effectivePort.plain)
  else e.address.toValue

/-- Whether an endpoint can be shown: its port is not too long to be written, or stays unshown. -/
def isShowable (e : Endpoint) : Bool := !e.kind.isNetworkKind || e.effectivePort.isShowable

/-- An endpoint as messages name it, also where there is nothing to name it by. -/
def title (e : Endpoint) : Text := if e.describe.isSet then e.describe.plain else "<empty>"

end Endpoint

end LabelPress
