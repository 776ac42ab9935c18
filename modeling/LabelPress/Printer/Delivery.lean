import LabelPress.Printer.Endpoint

/-!
# Deliveries

How an attempt to send a document ended: its outcome, how many bytes the printer took of how many,
and a detail where there is one to tell.
-/

namespace LabelPress

/-- The outcomes of an attempt to send a document. -/
inductive Outcome where
  | sent
  | connectionRefused
  | addressInvalid
  | writeFailed
  deriving DecidableEq, Repr

namespace Outcome

/-- Every outcome. -/
def all : List Outcome := [.sent, .connectionRefused, .addressInvalid, .writeFailed]

/-- The word for an outcome. -/
def word : Outcome → Text
  | .sent => "sent"
  | .connectionRefused => "connection_refused"
  | .addressInvalid => "address_invalid"
  | .writeFailed => "write_failed"

/-- The outcome that a text names. -/
def ofWord? (t : Text) : Option Outcome := all.find? (·.word = t)

end Outcome

/-- How an attempt ended. The number of bytes taken is told as the link told it. -/
structure Delivery where
  outcome : Outcome
  sent : Value
  total : Int
  detail : Option Text := none
  deriving Repr

namespace Delivery

/-- Whether the document was sent. -/
def ok (d : Delivery) : Bool := d.outcome = .sent

/-- The detail in a message; there is none to tell if it is missing or empty. -/
def detailText (d : Delivery) : Text :=
  match d.detail with
  | none | some [] => "unknown"
  | some t => t

/-- Whether a number of bytes of a document can be shown. One that does not go past the length of
the document always can. -/
def isShowableCount (total : Int) (taken : Value) : Bool :=
  taken.isShowable || match taken with
    | .int n => n.natAbs ≤ total
    | _ => false

/-- A number of bytes of a document in a message. -/
def countText (total : Int) (taken : Value) : Except Fault Text :=
  if isShowableCount total taken then .ok taken.plain else .error .tooLong

/-- A line on how an attempt ended, naming the endpoint where one is given. A refused connection
names the kind of link, and there is a fault if the endpoint's kind is none. -/
def summary (d : Delivery) (endpoint : Option Endpoint) : Except Fault Text :=
  match d.outcome, endpoint with
  | .sent, _ =>
    (countText d.total d.sent).map fun count =>
      "Sent " ++ count ++ "/" ++ Text.ofInt d.total ++ " bytes"
  | .addressInvalid, none => .ok ("Invalid endpoint: " ++ d.detailText)
  | .addressInvalid, some e =>
    .ok ("Invalid endpoint '" ++ e.address.plain ++ "': " ++ d.detailText)
  | .connectionRefused, none => .ok ("Couldn't open connection: " ++ d.detailText)
  | .connectionRefused, some e =>
    e.kind.word.map fun word =>
      "Couldn't open " ++ word ++ " connection: " ++ d.detailText
  | .writeFailed, _ => .ok ("Send failed: " ++ d.detailText)

end Delivery

end LabelPress
