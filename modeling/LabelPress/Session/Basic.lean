import LabelPress.Link.Basic
import LabelPress.Printer.Delivery

/-!
# Sessions

A session sends one document after another, each over a link of its own. Here are its phases, what
it remembers, and what it sends by; `LabelPress.Session.Send` says how it sends.
-/

namespace LabelPress

/-- Where a session is in sending a document. -/
inductive Phase where
  | idle
  | opening
  | «open»
  | writing
  | closed
  | failed
  deriving DecidableEq, Repr

/-- The word for a phase. -/
def Phase.word : Phase → Text
  | .idle => "idle"
  | .opening => "opening"
  | .open => "open"
  | .writing => "writing"
  | .closed => "closed"
  | .failed => "failed"

/-- A session: its settings, its phase, and the link of the last send as that was left. -/
structure Session where
  timeout : Value
  dryRun : Bool
  phase : Phase := .idle
  link : Option LinkView := none
  deriving Repr

/-- What builds the links of a session: a link to an endpoint within a time limit, dry or not, and
what it is then used by. -/
structure Factory (κ σ : Type) where
  create : Endpoint → (timeout : Value) → (dryRun : Bool) → Action (Event κ) Unit σ
  transport : Transport κ σ
  isQuiet_create : ∀ endpoint timeout dryRun, IsQuiet (create endpoint timeout dryRun)

/-- A document to send: its bytes, or a text that is sent in UTF-8. -/
inductive Payload where
  | text (t : Text)
  | bytes (b : Bytes)
  deriving DecidableEq, Repr

/-- The bytes of a document. -/
def Payload.encode : Payload → Except Fault Bytes
  | .text t => (Utf8.encode t).mapError Fault.ofEncode
  | .bytes b => .ok b

end LabelPress
