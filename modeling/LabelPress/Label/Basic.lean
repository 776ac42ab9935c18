import LabelPress.Value.Display

/-!
# Labels

What a tote label says. Nothing is required of the values: an entry may hold anything, and the
layout prints what it finds. Reading a description is what makes sure that entries hold what they
should.
-/

namespace LabelPress

/-- How an order reaches its customer. -/
inductive OrderType where
  | unscheduled
  | groupMarkdown
  | scheduledPickup
  | delivery
  deriving DecidableEq, Repr

namespace OrderType

/-- Every order type. -/
def all : List OrderType := [.unscheduled, .groupMarkdown, .scheduledPickup, .delivery]

/-- The name of an order type in data. -/
def name : OrderType → Text
  | .unscheduled => "UNSCHEDULED"
  | .groupMarkdown => "GROUP_MARKDOWN"
  | .scheduledPickup => "SCHEDULED_PICKUP"
  | .delivery => "DELIVERY"

/-- The words that a label prints for an order type. -/
def label : OrderType → Text
  | .unscheduled => "UNSCHEDULED"
  | .groupMarkdown => "GMD"
  | .scheduledPickup => "Scheduled Pickup"
  | .delivery => "Delivery"

end OrderType

/-- How warm a tote is kept. -/
inductive TemperatureBand where
  | ambient
  | unknown
  | frozen
  | chilled
  deriving DecidableEq, Repr

namespace TemperatureBand

/-- Every temperature band. -/
def all : List TemperatureBand := [.ambient, .unknown, .frozen, .chilled]

/-- The name of a temperature band in data. -/
def name : TemperatureBand → Text
  | .ambient => "AMBIENT"
  | .unknown => "UNKNOWN"
  | .frozen => "FROZEN"
  | .chilled => "CHILLED"

/-- The word that a label prints for a temperature band. -/
def label : TemperatureBand → Text
  | .ambient => "Ambient"
  | .unknown => "Unknown"
  | .frozen => "Frozen"
  | .chilled => "Chilled"

end TemperatureBand

/-- An entry of a label: a piece of data, an order type or a temperature band. -/
inductive Entry where
  | value (v : Value)
  | order (o : OrderType)
  | band (b : TemperatureBand)
  deriving Repr

namespace Entry

instance : Coe Value Entry := ⟨.value⟩

/-- An entry in a place for free text; order types and bands show their full names there. -/
def plain : Entry → Text
  | .value v => v.plain
  | .order o => "OrderType." ++ o.name
  | .band b => "TemperatureBand." ++ b.name

/-- An entry in the place of an order type or temperature band. -/
def label : Entry → Text
  | .value v => v.plain
  | .order o => o.label
  | .band b => b.label

/-- Whether an entry counts as set. -/
def isSet : Entry → Bool
  | .value v => v.isSet
  | .order _ | .band _ => true

/-- The whole number that an entry holds. -/
def int? : Entry → Option Int
  | .value (.int n) => some n
  | _ => none

end Entry

/-- What a tote label says. -/
structure Label where
  due : Due
  toteNumber : Entry := .value .null
  toteId : Entry := .value (.text "E8850")
  order : Entry := .order .unscheduled
  customer : Entry := .value (.text "K. RODFGS")
  orderNumber : Entry := .value (.text "207532586748850")
  barcode : Entry := .value (.text "J63063")
  band : Entry := .band .ambient
  walmartPlus : Entry := .value (.bool true)
  alcohol : Entry := .value (.bool true)
  substitution : Entry := .value (.bool true)
  fragile : Entry := .value (.bool true)
  heavy : Entry := .value (.bool true)
  bagged : Entry := .value (.bool true)
  deriving Repr

/-- The flags that stand in a column of boxes. -/
inductive Flag where
  | bagged
  | heavy
  | fragile
  | substitution
  | alcohol
  deriving DecidableEq, Repr

namespace Flag

/-- The column from top to bottom. -/
def column : List Flag := [.bagged, .heavy, .fragile, .substitution, .alcohol]

/-- The letter in a flag's box. -/
def code : Flag → Text
  | .bagged => "B"
  | .heavy => "H"
  | .fragile => "F"
  | .substitution => "S"
  | .alcohol => "A"

/-- Where a flag's box starts. -/
def top : Flag → Int
  | .bagged => 10
  | .heavy => 118
  | .fragile => 226
  | .substitution => 334
  | .alcohol => 442

end Flag

/-- The entry of a label for a flag of the column. -/
def Label.flag (label : Label) : Flag → Entry
  | .bagged => label.bagged
  | .heavy => label.heavy
  | .fragile => label.fragile
  | .substitution => label.substitution
  | .alcohol => label.alcohol

end LabelPress
