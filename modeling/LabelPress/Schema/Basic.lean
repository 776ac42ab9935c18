import LabelPress.Fault.Basic
import LabelPress.Text.Order

/-!
# Schemas

A schema is a list of rules for a value, in the order in which they are tested. Rules say nothing
of values of a kind that they are not about: a pattern is for texts, a bound for numbers. What
breaks a rule is a `Violation`, with the names that lead to the offending value; of all
violations the one with the least path is the first, and of two on one path the one whose rule
comes first. Every violation is put into words, so that one about a value that cannot be shown is a
fault, first or not.
-/

namespace LabelPress

namespace Schema

/-- The kinds of values that a schema tells apart. -/
inductive Kind where
  | table
  | text
  | bool
  | integer
  | number
  | null
  deriving DecidableEq, Repr

/-- The name of a kind. -/
def Kind.name : Kind → Text
  | .table => "object"
  | .text => "string"
  | .bool => "boolean"
  | .integer => "integer"
  | .number => "number"
  | .null => "null"

/-- Whether a value is of a kind. A number without a fraction is an integer, whatever its form,
and truth values are no numbers. -/
def Kind.has : Kind → Value → Bool
  | .table, .table _ => true
  | .text, .text _ => true
  | .bool, .bool _ => true
  | .integer, .int _ => true
  | .integer, .float x => x.toInt?.isSome
  | .number, .int _ => true
  | .number, .float _ => true
  | .null, .null => true
  | _, _ => false

/-- A pattern: how it is written, and which texts it finds itself in. -/
structure Pattern where
  source : Text
  found : Text → Bool

/-- A rule for a value. -/
inductive Rule where
  /-- The value is of one of some kinds. -/
  | kinds (allowed : List Kind)
  /-- A table has no names but these. -/
  | closed (allowed : List Text)
  /-- A table has these names. -/
  | required (names : List Text)
  /-- The values at some names of a table keep rules of their own. -/
  | properties (rules : List (Text × List Rule))
  /-- A text holds a pattern. -/
  | pattern (p : Pattern)
  /-- A text is not empty. -/
  | nonEmpty
  /-- The value is one of some texts. -/
  | oneOf (texts : List Text)
  /-- A number is at least so large. -/
  | atLeast (bound : Int)
  /-- A number is at most so large. -/
  | atMost (bound : Int)
  /-- A number is larger. -/
  | above (bound : Int)

/-- How a value breaks a rule. -/
inductive Cause where
  | wrongKind (value : Value) (allowed : List Kind)
  | unexpected (names : List Text)
  | missing (name : Text)
  | noMatch (text source : Text)
  | empty (text : Text)
  | notOneOf (value : Value) (texts : List Text)
  | below (value : Value) (bound : Int)
  | over (value : Value) (bound : Int)
  | notAbove (value : Value) (bound : Int)

/-- The wording of a cause. -/
def Cause.message : Cause → Text
  | .wrongKind value allowed =>
    value.quoted ++ " is not of type " ++ Text.join ", " (allowed.map fun k => k.name.quoted)
  | .unexpected names =>
    "Additional properties are not allowed (" ++ Text.join ", " (names.map Text.quoted)
      ++ (if names.length = 1 then " was" else " were") ++ " unexpected)"
  | .missing name => name.quoted ++ " is a required property"
  | .noMatch text source => text.quoted ++ " does not match " ++ source.quoted
  | .empty text => text.quoted ++ " should be non-empty"
  | .notOneOf value texts =>
    value.quoted ++ " is not one of [" ++ Text.join ", " (texts.map Text.quoted) ++ "]"
  | .below value bound => value.quoted ++ " is less than the minimum of " ++ Text.ofInt bound
  | .over value bound => value.quoted ++ " is greater than the maximum of " ++ Text.ofInt bound
  | .notAbove value bound =>
    value.quoted ++ " is less than or equal to the minimum of " ++ Text.ofInt bound

/-- Whether the value in the wording of a cause can be shown. -/
def Cause.isShowable : Cause → Bool
  | .wrongKind value _ | .notOneOf value _ | .below value _ | .over value _ | .notAbove value _ =>
    value.isShowable
  | .unexpected _ | .missing _ | .noMatch .. | .empty _ => true

/-- A broken rule: the names that lead to the offending value, and how it offends. -/
structure Violation where
  path : List Text
  cause : Cause

/-- Whether a number is below a bound. -/
def isBelow (bound : Int) : Value → Bool
  | .int n => n < bound
  | .float x => x.ltInt bound
  | _ => false

/-- Whether a number is over a bound. -/
def isOver (bound : Int) : Value → Bool
  | .int n => bound < n
  | .float x => x.gtInt bound
  | _ => false

/-- Whether a number is at most a bound. -/
def isAtMost (bound : Int) : Value → Bool
  | .int n => n ≤ bound
  | .float x => x.leInt bound
  | _ => false

mutual

/-- The violations of one rule by a value. -/
def violationsOf (path : List Text) (value : Value) : Rule → List Violation
  | .kinds allowed =>
    if allowed.any (·.has value) then [] else [⟨path, .wrongKind value allowed⟩]
  | .closed allowed =>
    match value with
    | .table entries =>
      match (Table.names entries).filter fun name => !allowed.contains name with
      | [] => []
      | extra => [⟨path, .unexpected (Text.sorted extra)⟩]
    | _ => []
  | .required names =>
    match value with
    | .table entries =>
      (names.filter fun name => (Table.get? entries name).isNone).map fun name =>
        ⟨path, .missing name⟩
    | _ => []
  | .properties rules =>
    match value with
    | .table entries => propertyViolations path entries rules
    | _ => []
  | .pattern p =>
    match value with
    | .text t => if p.found t then [] else [⟨path, .noMatch t p.source⟩]
    | _ => []
  | .nonEmpty =>
    match value with
    | .text t => if t.isEmpty then [⟨path, .empty t⟩] else []
    | _ => []
  | .oneOf texts =>
    if texts.any (fun t => value.text? = some t) then [] else [⟨path, .notOneOf value texts⟩]
  | .atLeast bound => if isBelow bound value then [⟨path, .below value bound⟩] else []
  | .atMost bound => if isOver bound value then [⟨path, .over value bound⟩] else []
  | .above bound => if isAtMost bound value then [⟨path, .notAbove value bound⟩] else []

/-- The violations of some rules by a value, in the order of the rules. -/
def ruleViolations (path : List Text) (value : Value) : List Rule → List Violation
  | [] => []
  | rule :: rules => violationsOf path value rule ++ ruleViolations path value rules

/-- The violations by the entries of a table of the rules for their names, in the order of the
rules. -/
def propertyViolations (path : List Text) (entries : Table) :
    List (Text × List Rule) → List Violation
  | [] => []
  | (name, rules) :: properties =>
    (match Table.get? entries name with
      | some value => ruleViolations (path ++ [name]) value rules
      | none => []) ++ propertyViolations path entries properties

end

/-- The order of paths: name by name, a path coming before those that lead further. -/
def pathLe : List Text → List Text → Bool
  | [], _ => true
  | _ :: _, [] => false
  | a :: as, b :: bs => if a = b then pathLe as bs else a.le b

/-- The first of some violations in the order of their paths. -/
def first? : List Violation → Option Violation
  | [] => none
  | v :: vs =>
    match first? vs with
    | none => some v
    | some w => if pathLe v.path w.path then some v else some w

/-- The violation to report of some rules by a value. -/
def check (rules : List Rule) (value : Value) : Except Fault (Option Violation) :=
  let violations := ruleViolations [] value rules
  if violations.all (·.cause.isShowable) then .ok (first? violations)
  else .error .tooLong

/-- Where a violation is, as names with points between them. -/
def Violation.location (v : Violation) : Text :=
  if v.path.isEmpty then "<root>" else Text.join "." v.path

/-- The wording of a violation: where it is, and how it offends. -/
def Violation.message (v : Violation) : Text := v.location ++ ": " ++ v.cause.message

end Schema

end LabelPress
