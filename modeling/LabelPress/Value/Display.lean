import LabelPress.Calendar.Iso
import LabelPress.Number.Digits
import LabelPress.Number.Shortest
import LabelPress.Text.Quoted
import LabelPress.Value.Basic

/-!
# Values in messages

Two forms: the quoted one, in which a text stands between quotes, and the plain one, in which a
text that stands alone is shown as it is. Dates and times are shown as the calls that build them.
A value has no such form if a whole number in it is too long to be written.
-/

namespace LabelPress

/-- An offset as the call that builds it: days, seconds and microseconds, of which only the days
are ever negative. -/
def Offset.display (o : Offset) : Text :=
  if o.microseconds = 0 then "datetime.timezone.utc"
  else
    let days : Int := if o.microseconds < 0 then -1 else 0
    let left := (o.microseconds - days * 86400000000).toNat
    let parts : List Text :=
      [Text.when (days ≠ 0) "days=-1",
        Text.when (left / 1000000 ≠ 0) ("seconds=" ++ Text.ofNat (left / 1000000)),
        Text.when (left % 1000000 ≠ 0) ("microseconds=" ++ Text.ofNat (left % 1000000))]
    "datetime.timezone(datetime.timedelta(" ++ Text.join ", " (parts.filter (!·.isEmpty)) ++ "))"

/-- The parts of a time of day, without seconds and microseconds where nothing but zeros is
left out. -/
def ClockTime.shownParts (t : ClockTime) : List Nat :=
  if t.microsecond ≠ 0 then [t.hour, t.minute, t.second, t.microsecond]
  else if t.second ≠ 0 then [t.hour, t.minute, t.second]
  else [t.hour, t.minute]

namespace Value

mutual

/-- The quoted form of a value. -/
def quoted : Value → Text
  | .null => "None"
  | .bool b => if b then "True" else "False"
  | .int n => Text.ofInt n
  | .float x => x.toText
  | .text t => t.quoted
  | .list items => "[" ++ Text.join ", " (quotedItems items) ++ "]"
  | .table entries => "\x7b" ++ Text.join ", " (quotedEntries entries) ++ "\x7d"
  | .date d =>
    "datetime.date(" ++ Text.join ", " ([d.year, d.month, d.day].map Text.ofNat) ++ ")"
  | .time t => "datetime.time(" ++ Text.join ", " (t.shownParts.map Text.ofNat) ++ ")"
  | .moment m =>
    let parts := ([m.date.year, m.date.month, m.date.day] ++ m.time.shownParts).map Text.ofNat
    let zone : List Text := m.offset.toList.map fun o => Text.ofString "tzinfo=" ++ o.display
    "datetime.datetime(" ++ Text.join ", " (parts ++ zone) ++ ")"

/-- The quoted forms of the items of a list. -/
def quotedItems : List Value → List Text
  | [] => []
  | v :: vs => quoted v :: quotedItems vs

/-- The quoted forms of the entries of a table. -/
def quotedEntries : List (Text × Value) → List Text
  | [] => []
  | (name, v) :: entries => (name.quoted ++ ": " ++ quoted v) :: quotedEntries entries

end

mutual

/-- Whether a value can be shown: no whole number in it is too long to be written. -/
def isShowable : Value → Bool
  | .int n => Digits.fits n
  | .list items => areShowable items
  | .table entries => entriesShowable entries
  | _ => true

/-- Whether all items of a list can be shown. -/
def areShowable : List Value → Bool
  | [] => true
  | v :: vs => isShowable v && areShowable vs

/-- Whether the values of all entries of a table can be shown. -/
def entriesShowable : List (Text × Value) → Bool
  | [] => true
  | (_, v) :: entries => isShowable v && entriesShowable entries

end

/-- The plain form of a value: a text as it is, a date or time in ISO form with a blank between
the two, all else quoted. -/
def plain : Value → Text
  | .text t => t
  | .date d => d.iso
  | .time t => t.iso
  | .moment m => m.date.iso ++ " " ++ m.time.iso ++ (m.offset.map Offset.iso).getD []
  | v => quoted v

end Value

example : (Value.list [.text "a", .bool true, .null]).quoted = Text.ofString "['a', True, None]" := by
  decide

end LabelPress
