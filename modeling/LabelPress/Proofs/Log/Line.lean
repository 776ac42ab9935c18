import LabelPress.Log.Line
import LabelPress.Proofs.Json.Writer

/-!
# Data lines of the log

What comes from outside ends up in the log: names of devices, wordings of faults. A data line holds
it between quotes, in printable ASCII, so that whatever is in a text stays in its place: a line is
never broken in two, and what is read back from it is what the record says (`data_is_read_back`).
-/

namespace LabelPress

namespace Log

namespace Record

/-- Whether all that a record says is put in texts of scalar values. What it carries may be missing. -/
structure IsEncodable (r : Record) : Prop where
  source : r.source.IsEncodable
  message : r.message.IsEncodable
  endpoint : r.endpoint = .null ∨ ∃ t, r.endpoint = .text t ∧ t.IsEncodable
  outcome : r.outcome = .null ∨ ∃ t, r.outcome = .text t ∧ t.IsEncodable
  fault : ∀ f, r.fault = some f → f.line.IsEncodable

/-- The names under which a record says something. -/
def fields : List Text := ["ts", "level", "name", "msg", "endpoint", "outcome", "exc"]

/-- Whether a table says what a record says, with a time stamp, and nothing else. What is missing in
the record is missing in the table. -/
structure IsToldBy (stamp : Text) (r : Record) (t : Table) : Prop where
  ts : t.get? "ts" = some (.text stamp)
  level : t.get? "level" = some (.text r.level.name)
  name : t.get? "name" = some (.text r.source)
  msg : t.get? "msg" = some (.text r.message)
  endpoint : t.get? "endpoint" = if r.endpoint.isNull then none else some r.endpoint
  outcome : t.get? "outcome" = if r.outcome.isNull then none else some r.outcome
  exc : t.get? "exc" = r.fault.map fun f => .text f.line
  names : ∀ name ∈ Table.names t, name ∈ fields
  nodup : (Table.names t).Nodup

variable {stamp : Text} {r : Record}

/-- The entries of which some may be missing. -/
def carried (r : Record) : Table := [("endpoint", r.endpoint), ("outcome", r.outcome),
  ("exc", (r.fault.map fun f => Value.text f.line).getD .null)]

/-- The entries that are never missing. -/
def always (stamp : Text) (r : Record) : Table := [("ts", .text stamp), ("level", .text r.level.name),
  ("name", .text r.source), ("msg", .text r.message)]

theorem toTable_eq (stamp : Text) (r : Record) :
    r.toTable stamp = r.always stamp ++ r.carried.filter fun e => !e.2.isNull := rfl

theorem names_toTable_sublist (stamp : Text) (r : Record) :
    (Table.names (r.toTable stamp)).Sublist fields := by
  rw [toTable_eq, Table.names, List.map_append]
  exact (List.Sublist.refl _).append (List.filter_sublist.map _)

/-- **The table of a record says what the record says**, and nothing else. -/
theorem isToldBy_toTable (stamp : Text) (r : Record) : r.IsToldBy stamp (r.toTable stamp) := by
  have hfields : fields.Nodup := by decide
  have hcarried : (Table.names r.carried).Nodup := hfields.sublist (List.drop_sublist 4 fields)
  have hnames := names_toTable_sublist stamp r
  have hget (name : Text) : (r.toTable stamp).get? name =
      ((r.always stamp).get? name).or ((r.carried.get? name).filter fun v => !v.isNull) := by
    rw [toTable_eq, Table.get?_append]
    exact congrArg (Option.or _) (Table.get?_filter hcarried fun v => !v.isNull)
  have hpresent (v : Value) :
      (some v).filter (fun v => !v.isNull) = if v.isNull then none else some v := by
    cases h : v.isNull <;> simp [Option.filter, h]
  constructor
  case names => exact fun name hname => hnames.subset hname
  case nodup => exact hfields.sublist hnames
  all_goals rw [hget]
  case endpoint => exact hpresent r.endpoint
  case outcome => exact hpresent r.outcome
  case exc =>
    refine (hpresent _).trans ?_
    cases r.fault <;> rfl
  all_goals rfl

/-- It does so in whatever order the names stand. -/
theorem IsToldBy.sorted {t : Table} (h : r.IsToldBy stamp t) : r.IsToldBy stamp t.sorted := by
  have hnames : (Table.names t.sorted).Perm (Table.names t) := (Table.sorted_perm t).map Prod.fst
  constructor
  case names => exact fun name hname => h.names name (hnames.mem_iff.1 hname)
  case nodup => exact hnames.nodup_iff.2 h.nodup
  all_goals rw [Table.get?_sorted h.nodup]
  case ts => exact h.ts
  case level => exact h.level
  case name => exact h.name
  case msg => exact h.msg
  case endpoint => exact h.endpoint
  case outcome => exact h.outcome
  case exc => exact h.exc

/-- A record whose texts are texts of scalar values has a table with nothing else in it. -/
theorem holdsTexts_toTable (hstamp : stamp.IsEncodable) (hr : r.IsEncodable) :
    Json.HoldsTexts (r.toTable stamp) := by
  intro e he
  have hfields : ∀ name ∈ fields, name.IsEncodable := by decide
  have hname : e.1 ∈ fields :=
    (names_toTable_sublist stamp r).subset (List.mem_map_of_mem (f := Prod.fst) he)
  refine ⟨hfields _ hname, ?_⟩
  rw [toTable_eq, List.mem_append, List.mem_filter] at he
  rcases he with he | ⟨he, hpresent⟩
  · have hlevel : r.level.name.IsEncodable := by cases r.level <;> decide
    have halways : ∀ e ∈ r.always stamp, ∃ t, e.2 = .text t ∧ t.IsEncodable := by
      simp only [always, List.forall_mem_cons]
      exact ⟨⟨_, rfl, hstamp⟩, ⟨_, rfl, hlevel⟩, ⟨_, rfl, hr.source⟩, ⟨_, rfl, hr.message⟩,
        List.forall_mem_nil _⟩
    exact halways e he
  · have hcarried : ∀ e ∈ r.carried, e.2 = .null ∨ ∃ t, e.2 = .text t ∧ t.IsEncodable := by
      simp only [carried, List.forall_mem_cons]
      refine ⟨hr.endpoint, hr.outcome, ?_, List.forall_mem_nil _⟩
      cases h : r.fault with
      | none => exact .inl rfl
      | some f => exact .inr ⟨_, rfl, hr.fault f h⟩
    refine (hcarried e he).resolve_left fun hnull => ?_
    rw [hnull] at hpresent
    cases hpresent

/-- **A data line is one line and can be read back.** Whatever texts of scalar values a record says,
its data line is printable ASCII, so that no line ends in it, and what is read from it is a table that
says what the record says, with nothing lost and nothing added. The same goes for any text, of
however many lines, that stands in place of the line of its fault. -/
theorem data_is_read_back (hstamp : stamp.IsEncodable) (hr : r.IsEncodable) :
    ((∀ c ∈ r.data stamp, c.IsPrintableAscii) ∧ (r.data stamp).lines = [r.data stamp] ∧
      ∃ t, Json.read (r.data stamp) = .ok (.table t) ∧ r.IsToldBy stamp t) ∧
    ∀ exc : Text, exc.IsEncodable →
      let told := (r.toTable stamp).put "exc" (.text exc)
      let line := Json.write (.table told)
      (∀ c ∈ line, c.IsPrintableAscii) ∧ line.lines = [line] ∧
        ∃ t : Table, Json.read line = .ok (.table t) ∧ (Table.names t).Perm (Table.names told) ∧
          ∀ name, t.get? name = if name = "exc" then some (.text exc)
            else (r.toTable stamp).get? name := by
  have htold := isToldBy_toTable stamp r
  have htexts := holdsTexts_toTable hstamp hr
  refine ⟨⟨htexts.isPrintableAscii, htexts.lines_eq, _, htexts.read_write htold.nodup,
    htold.sorted⟩, fun exc hexc => ?_⟩
  intro told line
  have hput : Json.HoldsTexts told := htexts.put (by decide) hexc
  have hnodup : (Table.names told).Nodup := Table.nodup_names_put htold.nodup
  refine ⟨hput.isPrintableAscii, hput.lines_eq, _, hput.read_write hnodup,
    (Table.sorted_perm told).map Prod.fst, fun name => ?_⟩
  rw [Table.get?_sorted hnodup]
  split
  next hname =>
    rw [hname]
    exact Table.get?_put_self _ _ _
  next hname => exact Table.get?_put_of_ne hname _ _

theorem lineFeed_not_mem_data (hstamp : stamp.IsEncodable) (hr : r.IsEncodable) :
    .scalar '\n' ∉ r.data stamp := fun h =>
  absurd ((holdsTexts_toTable hstamp hr).isPrintableAscii _ h) (by decide)

/-- A message with a quote, a line feed, a delete, a line separator and a character beyond `0xFFFF`
stays on its line, next to a fault whose wording has a second line, and is read back. -/
theorem data_is_read_back_of_foreign_texts :
    let stamp : Text := "2024-01-05T07:08:09"
    let r : Record := {
      level := .warning, source := "printer_session", message := "a\"\n\x7f\u2028😀"
      endpoint := .text "10.0.0.5:9100", fault := some ⟨.os, "no\nroute"⟩ }
    stamp.IsEncodable ∧ r.IsEncodable ∧
      Json.writeText r.message = "\"a\\\"\\n\\u007f\\u2028\\ud83d\\ude00\"" ∧
      (r.data stamp).lines = [r.data stamp] ∧
      ∃ t : Table, Json.read (r.data stamp) = .ok (.table t) ∧
        t.get? "msg" = some (.text r.message) ∧ t.get? "outcome" = none ∧
        t.get? "exc" = some (.text "OSError: no\nroute") := by
  intro stamp r
  have hstamp : stamp.IsEncodable := by decide
  have hr : r.IsEncodable := {
    source := by decide
    message := by decide
    endpoint := .inr ⟨_, rfl, by decide⟩
    outcome := .inl rfl
    fault := by
      intro f hf
      obtain rfl := Option.some.inj hf
      decide }
  obtain ⟨⟨-, hline, t, hread, htold⟩, -⟩ := data_is_read_back hstamp hr
  exact ⟨hstamp, hr, by decide +kernel, hline, t, hread, htold.msg, htold.outcome, htold.exc⟩

end Record

/-- **A log of data lines has a line for each record that is shown**, and what is in the texts of the
records makes no more of them. -/
theorem lines_log {s : Setup} (hdata : s.asData = true) {stamp : Text} (hstamp : stamp.IsEncodable)
    {records : List Record} (h : ∀ r ∈ records, r.IsEncodable) :
    (s.log stamp records).lines = (records.filter s.shows).map (Record.data stamp) ++ [[]] := by
  induction records with
  | nil => rfl
  | cons r records ih =>
    rw [List.forall_mem_cons] at h
    have hcons : s.log stamp (r :: records) = s.entry stamp r ++ s.log stamp records := rfl
    rw [hcons, Setup.entry, List.filter_cons]
    cases hshows : s.shows r with
    | false => exact ih h.2
    | true =>
      have hline : r.data stamp ++ Text.ofString "\n" ++ s.log stamp records =
          r.data stamp ++ .scalar '\n' :: s.log stamp records := by
        rw [List.append_assoc]
        rfl
      simp only [if_true, hdata]
      rw [hline, Text.lines, Text.splitOn_append_cons (Record.lineFeed_not_mem_data hstamp h.1)]
      exact congrArg (r.data stamp :: ·) (ih h.2)

end Log

end LabelPress
