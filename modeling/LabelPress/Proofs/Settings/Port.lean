import LabelPress.Proofs.Link.Build
import LabelPress.Proofs.Settings.Loading

/-!
# Ports in settings

A port is checked twice, when settings are loaded and when a link is built, and not for the same
thing. The schema takes every number without a fraction for a whole number, in whatever form it is
written; a link takes only those that are written as whole numbers. In range they agree. So settings
for a network host that were loaded lead to a link unless their port is written with a point or an
exponent (`link_of_settings_iff`).
-/

namespace LabelPress

/-- Whether a value is a number that was written with a point or an exponent. -/
def Value.isFloat : Value → Bool
  | .float _ => true
  | _ => false

theorem Value.table?_eq_some_iff {v : Value} {entries : Table} :
    v.table? = some entries ↔ v = .table entries := by
  cases v <;> simp [table?]

/-- A number without a fraction in a range, in either form, which is what the schema takes for a
whole number there. -/
def Value.IsIntegerIn (low high : Int) (v : Value) : Prop :=
  ∃ n, low ≤ n ∧ n ≤ high ∧ (v = .int n ∨ ∃ x, v = .float x ∧ x.toInt? = some n)

namespace Schema

variable {path : List Text} {v : Value} {low high : Int}

/-- **What the rules for a whole number in a range let through.** -/
theorem ruleViolations_integer_eq_nil :
    ruleViolations path v [.kinds [.integer], .atLeast low, .atMost high] = [] ↔
      v.IsIntegerIn low high := by
  simp only [ruleViolations_cons_eq_nil, violationsOf_kinds_eq_nil, violationsOf_atLeast_eq_nil,
    violationsOf_atMost_eq_nil, ruleViolations_nil, and_true, List.mem_singleton, exists_eq_left,
    has_integer_iff]
  constructor
  · rintro ⟨⟨n, rfl⟩ | ⟨x, n, rfl, hn⟩, hlow, hhigh⟩
    · simp only [isBelow, isOver, decide_eq_false_iff_not, Int.not_lt] at hlow hhigh
      exact ⟨n, hlow, hhigh, .inl rfl⟩
    · simp only [isBelow, isOver, ← Bool.not_eq_true, Binary64.ltInt_iff hn,
        Binary64.gtInt_iff hn, Int.not_lt] at hlow hhigh
      exact ⟨n, hlow, hhigh, .inr ⟨x, rfl, hn⟩⟩
  · rintro ⟨n, hlow, hhigh, rfl | ⟨x, rfl, hn⟩⟩
    · refine ⟨.inl ⟨n, rfl⟩, ?_, ?_⟩
      · simpa [isBelow] using hlow
      · simpa [isOver] using hhigh
    · refine ⟨.inr ⟨x, n, rfl, hn⟩, ?_, ?_⟩
      · simpa only [isBelow, ← Bool.not_eq_true, Binary64.ltInt_iff hn, Int.not_lt] using hlow
      · simpa only [isOver, ← Bool.not_eq_true, Binary64.gtInt_iff hn, Int.not_lt] using hhigh

end Schema

namespace Settings

open Schema

variable {tree : FileTree} {path : Path} {s : Settings} {v : Value} {printer logging : Table}

/-! ## The port that is loaded -/

/-- Settings come of data that keep the rules. -/
theorem kept_of_ofValue (h : ofValue v = .ok s) :
    ruleViolations [] v rules = [] ∧ ofTables (part v "printer") (part v "logging") = .ok s := by
  rw [ofValue_eq] at h
  obtain ⟨found, hcheck, h⟩ := bind_eq_ok_iff.1 h
  cases found with
  | some violation => cases h
  | none => exact ⟨check_eq_none_iff.1 hcheck, h⟩

/-- Settings that were loaded are those of the tables of their file. -/
theorem ofTables_of_load (h : load tree path = .ok s) :
    ∃ v, readFile tree path = .ok v ∧ ruleViolations [] v rules = [] ∧
      ofTables (part v "printer") (part v "logging") = .ok s := by
  obtain ⟨there, -, h⟩ := bind_eq_ok_iff.1 h
  cases there with
  | false => cases h
  | true =>
    obtain ⟨v, hv, h⟩ := bind_eq_ok_iff.1 h
    exact ⟨v, hv, kept_of_ofValue h⟩

theorem port_of_ofTables (h : ofTables printer logging = .ok s) :
    s.port = (printer.get? "port").getD .null := by
  obtain ⟨timeout, -, h⟩ := bind_eq_ok_iff.1 h
  cases h
  rfl

/-- What the two tables have under a name keeps the rules for that name. -/
theorem kept_of_part (h : ruleViolations [] v rules = []) {name entry : Text}
    {properties : List (Text × List Rule)} {rule : List Rule} {w : Value}
    (hname : (name, properties) ∈
      [(Text.ofString "printer", printerRules), ("logging", loggingRules)])
    (hentry : (entry, rule) ∈ properties) (hw : (part v name).get? entry = some w) :
    ruleViolations [name, entry] w rule = [] := by
  have hproperties : (name, closedTable properties) ∈ [
      (Text.ofString "printer", closedTable printerRules),
      ("logging", closedTable loggingRules)] :=
    List.mem_map_of_mem (f := fun p => (p.1, closedTable p.2)) hname
  simp only [rules, ruleViolations_cons_eq_nil, violationsOf_properties_eq_nil] at h
  obtain ⟨-, htables, -⟩ := h
  unfold part at hw
  cases htable : (v.get? name).bind Value.table? with
  | none =>
    rw [htable] at hw
    cases hw
  | some entries =>
    rw [htable] at hw
    obtain ⟨u, hu, hentries⟩ := Option.bind_eq_some_iff.1 htable
    obtain ⟨root, hroot, hu⟩ := Option.bind_eq_some_iff.1 hu
    obtain rfl := Value.table?_eq_some_iff.1 hentries
    have hkept := htables root (Value.table?_eq_some_iff.1 hroot) _ hproperties _ hu
    simp only [closedTable, ruleViolations_cons_eq_nil, violationsOf_properties_eq_nil] at hkept
    obtain ⟨-, -, hkept, -⟩ := hkept
    exact hkept entries rfl _ hentry w hw

/-- **The port of settings that were loaded** is none, or a number without a fraction in range. -/
theorem port_of_load (h : load tree path = .ok s) :
    s.port = .null ∨ s.port.IsIntegerIn 1 65535 := by
  obtain ⟨v, -, hkept, htables⟩ := ofTables_of_load h
  rw [port_of_ofTables htables]
  cases hport : (part v "printer").get? "port" with
  | none => exact .inl rfl
  | some w =>
    have hrule : (Text.ofString "port", [.kinds [.integer], .atLeast 1, .atMost 65535]) ∈
        printerRules := .tail _ (.tail _ (.head _))
    exact .inr (ruleViolations_integer_eq_nil.1 (kept_of_part hkept (.head _) hrule hport))

/-! ## The link that is built -/

/-- A link takes a whole number in range that is written as one, and no other form of it. -/
theorem readPort_of_isIntegerIn (h : v.IsIntegerIn 1 65535) :
    (v.isFloat = false ∧ ∃ port, Address.readPort v = .ok port) ∨
      (v.isFloat = true ∧ Address.readPort v = .error (.badPort v)) := by
  obtain ⟨n, hlow, hhigh, rfl | ⟨x, rfl, -⟩⟩ := h
  · have hrange : 0 < n.toNat ∧ n.toNat < 65536 := by omega
    exact .inl ⟨rfl, _, dif_pos hrange⟩
  · exact .inr ⟨rfl, rfl⟩

/-- Where no port is set, it takes the standard one. -/
theorem readPort_of_load (h : load tree path = .ok s) (hkind : s.kind = .network) :
    (s.port.isFloat = false ∧ ∃ port, Address.readPort s.endpoint.effectivePort = .ok port) ∨
      (s.port.isFloat = true ∧ s.port.IsIntegerIn 1 65535 ∧
        Address.readPort s.endpoint.effectivePort = .error (.badPort s.port)) := by
  rcases port_of_load h with hnull | hinteger
  · have hport : s.endpoint.effectivePort = .int standardPort := by
      simp [endpoint, Endpoint.effectivePort, KindGiven.isNetworkKind, hkind, hnull]
    rw [hport, hnull]
    exact .inl ⟨rfl, _, rfl⟩
  · have hport : s.endpoint.effectivePort = s.port := by
      refine Endpoint.effectivePort_of_port fun hnull => ?_
      obtain ⟨n, -, -, hn | ⟨x, hx, -⟩⟩ := hinteger
      · cases hn.symm.trans hnull
      · cases hx.symm.trans hnull
    rw [hport]
    rcases readPort_of_isIntegerIn hinteger with ⟨hform, htaken⟩ | ⟨hform, hrefused⟩
    · exact .inl ⟨hform, htaken⟩
    · exact .inr ⟨hform, hinteger, hrefused⟩

/-- A network link is built to the host, at the port that it takes. -/
theorem toEndpoint?_of_host (hkind : s.kind = .network) {host : Text}
    (hhost : Address.readHost s.address = .ok host) (timeout : Value) (dryRun : Bool) :
    Line.toEndpoint? s.endpoint timeout dryRun =
      ((Address.readPort s.endpoint.effectivePort).map (.network host)).map
        (Line.fresh · timeout dryRun) := by
  have hgiven : s.endpoint.kind.kind? = some .network := congrArg some hkind
  rw [Line.toEndpoint?_eq, Line.target?_of_host hgiven hhost]

/-- **Which settings lead to a link.** Settings that were loaded from a file, for the network and
with a host that is one, have a port that a link takes exactly if it is not written with a point or
an exponent, none being as good. Then the link to the host is built. Otherwise the port is a number
without a fraction, in range, and is refused. -/
theorem link_of_settings_iff (h : load tree path = .ok s) (hkind : s.kind = .network) {host : Text}
    (hhost : Address.readHost s.address = .ok host) (timeout : Value) (dryRun : Bool) :
    let link := Line.toEndpoint? s.endpoint timeout dryRun
    ((∃ port, Address.readPort s.endpoint.effectivePort = .ok port) ↔ s.port.isFloat = false) ∧
      ((∃ port, link = .ok (Line.fresh (.network host port) timeout dryRun)) ↔
        s.port.isFloat = false) ∧
      (s.port.isFloat = true →
        s.port.IsIntegerIn 1 65535 ∧ link = .error (.badPort s.port)) := by
  intro link
  have hlink : link = _ := toEndpoint?_of_host hkind hhost timeout dryRun
  rcases readPort_of_load h hkind with ⟨hform, port, htaken⟩ | ⟨hform, hinteger, hrefused⟩
  · rw [htaken] at hlink
    refine ⟨iff_of_true ⟨port, htaken⟩ hform, iff_of_true ⟨port, hlink⟩ hform, fun hfloat => ?_⟩
    cases hform.symm.trans hfloat
  · rw [hrefused] at hlink
    have hwritten : ¬ s.port.isFloat = false := by simp [hform]
    refine ⟨iff_of_false ?_ hwritten, iff_of_false ?_ hwritten, fun _ => ⟨hinteger, hlink⟩⟩
    · rintro ⟨port, htaken⟩
      cases hrefused.symm.trans htaken
    · rintro ⟨port, hbuilt⟩
      cases hlink.symm.trans hbuilt

/-- A whole number for a port leads to a link. -/
theorem link_of_settings_with_port :
    let file (t : String) : Node := .file ((Utf8.encode t).toOption.getD [])
    let tree : FileTree :=
      [(["p.toml"], file "[printer]\naddress = \"10.0.0.5\"\nport = 9101\n")]
    ∃ s, load tree (.ofText "p.toml") = .ok s ∧ s.kind = .network ∧
      Address.readHost s.address = .ok "10.0.0.5" ∧ s.port.isFloat = false ∧
      ∃ port, Line.toEndpoint? s.endpoint (.int 5) false =
        .ok (Line.fresh (.network "10.0.0.5" port) (.int 5) false) := by
  intro file tree
  have hload : (load tree (.ofText "p.toml")).toOption.map (fun s =>
      (s.kind, s.address, s.port.isFloat)) = some (.network, Text.ofString "10.0.0.5", false) := by
    decide +kernel
  obtain ⟨s, hs, hfields⟩ := Option.map_eq_some_iff.1 hload
  obtain ⟨hkind, haddress, hform⟩ : _ ∧ _ ∧ _ := by simpa using hfields
  have hs := eq_ok_of_toOption hs
  have hhost : Address.readHost s.address = .ok "10.0.0.5" := by
    rw [haddress]
    rfl
  obtain ⟨-, hlink, -⟩ := link_of_settings_iff hs hkind hhost (.int 5) false
  exact ⟨s, hs, hkind, hhost, hform, hlink.2 hform⟩

/-- **Settings with the port 9100.0 are loaded, and no link can be built by them**, although their
host is one. -/
theorem no_link_of_float_port :
    let file (t : String) : Node := .file ((Utf8.encode t).toOption.getD [])
    let tree : FileTree :=
      [(["p.toml"], file "[printer]\naddress = \"10.0.0.5\"\nport = 9100.0\n")]
    ∃ s, load tree (.ofText "p.toml") = .ok s ∧ s.kind = .network ∧
      Address.readHost s.address = .ok "10.0.0.5" ∧ s.port.quoted = "9100.0" ∧
      ∀ timeout dryRun, Line.toEndpoint? s.endpoint timeout dryRun = .error (.badPort s.port) := by
  intro file tree
  have hload : (load tree (.ofText "p.toml")).toOption.map (fun s =>
      (s.kind, s.address, s.port.quoted, s.port.isFloat)) =
        some (.network, Text.ofString "10.0.0.5", Text.ofString "9100.0", true) := by
    decide +kernel
  obtain ⟨s, hs, hfields⟩ := Option.map_eq_some_iff.1 hload
  obtain ⟨hkind, haddress, hshown, hform⟩ : _ ∧ _ ∧ _ ∧ _ := by simpa using hfields
  have hs := eq_ok_of_toOption hs
  have hhost : Address.readHost s.address = .ok "10.0.0.5" := by
    rw [haddress]
    rfl
  refine ⟨s, hs, hkind, hhost, hshown, fun timeout dryRun => ?_⟩
  rcases readPort_of_load hs hkind with ⟨hwhole, -⟩ | ⟨-, -, hrefused⟩
  · cases hwhole.symm.trans hform
  · rw [toEndpoint?_of_host hkind hhost, hrefused]
    rfl

end Settings

end LabelPress
