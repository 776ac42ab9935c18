import LabelPress.Proofs.Settings.Port

/-!
# Time limits in settings

A time limit has to be above zero, and the schema says so by refusing what is at most zero. That is
the same of all numbers but two kinds of data that both forms of settings files can hold: one that is
no number at all is not at most zero either, and there is no end to the infinite one. All other
time limits that are loaded can be waited for (`isDuration_timeout_iff`), a whole number because
rounding it never comes to zero, and one that is too large is a fault.
-/

namespace LabelPress

/-- Whether so many seconds can be waited for: they have an end, and do not end at once. -/
def Binary64.IsDuration (x : Binary64) : Prop := x.isFinite = true ∧ x.gtInt 0 = true

/-- Of the numbers that are not at most zero, only two are none. -/
theorem Binary64.isDuration_iff_of_above {x : Binary64} (h : x = .nan ∨ x.gtInt 0 = true) :
    x.IsDuration ↔ x ≠ .nan ∧ x ≠ .infinite false := by
  cases x with
  | finite negative m e =>
    have habove : (finite negative m e).gtInt 0 = true := h.resolve_left Binary64.noConfusion
    exact iff_of_true ⟨rfl, habove⟩ ⟨Binary64.noConfusion, Binary64.noConfusion⟩
  | infinite negative => cases negative <;> simp [IsDuration, isFinite, gtInt] at h ⊢
  | nan => simp [IsDuration, isFinite]

namespace Schema

variable {path : List Text} {v : Value}

theorem has_number_iff :
    Kind.number.has v = true ↔ (∃ n, v = .int n) ∨ ∃ x, v = .float x := by
  cases v <;> simp [Kind.has]

/-- **What the rules for a number above zero let through.** -/
theorem ruleViolations_above_zero_eq_nil :
    ruleViolations path v [.kinds [.number], .above 0] = [] ↔
      (∃ n, 0 < n ∧ v = .int n) ∨ ∃ x : Binary64, (x = .nan ∨ x.gtInt 0 = true) ∧ v = .float x := by
  simp only [ruleViolations_cons_eq_nil, violationsOf_kinds_eq_nil, violationsOf_above_eq_nil,
    ruleViolations_nil, and_true, List.mem_singleton, exists_eq_left, has_number_iff]
  constructor
  · rintro ⟨⟨n, rfl⟩ | ⟨x, rfl⟩, habove⟩
    · simp only [isAtMost, decide_eq_false_iff_not, Int.not_le] at habove
      exact .inl ⟨n, habove, rfl⟩
    · exact .inr ⟨x, Binary64.leInt_eq_false_iff.1 habove, rfl⟩
  · rintro (⟨n, hn, rfl⟩ | ⟨x, hx, rfl⟩)
    · exact ⟨.inl ⟨n, rfl⟩, by simpa [isAtMost] using hn⟩
    · exact ⟨.inr ⟨x, rfl⟩, Binary64.leInt_eq_false_iff.2 hx⟩

end Schema

namespace Settings

open Schema

variable {tree : FileTree} {path : Path} {s : Settings} {printer logging : Table}

/-- A whole number is a time limit if it can be rounded to one. -/
theorem readTimeout_int_eq_ok_iff {n : Int} {x : Binary64} :
    readTimeout (.int n) = .ok x ↔ Binary64.ofInt? n = some x := by
  rw [readTimeout]
  cases Binary64.ofInt? n <;> simp

theorem timeout_of_ofTables (h : ofTables printer logging = .ok s) :
    ((printer.get? "timeout").map readTimeout).getD (.ok ({} : Settings).timeout) =
      .ok s.timeout := by
  obtain ⟨timeout, htimeout, h⟩ := bind_eq_ok_iff.1 h
  cases h
  exact htimeout

/-- **Which time limits can be waited for.** Of settings that were loaded, the time limit is the
standard one if the file gives none; else it is the number that the file gives, a whole one being
rounded. It is finite and above zero unless the file gives what is no number, or the infinite one,
and then it is that. -/
theorem isDuration_timeout_iff (h : load tree path = .ok s) :
    ∃ v, readFile tree path = .ok v ∧
      let given := (part v "printer").get? "timeout"
      (given = none ∧ s.timeout = .ofDecimal false 5 0 ∨
        (∃ n, 0 < n ∧ given = some (.int n) ∧ Binary64.ofInt? n = some s.timeout) ∨
        given = some (.float s.timeout)) ∧
      (s.timeout.IsDuration ↔
        given ≠ some (.float .nan) ∧ given ≠ some (.float (.infinite false))) := by
  obtain ⟨v, hv, hkept, htables⟩ := ofTables_of_load h
  refine ⟨v, hv, ?_⟩
  have htimeout := timeout_of_ofTables htables
  dsimp only
  cases hgiven : (part v "printer").get? "timeout" with
  | none =>
    rw [hgiven] at htimeout
    obtain hstandard : .ofDecimal false 5 0 = s.timeout := Except.ok.inj htimeout
    rw [← hstandard]
    exact ⟨.inl ⟨rfl, rfl⟩, iff_of_true ⟨by decide, by decide⟩ (by simp)⟩
  | some w =>
    rw [hgiven] at htimeout
    have hread : readTimeout w = .ok s.timeout := htimeout
    have hrule : (Text.ofString "timeout", [.kinds [.number], .above 0]) ∈ printerRules :=
      .tail _ (.tail _ (.tail _ (.head _)))
    rcases ruleViolations_above_zero_eq_nil.1 (kept_of_part hkept (.head _) hrule hgiven) with
      ⟨n, hn, rfl⟩ | ⟨x, hx, rfl⟩
    · have hrounded := readTimeout_int_eq_ok_iff.1 hread
      have hduration : s.timeout.IsDuration := Binary64.isFinite_and_gtInt_of_ofInt? hrounded hn
      exact ⟨.inr (.inl ⟨n, hn, rfl, hrounded⟩), iff_of_true hduration (by simp)⟩
    · obtain rfl : x = s.timeout := Except.ok.inj hread
      refine ⟨.inr (.inr rfl), ?_⟩
      simpa using Binary64.isDuration_iff_of_above hx

/-- Three seconds, as a whole number, can be waited for. -/
theorem isDuration_timeout_of_three :
    let file (t : String) : Node := .file ((Utf8.encode t).toOption.getD [])
    let tree : FileTree := [(["p.json"], file "\x7b\"printer\": \x7b\"timeout\": 3\x7d\x7d")]
    ∃ s, load tree (.ofText "p.json") = .ok s ∧ s.timeout = .ofDecimal false 3 0 ∧
      s.timeout.IsDuration := by
  intro file tree
  have hload : (load tree (.ofText "p.json")).toOption.map (·.timeout) =
      some (.ofDecimal false 3 0) := by decide +kernel
  have hgiven : (readFile tree (.ofText "p.json")).toOption.map (fun v =>
      ((part v "printer").get? "timeout").map Value.quoted) = some (some (Text.ofString "3")) := by
    decide +kernel
  obtain ⟨s, hs, hthree⟩ := Option.map_eq_some_iff.1 hload
  have hs := eq_ok_of_toOption hs
  obtain ⟨v, hv, -, hduration⟩ := isDuration_timeout_iff hs
  rw [hv] at hgiven
  replace hgiven := Option.some.inj hgiven
  refine ⟨s, hs, hthree, hduration.2 ⟨fun hnan => ?_, fun hinf => ?_⟩⟩
  · simp only [hnan] at hgiven
    exact absurd hgiven (by decide)
  · simp only [hinf] at hgiven
    exact absurd hgiven (by decide)

/-- **Three time limits that are loaded and cannot be waited for**: what is no number in JSON, the
infinite one in TOML, and an exponent that is too large for any other. -/
theorem loads_unusable_timeouts :
    let file (t : String) : Node := .file ((Utf8.encode t).toOption.getD [])
    let tree : FileTree := [
      (["n.json"], file "\x7b\"printer\": \x7b\"timeout\": NaN\x7d\x7d"),
      (["i.toml"], file "[printer]\ntimeout = inf\n"),
      (["e.json"], file "\x7b\"printer\": \x7b\"timeout\": 1e999\x7d\x7d")]
    (∃ s, load tree (.ofText "n.json") = .ok s ∧ s.timeout = .nan ∧ ¬ s.timeout.IsDuration) ∧
    (∃ s, load tree (.ofText "i.toml") = .ok s ∧ s.timeout = .infinite false ∧
      ¬ s.timeout.IsDuration) ∧
    ∃ s, load tree (.ofText "e.json") = .ok s ∧ s.timeout = .infinite false ∧
      ¬ s.timeout.IsDuration := by
  intro file tree
  have hload {t : Text} {x : Binary64} (hx : x.isFinite = false)
      (h : (load tree (.ofText t)).toOption.map (·.timeout) = some x) :
      ∃ s, load tree (.ofText t) = .ok s ∧ s.timeout = x ∧ ¬ s.timeout.IsDuration := by
    obtain ⟨s, hs, rfl⟩ := Option.map_eq_some_iff.1 h
    refine ⟨s, eq_ok_of_toOption hs, rfl, fun hduration => ?_⟩
    cases hx.symm.trans hduration.1
  exact ⟨hload rfl (by decide +kernel), hload rfl (by decide +kernel),
    hload rfl (by decide +kernel)⟩

end Settings

end LabelPress
