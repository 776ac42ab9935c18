import LabelPress.Proofs.Json.Reader
import LabelPress.Proofs.Label.Description
import LabelPress.Proofs.Schema.Order
import LabelPress.Proofs.Settings.Loading

/-!
# Descriptions and settings in another order

Neither the label of a description nor the settings of a file depend on the order in which their
entries are written, and neither does what is wrong with them: the schema finds the same violations in
the same order, and what is read afterwards is looked up name by name. Only the flags are gone through
one by one, each into a place of its own.
-/

namespace LabelPress

/-- Two tables that were read from data texts are reorderings of each other if they have the same at
all names. -/
theorem Table.IsReordering.of_read {inner : List Text} {d e : Table} {s t : Text}
    (hd : Json.read s = .ok (.table d)) (he : Json.read t = .ok (.table e))
    (h : Table.Agree inner d e) : Table.IsReordering inner d e :=
  ⟨h, Json.hasDistinctNames_of_read hd, Json.hasDistinctNames_of_read he⟩

namespace Description

variable {d e : Table}

/-- Flags in another order are put into the same places. -/
theorem foldl_putFlag_eq (h : Table.IsReordering [] d e) (label : Label) :
    d.foldl putFlag label = e.foldl putFlag label := by
  rw [foldl_putFlag (Value.hasDistinctNames_table_iff.1 h.left).1,
    foldl_putFlag (Value.hasDistinctNames_table_iff.1 h.right).1]
  simp only [withFlags, h.get?_eq]

theorem foldl_flagsAt_eq (h : Table.IsReordering ["flags"] d e) (label : Label) :
    (flagsAt d).foldl putFlag label = (flagsAt e).foldl putFlag label := by
  rcases h.at_name (List.mem_singleton_self _) with hsame | ⟨fs, gs, hd, he, hflags⟩
  · rw [flagsAt, flagsAt, hsame]
  · rw [flagsAt, flagsAt, hd, he]
    exact foldl_putFlag_eq hflags label

/-- **Tables in another order are read as the same label**, or refused for the same reason. -/
theorem ofEntries_eq_of_isReordering (h : Table.IsReordering ["flags"] d e) :
    ofEntries d = ofEntries e := by
  simp only [ofEntries_eq, foldl_flagsAt_eq h, textAt, choiceAt, entryAt,
    h.outside "due_time" (by decide), h.outside "order_type" (by decide),
    h.outside "temperature_band" (by decide), h.outside "tote_number" (by decide),
    h.outside "tote_id_text" (by decide), h.outside "customer_name" (by decide),
    h.outside "full_order_number" (by decide), h.outside "tote_barcode_id" (by decide)]

theorem ofValue_eq_of_isReordering (h : Table.IsReordering ["flags"] d e) :
    ofValue (.table d) = ofValue (.table e) := by
  have hcheck : Schema.check rules (.table d) = Schema.check rules (.table e) :=
    Schema.check_eq_of_isReordering h rfl
  have hentries : ofEntries ((Value.table d).table?.getD []) =
      ofEntries ((Value.table e).table?.getD []) := ofEntries_eq_of_isReordering h
  rw [ofValue, ofValue, hcheck, hentries]

end Description

namespace Settings

variable {d e : Table} {tree : FileTree} {path : Path} {v : Value} {inner : List Text} {name : Text}

theorem part_get?_eq (h : Table.IsReordering inner d e) (hname : name ∈ inner) (other : Text) :
    (part (.table d) name).get? other = (part (.table e) name).get? other := by
  have hpart (d : Table) : part (.table d) name = ((d.get? name).bind Value.table?).getD [] := rfl
  rw [hpart, hpart]
  rcases h.at_name hname with hsame | ⟨fs, gs, hd, he, hinner⟩
  · rw [hsame]
  · rw [hd, he]
    exact hinner.get?_eq other

/-- **Tables in another order stand for the same settings**, or are refused for the same reason. -/
theorem ofValue_eq_of_isReordering (h : Table.IsReordering ["printer", "logging"] d e) :
    ofValue (.table d) = ofValue (.table e) := by
  have hcheck : Schema.check rules (.table d) = Schema.check rules (.table e) :=
    Schema.check_eq_of_isReordering h rfl
  have htables : ofTables (part (.table d) "printer") (part (.table d) "logging") =
      ofTables (part (.table e) "printer") (part (.table e) "logging") := by
    simp only [ofTables, part_get?_eq h (List.mem_cons_self ..),
      part_get?_eq h (List.mem_cons_of_mem _ (List.mem_singleton_self _))]
  rw [ofValue_eq, ofValue_eq, hcheck, htables]

/-- A file that can be read is there. -/
theorem isThere_of_readFile (h : readFile tree path = .ok v) : isThere tree path = .ok true := by
  rw [readFile_eq] at h
  split at h
  · next form _ =>
    obtain ⟨bytes, hbytes, -⟩ := bind_eq_ok_iff.1 h
    rw [mapError_eq_ok_iff, FileTree.readBytes_eq] at hbytes
    obtain ⟨spot, hspot, -⟩ := bind_eq_ok_iff.1 hbytes
    rw [isThere_eq_true_iff, FileTree.leadsTo, hspot]
    rfl
  · cases h

theorem load_of_readFile (h : readFile tree path = .ok v) : load tree path = ofValue v := by
  rw [load, isThere_of_readFile h, h]
  rfl

end Settings

open Schema

/-- **Neither a description nor a settings file depends on the order of its entries.** Two descriptions,
wherever they come from, that differ only in the order of their entries and in that of their flags are
loaded as the same label or raise the same fault, and so do two settings files that differ only in the
order of their tables and in that of the entries of the printer's and of the logs'. Where rules are
broken, the refusal is for the first violation, which has the least path of all; only a number that is
too long to be shown, which no data text holds, can keep it from being told. -/
theorem loads_in_any_order :
    (∀ (tree tree' : FileTree) (source source' : Description.Source) (d e : Table),
      Description.sourceValue tree source = .ok (.table d) →
      Description.sourceValue tree' source' = .ok (.table e) →
      Table.IsReordering ["flags"] d e →
      Description.load tree source = Description.load tree' source') ∧
    (∀ (tree tree' : FileTree) (path path' : Path) (d e : Table),
      Settings.readFile tree path = .ok (.table d) → Settings.readFile tree' path' = .ok (.table e) →
      Table.IsReordering ["printer", "logging"] d e →
      Settings.load tree path = Settings.load tree' path') ∧
    (∀ (tree : FileTree) (source : Description.Source) (v : Value),
      Description.sourceValue tree source = .ok v → ruleViolations [] v Description.rules ≠ [] →
      ∃ w, IsFirst w (ruleViolations [] v Description.rules) ∧
        (Description.load tree source = .error (Description.Problem.invalid w).fault ∨
          Description.load tree source = .error .tooLong ∧ v.isShowable = false)) ∧
    ∀ (tree : FileTree) (path : Path) (v : Value),
      Settings.readFile tree path = .ok v → ruleViolations [] v Settings.rules ≠ [] →
      ∃ w, IsFirst w (ruleViolations [] v Settings.rules) ∧
        (Settings.load tree path = .error (Settings.Problem.invalid w).fault ∨
          Settings.load tree path = .error .tooLong ∧ v.isShowable = false) := by
  refine ⟨?_, ?_, ?_, ?_⟩
  · intro tree tree' source source' d e hd he h
    rw [Description.load_of_sourceValue hd, Description.load_of_sourceValue he]
    exact Description.ofValue_eq_of_isReordering h
  · intro tree tree' path path' d e hd he h
    rw [Settings.load_of_readFile hd, Settings.load_of_readFile he]
    exact Settings.ofValue_eq_of_isReordering h
  · intro tree source v hv hbroken
    rw [Description.load_of_sourceValue hv]
    exact check_bind_of_broken (fun _ => rfl) hbroken
  · intro tree path v hv hbroken
    rw [Settings.load_of_readFile hv]
    exact check_bind_of_broken (fun _ => rfl) hbroken

/-- A description and a settings file that break rules of several tables, each in two orders. The
description is refused for its root, where it has a name too many and lacks the due time, and the
settings for the logs, although the rules for these come last. -/
theorem loads_in_any_order_of_broken_rules :
    let s : Text := "\x7b\"zone\":null,\"flags\":\x7b\"heavy\":true,\"alcohol\":\"no\"\x7d\x7d"
    let t : Text := "\x7b\"flags\":\x7b\"alcohol\":\"no\",\"heavy\":true\x7d,\"zone\":null\x7d"
    let description : Table :=
      [("zone", .null), ("flags", .table [("heavy", .bool true), ("alcohol", .text "no")])]
    let file (t : String) : Node := .file ((Utf8.encode t).toOption.getD [])
    let tree : FileTree := [
      (["a.json"], file
        "\x7b\"printer\":\x7b\"port\":null,\"mode\":null\x7d,\"logging\":\x7b\"json\":\"no\"\x7d\x7d"),
      (["b.json"], file
        "\x7b\"logging\":\x7b\"json\":\"no\"\x7d,\"printer\":\x7b\"mode\":null,\"port\":null\x7d\x7d")]
    let settings : Table :=
      [("printer", .table [("port", .null), ("mode", .null)]),
        ("logging", .table [("json", .text "no")])]
    Description.load tree (.text s) = Description.load tree (.text t) ∧
      Settings.load tree (.ofText "a.json") = Settings.load tree (.ofText "b.json") ∧
      (∃ w, IsFirst w (ruleViolations [] (.table description) Description.rules) ∧
        Description.load tree (.text s) = .error (Description.Problem.invalid w).fault) ∧
      ∃ w, IsFirst w (ruleViolations [] (.table settings) Settings.rules) ∧
        Settings.load tree (.ofText "a.json") = .error (Settings.Problem.invalid w).fault := by
  intro s t description file tree settings
  obtain ⟨hlabel, hsettings, hfirst, hsettingsFirst⟩ := loads_in_any_order
  let description' : Table :=
    [("flags", .table [("alcohol", .text "no"), ("heavy", .bool true)]), ("zone", .null)]
  let settings' : Table :=
    [("logging", .table [("json", .text "no")]),
      ("printer", .table [("mode", .null), ("port", .null)])]
  have hs : Json.read s = .ok (.table description) := rfl
  have ht : Json.read t = .ok (.table description') := rfl
  have hsource : Description.sourceValue tree (.text s) = .ok (.table description) := by
    rw [Description.sourceValue, hs]
  have hsource' : Description.sourceValue tree (.text t) = .ok (.table description') := by
    rw [Description.sourceValue, ht]
  have hagree : Table.Agree ["flags"] description description' := by
    constructor
    · intro name hname
      have hne : ¬ Text.ofString "flags" = name := fun h => hname (h ▸ List.mem_singleton_self _)
      simp only [description, description', Table.get?_cons, if_neg hne]
    · intro name hname
      obtain rfl := List.mem_singleton.1 hname
      exact .inr ⟨_, _, rfl, rfl, Table.get?_swap (by decide) _ _ _⟩
  have ha : Settings.readFile tree (.ofText "a.json") = .ok (.table settings) := rfl
  have hb : Settings.readFile tree (.ofText "b.json") = .ok (.table settings') := rfl
  have hreordering : Table.IsReordering ["printer", "logging"] settings settings' := by
    refine ⟨⟨fun name hname => ?_, fun name hname => ?_⟩, rfl, rfl⟩
    · simp only [List.mem_cons, List.not_mem_nil, or_false, not_or] at hname
      simp only [settings, settings', Table.get?_cons, if_neg (Ne.symm hname.1),
        if_neg (Ne.symm hname.2)]
    · simp only [List.mem_cons, List.not_mem_nil, or_false] at hname
      rcases hname with rfl | rfl
      · exact .inr ⟨_, _, rfl, rfl, Table.get?_swap (by decide) _ _ _⟩
      · exact .inr ⟨_, _, rfl, rfl, fun _ => rfl⟩
  refine ⟨hlabel tree tree _ _ _ _ hsource hsource' (.of_read hs ht hagree),
    hsettings tree tree _ _ _ _ ha hb hreordering, ?_, ?_⟩
  · obtain ⟨w, hw, hload | ⟨-, hshow⟩⟩ := hfirst tree (.text s) _ hsource
      fun h => absurd (congrArg List.length h) (by decide)
    · exact ⟨w, hw, hload⟩
    · cases hshow.symm.trans (Json.isShowable_of_read hs)
  · obtain ⟨w, hw, hload | ⟨-, hshow⟩⟩ := hsettingsFirst tree (.ofText "a.json") _ ha
      fun h => absurd (congrArg List.length h) (by decide)
    · exact ⟨w, hw, hload⟩
    · cases hshow

end LabelPress
