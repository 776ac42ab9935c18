import LabelPress.Proofs.Json.Quoted
import LabelPress.Proofs.Text.Lines
import LabelPress.Proofs.Text.Order
import LabelPress.Proofs.Value.Table

/-!
# Data texts that are written and read

A table is written with its entries in the order of their names, and a table is read with its entries
in the order in which they are written. So a table with distinct names is read as itself put in order,
which has the same under every name, as long as its values are read as themselves
(`isReadAs_table`). That is the case with texts of scalar values (`HoldsTexts.read_write`).
-/

namespace LabelPress

namespace Table

variable {entries : Table} {name : Text} {v : Value}

/-- A table with its entries in the order of their names. -/
def sorted (entries : Table) : Table := sortBy (fun a b => a.1.le b.1) entries

theorem sorted_perm (entries : Table) : entries.sorted.Perm entries := sortBy_perm _ _

/-- A value that is put under a new name stands at the end. -/
theorem put_of_not_mem (h : name ∉ names entries) : entries.put name v = entries ++ [(name, v)] := by
  induction entries with
  | nil => rfl
  | cons e entries ih =>
    obtain ⟨n, w⟩ := e
    rw [names_cons, List.mem_cons, not_or] at h
    rw [put, if_neg (Ne.symm h.1), ih h.2, List.cons_append]

/-- Entries that are put into a table one by one, all under new names, follow what it had. -/
theorem foldl_put {start : Table} (h : (names (start ++ entries)).Nodup) :
    entries.foldl (fun table e => put e.1 e.2 table) start = start ++ entries := by
  induction entries generalizing start with
  | nil => exact (List.append_nil start).symm
  | cons e entries ih =>
    obtain ⟨n, w⟩ := e
    have hnew : n ∉ names start := by
      rw [names, List.map_append, List.nodup_append] at h
      exact fun hmem => h.2.2 n hmem n (.head _) rfl
    rw [List.foldl_cons, put_of_not_mem hnew, ih, List.append_assoc, List.singleton_append]
    rwa [List.append_assoc, List.singleton_append]

/-- An entry is found under its name, if this is no other's. -/
theorem get?_eq_some_iff_mem (h : (names entries).Nodup) :
    entries.get? name = some v ↔ (name, v) ∈ entries := by
  refine ⟨mem_of_get?, fun hmem => ?_⟩
  induction entries with
  | nil => cases hmem
  | cons e entries ih =>
    obtain ⟨n, w⟩ := e
    rw [names_cons, List.nodup_cons] at h
    rw [get?_cons]
    rcases List.mem_cons.1 hmem with heq | hmem
    · obtain ⟨rfl, rfl⟩ := Prod.mk.inj heq
      exact if_pos rfl
    · have hname : n ≠ name := by
        rintro rfl
        exact h.1 (List.mem_map_of_mem (f := Prod.fst) hmem)
      rw [if_neg hname]
      exact ih h.2 hmem

/-- **A table in order has the same under every name.** -/
theorem get?_sorted (h : (names entries).Nodup) (name : Text) :
    entries.sorted.get? name = entries.get? name := by
  have hsorted : (names entries.sorted).Nodup :=
    ((sorted_perm entries).map Prod.fst).nodup_iff.2 h
  refine Option.ext fun v => ?_
  rw [get?_eq_some_iff_mem hsorted, get?_eq_some_iff_mem h, (sorted_perm entries).mem_iff]

end Table

namespace Json

/-- Whether a value, as it is written, is read as another, whatever comes before and after it. -/
def IsReadAs (v w : Value) : Prop :=
  ∀ (finish place : Nat) (rest : Text) (frames : List Frame), ∃ place',
    readTokens finish (tokensFrom 0 place (write v ++ rest)) .value frames =
      readTokens finish (tokensFrom 0 place' rest) (.next w) frames

/-- **A text of scalar values is read as itself.** -/
theorem isReadAs_text {t : Text} (ht : t.IsEncodable) : IsReadAs (.text t) (.text t) := by
  intro finish place rest frames
  rw [write, tokensFrom_writeText ht]
  exact ⟨_, rfl⟩

/-! ## Entries -/

/-- An entry as it stands in a table. -/
def writeEntry (e : Text × Value) : Text := writeText e.1 ++ ": " ++ write e.2

theorem write_table (entries : Table) :
    write (.table entries) =
      .scalar '\x7b' :: (Text.join ", " (entries.sorted.map writeEntry) ++ [.scalar '\x7d']) := by
  have hentries (entries : Table) :
      writeEntries entries = entries.map fun e => (e.1, write e.2) := by
    induction entries with
    | nil => rfl
    | cons e entries ih => rw [writeEntries, ih, List.map_cons]
  rw [write, hentries, sortEntries, sortBy_map, List.map_map]
  rfl

/-- A sign that is a token by itself. -/
theorem tokensFrom_sign {c : CodePoint} {rest : Text} {place : Nat} {token : Token}
    (hspace : isSpace c = false) (hfront : front place c rest = (token, 1)) :
    tokensFrom 0 place (c :: rest) = (place, token) :: tokensFrom 0 (place + 1) rest := by
  rw [tokensFrom_token (by simp [hspace]), hfront]
  rfl

/-- **An entry is read as its name and its value.** -/
theorem readTokens_entry {e : Text × Value} (hname : e.1.IsEncodable) (hvalue : IsReadAs e.2 e.2)
    (finish place : Nat) (rest : Text) (entries : Table) (frames : List Frame) :
    ∃ place', readTokens finish (tokensFrom 0 place (writeEntry e ++ rest)) (.name entries) frames =
      readTokens finish (tokensFrom 0 place' rest) (.next e.2) (.table entries e.1 :: frames) := by
  have hwritten : writeEntry e ++ rest =
      writeText e.1 ++ (.scalar ':' :: .scalar ' ' :: (write e.2 ++ rest)) := by
    simp only [writeEntry, List.append_assoc]
    rfl
  rw [hwritten, tokensFrom_writeText hname, tokensFrom_sign rfl rfl, tokensFrom_space rfl]
  exact hvalue finish _ rest (.table entries e.1 :: frames)

/-- Entries with commas between them are read one by one, up to the end of their table. -/
theorem readTokens_entries {entries : Table}
    (h : ∀ e ∈ entries, e.1.IsEncodable ∧ IsReadAs e.2 e.2) (hne : entries ≠ [])
    (finish place : Nat) (rest : Text) (start : Table) (frames : List Frame) :
    ∃ place', readTokens finish (tokensFrom 0 place
        (Text.join ", " (entries.map writeEntry) ++ .scalar '\x7d' :: rest)) (.name start) frames =
      readTokens finish (tokensFrom 0 place' rest)
        (.next (.table (entries.foldl (fun table e => Table.put e.1 e.2 table) start))) frames := by
  induction entries generalizing start place with
  | nil => exact absurd rfl hne
  | cons e entries ih =>
    rw [List.forall_mem_cons] at h
    cases entries with
    | nil =>
      obtain ⟨place', hentry⟩ := readTokens_entry h.1.1 h.1.2 finish place
        (.scalar '\x7d' :: rest) start frames
      refine ⟨place' + 1, hentry.trans ?_⟩
      rw [tokensFrom_sign rfl rfl]
      rfl
    | cons f entries =>
      obtain ⟨place', hentry⟩ := readTokens_entry h.1.1 h.1.2 finish place
        (.scalar ',' :: .scalar ' ' ::
          (Text.join ", " ((f :: entries).map writeEntry) ++ .scalar '\x7d' :: rest)) start frames
      obtain ⟨place'', hentries⟩ := ih h.2 (List.cons_ne_nil _ _) (place' + 1 + 1)
        (Table.put e.1 e.2 start)
      have hwritten : Text.join ", " ((e :: f :: entries).map writeEntry) ++
            .scalar '\x7d' :: rest =
          writeEntry e ++ (.scalar ',' :: .scalar ' ' ::
            (Text.join ", " ((f :: entries).map writeEntry) ++ .scalar '\x7d' :: rest)) := by
        rw [List.map_cons, List.map_cons, Text.join, List.append_assoc, List.append_assoc]
        · rfl
        · exact List.cons_ne_nil _ _
      refine ⟨place'', ?_⟩
      rw [hwritten, hentry, tokensFrom_sign rfl rfl, tokensFrom_space rfl]
      exact hentries

/-- Where a table has just been opened, and is not empty, its first name comes next. -/
theorem readTokens_nameOrClose {e : Text × Value} (hname : e.1.IsEncodable) (entries : Table)
    (finish place : Nat) (rest : Text) (frames : List Frame) :
    let tokens := tokensFrom 0 place (Text.join ", " ((e :: entries).map writeEntry) ++ rest)
    readTokens finish tokens .nameOrClose frames = readTokens finish tokens (.name []) frames := by
  obtain ⟨more, hmore⟩ : ∃ more, Text.join ", " ((e :: entries).map writeEntry) ++ rest =
      writeText e.1 ++ more := by
    rw [List.map_cons, Text.join_cons, writeEntry]
    simp only [List.append_assoc]
    exact ⟨_, rfl⟩
  dsimp only
  rw [hmore, tokensFrom_writeText hname]
  rfl

/-- **A table is read as itself put in order**, if its names are distinct texts of scalar values and
its values are read as themselves. -/
theorem isReadAs_table {entries : Table} (h : ∀ e ∈ entries, e.1.IsEncodable ∧ IsReadAs e.2 e.2)
    (hnames : (Table.names entries).Nodup) :
    IsReadAs (.table entries) (.table entries.sorted) := by
  intro finish place rest frames
  have hsorted : (Table.names entries.sorted).Nodup :=
    ((Table.sorted_perm entries).map Prod.fst).nodup_iff.2 hnames
  have hput : entries.sorted.foldl (fun table e => Table.put e.1 e.2 table) [] = entries.sorted :=
    Table.foldl_put hsorted
  have hread : ∀ e ∈ entries.sorted, e.1.IsEncodable ∧ IsReadAs e.2 e.2 := fun e he =>
    h e ((Table.sorted_perm entries).mem_iff.1 he)
  rw [write_table, List.cons_append, List.append_assoc, List.singleton_append,
    tokensFrom_sign rfl rfl]
  generalize entries.sorted = sorted at hput hread
  cases sorted with
  | nil =>
    rw [List.map_nil, Text.join, List.nil_append, tokensFrom_sign rfl rfl]
    exact ⟨_, rfl⟩
  | cons e sorted =>
    obtain ⟨place', hentries⟩ :=
      readTokens_entries hread (List.cons_ne_nil _ _) finish (place + 1) rest [] frames
    rw [hput, ← readTokens_nameOrClose (hread e (.head _)).1] at hentries
    exact ⟨place', hentries⟩

/-- There is nothing but printable ASCII in a table as it is written, if that is so of its values. -/
theorem isPrintableAscii_of_mem_write_table {entries : Table}
    (h : ∀ e ∈ entries, ∀ c ∈ write e.2, c.IsPrintableAscii) {c : CodePoint}
    (hc : c ∈ write (.table entries)) : c.IsPrintableAscii := by
  have hsigns : ∀ t ∈ ["\x7b", "\x7d", ", ", ": "], ∀ c ∈ Text.ofString t, c.IsPrintableAscii := by
    decide
  rw [write_table, List.mem_cons, List.mem_append, List.mem_singleton] at hc
  rcases hc with rfl | hc | rfl
  · exact hsigns "\x7b" (by simp) _ (by decide)
  · rcases Text.mem_join hc with hcomma | ⟨written, hwritten, hc⟩
    · exact hsigns ", " (by simp) c hcomma
    · obtain ⟨e, he, rfl⟩ := List.mem_map.1 hwritten
      rw [writeEntry, List.mem_append, List.mem_append] at hc
      rcases hc with (hc | hc) | hc
      · exact isPrintableAscii_of_mem_writeText hc
      · exact hsigns ": " (by simp) c hc
      · exact h e ((Table.sorted_perm entries).mem_iff.1 he) c hc
  · exact hsigns "\x7d" (by simp) _ (by decide)

/-- A value that is read as another, and does not start with a mark, is read from a document as that. -/
theorem read_write {v w : Value} (h : IsReadAs v w)
    (hmark : (write v).head? ≠ some (.scalar '\uFEFF')) : read (write v) = .ok w := by
  obtain ⟨place, hread⟩ := h (write v).length 0 [] []
  rw [List.append_nil] at hread
  rw [read, if_neg hmark, tokens, hread]
  rfl

/-! ## Tables of texts -/

/-- Whether there are only texts in a table, and with their names all are texts of scalar values. -/
def HoldsTexts (entries : Table) : Prop :=
  ∀ e ∈ entries, e.1.IsEncodable ∧ ∃ t, e.2 = .text t ∧ t.IsEncodable

variable {entries : Table}

theorem HoldsTexts.put (h : HoldsTexts entries) {name t : Text} (hname : name.IsEncodable)
    (ht : t.IsEncodable) : HoldsTexts (Table.put name (.text t) entries) := by
  intro e he
  rcases Table.mem_of_mem_put he with he | rfl
  · exact h e he
  · exact ⟨hname, t, rfl, ht⟩

/-- **There is nothing but printable ASCII in a table of texts** as it is written. -/
theorem HoldsTexts.isPrintableAscii (h : HoldsTexts entries) :
    ∀ c ∈ write (.table entries), c.IsPrintableAscii := by
  refine fun c hc => isPrintableAscii_of_mem_write_table (fun e he c hc => ?_) hc
  obtain ⟨-, t, ht, -⟩ := h e he
  rw [ht] at hc
  exact isPrintableAscii_of_mem_writeText hc

/-- So it is one line. -/
theorem HoldsTexts.lines_eq (h : HoldsTexts entries) :
    (write (.table entries)).lines = [write (.table entries)] :=
  Text.splitOn_of_not_mem fun hfeed => absurd (h.isPrintableAscii _ hfeed) (by decide)

/-- **A table of texts is read with what it holds**, in the order of the names. -/
theorem HoldsTexts.read_write (h : HoldsTexts entries) (hnames : (Table.names entries).Nodup) :
    read (write (.table entries)) = .ok (.table entries.sorted) := by
  have hread : ∀ e ∈ entries, e.1.IsEncodable ∧ IsReadAs e.2 e.2 := by
    intro e he
    obtain ⟨hname, t, ht, hencodable⟩ := h e he
    rw [ht]
    exact ⟨hname, isReadAs_text hencodable⟩
  refine Json.read_write (isReadAs_table hread hnames) ?_
  have hbrace : some (CodePoint.scalar '\x7b') ≠ some (CodePoint.scalar '\uFEFF') := by decide
  rwa [write_table, List.head?_cons]

end Json

end LabelPress
