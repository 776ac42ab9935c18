import LabelPress.Text.Basic

/-!
# Lines and the parts of a line

Lines joined and cut again are the same lines, provided that none of them holds a line feed itself.
Of a line that starts and ends as it should, `between?` gives what is in between; it looks at the
two ends only, so that what is in between may look like either of them.
-/

namespace LabelPress

namespace Text

variable {c : CodePoint}

theorem splitOn_of_not_mem {t : Text} (h : c ∉ t) : splitOn c t = [t] := by
  induction t with
  | nil => rfl
  | cons d t ih =>
    have hd : d ≠ c := fun hd => h (hd ▸ .head _)
    rw [splitOn, if_neg hd, ih fun ht => h (.tail _ ht)]

theorem splitOn_append_cons {t : Text} (h : c ∉ t) (rest : Text) :
    splitOn c (t ++ c :: rest) = t :: splitOn c rest := by
  induction t with
  | nil => rw [List.nil_append, splitOn, if_pos rfl]
  | cons d t ih =>
    have hd : d ≠ c := fun hd => h (hd ▸ .head _)
    rw [List.cons_append, splitOn, if_neg hd, ih fun ht => h (.tail _ ht)]

/-- The first of some joined pieces are cut off, whatever is in the others. -/
theorem splitOn_join_append {ts us : List Text} (hne : us ≠ []) (h : ∀ t ∈ ts, c ∉ t) :
    splitOn c (join [c] (ts ++ us)) = ts ++ splitOn c (join [c] us) := by
  induction ts with
  | nil => rfl
  | cons t ts ih =>
    have ht : c ∉ t := h t (.head _)
    have hrest : ts ++ us ≠ [] := List.append_ne_nil_of_right_ne_nil ts hne
    rw [List.cons_append, join, List.append_assoc, List.singleton_append, splitOn_append_cons ht,
      ih fun v hv => h v (.tail _ hv), List.cons_append]
    exact hrest

/-- **Cutting joined pieces gives the pieces back.** -/
theorem splitOn_join {ts : List Text} (hne : ts ≠ []) (h : ∀ t ∈ ts, c ∉ t) :
    splitOn c (join [c] ts) = ts := by
  obtain ⟨front, t, rfl⟩ := (List.eq_nil_or_concat ts).resolve_left hne
  rw [List.concat_eq_append] at h ⊢
  rw [splitOn_join_append (List.cons_ne_nil t []) fun u hu => h u (List.mem_append_left [t] hu)]
  exact congrArg (front ++ ·) (splitOn_of_not_mem (h t (by simp)))

/-- **A text that is changed sign by sign is cut at the same places**, if what it is cut at stays and
nothing else becomes it. -/
theorem splitOn_map {f : CodePoint → CodePoint} (hf : ∀ d, f d = c ↔ d = c) (t : Text) :
    splitOn c (t.map f) = (splitOn c t).map (List.map f) := by
  induction t with
  | nil => rfl
  | cons d t ih =>
    by_cases hd : d = c
    · rw [List.map_cons, splitOn, if_pos ((hf d).2 hd), splitOn, if_pos hd, ih]
      rfl
    · rw [List.map_cons, splitOn, if_neg (mt (hf d).1 hd), splitOn, if_neg hd, ih]
      cases splitOn c t <;> rfl

/-- Joined texts are the first one, and the separator and one more for each of the others. -/
theorem join_cons (separator t : Text) (ts : List Text) :
    join separator (t :: ts) = t ++ ts.flatMap (separator ++ ·) := by
  induction ts generalizing t with
  | nil => exact (List.append_nil t).symm
  | cons u us ih =>
    rw [join, ih, List.flatMap_cons, List.append_assoc, List.append_assoc]
    exact List.cons_ne_nil u us

/-- Or each of them but the last with the separator after it, and the last one. -/
theorem join_concat (separator t : Text) (ts : List Text) :
    join separator (ts ++ [t]) = ts.flatMap (· ++ separator) ++ t := by
  induction ts with
  | nil => rfl
  | cons u us ih =>
    rw [List.cons_append, join, ih, List.flatMap_cons, List.append_assoc, List.append_assoc,
      List.append_assoc]
    exact List.append_ne_nil_of_right_ne_nil us (List.cons_ne_nil t [])

/-- What is in a joined text is in its separator or in one of its pieces. -/
theorem mem_join {separator : Text} {ts : List Text} (h : c ∈ join separator ts) :
    c ∈ separator ∨ ∃ t ∈ ts, c ∈ t := by
  induction ts with
  | nil => cases h
  | cons t ts ih =>
    cases ts with
    | nil => exact .inr ⟨t, .head _, h⟩
    | cons u us =>
      simp only [join, List.mem_append] at h
      rcases h with (ht | hs) | hus
      · exact .inr ⟨t, .head _, ht⟩
      · exact .inl hs
      · rcases ih hus with hs | ⟨v, hv, hc⟩
        · exact .inl hs
        · exact .inr ⟨v, .tail _ hv, hc⟩

/-- And what is in one of its pieces is in it. -/
theorem mem_join_of_mem {separator t : Text} {ts : List Text} (ht : t ∈ ts) (hc : c ∈ t) :
    c ∈ join separator ts := by
  induction ts with
  | nil => cases ht
  | cons u us ih =>
    cases us with
    | nil =>
      obtain rfl := List.mem_singleton.1 ht
      exact hc
    | cons v vs =>
      simp only [join, List.mem_append]
      rcases List.mem_cons.1 ht with rfl | ht
      · exact .inl (.inl hc)
      · exact .inr (ih ht)

/-! ## The end of a text -/

/-- What is trimmed off the end of a text is some of what is trimmed. -/
theorem exists_eq_trimEnd_append (c : CodePoint) (t : Text) :
    ∃ n, t = t.trimEnd (· = c) ++ List.replicate n c := by
  let tail := (t.reverse.takeWhile (· = c)).reverse
  have htail : ∀ d ∈ tail, d = c := by
    intro d hd
    simpa using (List.all_eq_true.1 List.all_takeWhile) d (List.mem_reverse.1 hd)
  refine ⟨tail.length, ?_⟩
  rw [← List.eq_replicate_of_mem htail, trimEnd, ← List.reverse_append,
    List.takeWhile_append_dropWhile, List.reverse_reverse]

/-- **What was put to the end of a text is trimmed off**, and no more. -/
theorem trimEnd_append_replicate {t : Text} (h : t.getLast? ≠ some c) (n : Nat) :
    (t ++ List.replicate n c).trimEnd (· = c) = t := by
  have hfront : t.reverse.dropWhile (· = c) = t.reverse := by
    cases ht : t.reverse with
    | nil => rfl
    | cons d rest =>
      have hd : d ≠ c := by
        rintro rfl
        exact h (by rw [List.getLast?_eq_head?_reverse, ht]; rfl)
      simp [hd]
  rw [trimEnd, List.reverse_append, List.reverse_replicate,
    List.dropWhile_append_of_pos (by simp), hfront, List.reverse_reverse]

/-- A trimmed text does not end with what is trimmed. -/
theorem getLast?_trim_ne {drop : CodePoint → Bool} (hc : drop c = true) (t : Text) :
    (t.trim drop).getLast? ≠ some c := by
  intro h
  rw [trim, List.getLast?_reverse] at h
  have hkept := List.head?_dropWhile_not drop (t.dropWhile drop).reverse
  rw [h] at hkept
  exact absurd hc (by simp [hkept])

/-- A text without any of it stays as it is. -/
theorem trim_eq_self {drop : CodePoint → Bool} {t : Text} (h : ∀ c ∈ t, drop c = false) :
    t.trim drop = t := by
  have hstays {t : Text} (h : ∀ c ∈ t, drop c = false) : t.dropWhile drop = t := by
    cases t with
    | nil => rfl
    | cons c t => rw [List.dropWhile_cons_of_neg (by simp [h c (.head _)])]
  rw [trim, hstays h, hstays fun c hc => h c (List.mem_reverse.1 hc), List.reverse_reverse]

/-- A text that does not end with a code point ends with two of it if two or more are put to it. -/
theorem pair_suffix_append_replicate_iff {t : Text} (h : t.getLast? ≠ some c) (n : Nat) :
    [c, c] <:+ t ++ List.replicate n c ↔ 2 ≤ n := by
  constructor
  · rintro ⟨front, hfront⟩
    match n with
    | 0 =>
      obtain rfl : front ++ [c, c] = t := by simpa using hfront
      simp at h
    | 1 =>
      obtain ⟨rfl, -⟩ : front ++ [c] = t ∧ [c] = [c] := List.append_inj' (by simpa using hfront) rfl
      simp at h
    | n + 2 => omega
  · intro hn
    obtain ⟨m, rfl⟩ := Nat.exists_eq_add_of_le' hn
    exact ⟨t ++ List.replicate m c, by rw [← List.replicate_append_replicate]; simp⟩

/-- Joined texts end as the last of them does. -/
theorem getLast?_join_ne {separator : Text} {ts : List Text} (hne : ts ≠ [])
    (h : ∀ t ∈ ts, t ≠ [] ∧ c ∉ t) : (join separator ts).getLast? ≠ some c := by
  obtain ⟨front, t, rfl⟩ := (List.eq_nil_or_concat ts).resolve_left hne
  rw [List.concat_eq_append] at h ⊢
  obtain ⟨hempty, hc⟩ := h t (by simp)
  rw [join_concat, List.getLast?_append]
  cases ht : t.getLast? with
  | none => exact absurd (List.getLast?_eq_none_iff.1 ht) hempty
  | some d =>
    rintro ⟨rfl⟩
    exact hc (List.mem_of_getLast? ht)

/-! ## Between the ends of a line -/

/-- What stands between a start and an end of a text. -/
def between? (t start stop : Text) : Option Text :=
  (dropPrefix? start t).bind fun rest => (dropPrefix? stop.reverse rest.reverse).map List.reverse

theorem dropPrefix?_append (start rest : Text) : dropPrefix? start (start ++ rest) = some rest :=
  dropPrefix?_eq_some_iff.2 rfl

/-- **What was put between two ends is found there**, whatever it is. -/
theorem between?_append (start t stop : Text) :
    (start ++ t ++ stop).between? start stop = some t := by
  rw [between?, List.append_assoc, dropPrefix?_append, Option.bind_some, List.reverse_append,
    dropPrefix?_append]
  exact congrArg some (List.reverse_reverse t)

end Text

end LabelPress
