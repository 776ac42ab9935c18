import LabelPress.Proofs.Link.Build
import LabelPress.Proofs.Text.Digits
import LabelPress.Proofs.Text.Lines

/-!
# Hosts

A host is an address of the internet protocol or a name. What names are is told here by how they are
written: parts of letters, digits and hyphens with points between them, and possibly one point after
the last (`IsHostName`). `Address.readHost` is more generous. It drops any number of points at the
end, and it looks at a part without the line feed that the part may end with (`IsLooseName`). So it
reads every host (`readHost_eq_ok_iff`), and it refuses what is none unless that is a loose name
with a line feed in it or two points at its end (`readsHost_iff`).
-/

namespace LabelPress

namespace Address

/-! ## Names of hosts -/

/-- Whether a code point is an ASCII letter, an ASCII digit or a hyphen. -/
def IsHostSign (c : CodePoint) : Prop :=
  ∃ x : Char, c = .scalar x ∧ (x.isAlpha = true ∨ x.isDigit = true ∨ x = '-')

/-- A part of a host name: 1 to 63 letters, digits and hyphens, with no hyphen at either end. -/
structure IsHostPart (t : Text) : Prop where
  length_pos : 1 ≤ t.length
  length_le : t.length ≤ 63
  signs : ∀ c ∈ t, IsHostSign c
  head : t.head? ≠ some (.scalar '-')
  last : t.getLast? ≠ some (.scalar '-')

/-- A text spelled by parts: it has a point between each two of them, and some more points after the
last. There is a part that is not all digits. -/
structure Spells (parts : List Text) (points : Nat) (t : Text) : Prop where
  text : t = Text.join [.scalar '.'] parts ++ List.replicate points (.scalar '.')
  mixed : ∃ part ∈ parts, ∃ c ∈ part, c.isAsciiDigit = false

/-- A host name: at most 253 code points that are spelled by parts, with one point after the last at
most. -/
def IsHostName (t : Text) : Prop :=
  t.length ≤ 253 ∧ ∃ parts points, Spells parts points t ∧ (∀ part ∈ parts, IsHostPart part) ∧
    points ≤ 1

/-- A text without one point at its end. -/
def dropFinalPoint (t : Text) : Text :=
  if t.getLast? = some (.scalar '.') then t.dropLast else t

/-- That a text is read as the host it is. If it is an address or a name but for the blanks at its
ends, it is read as that. If it is not, it is refused as an address. So a name that is read holds no
blanks, line feeds among them, and has no empty parts. -/
structure ReadsHost (t : Text) : Prop where
  accepts : isIpAddress t.strip = true ∨ IsHostName t.strip → readHost t = .ok t.strip
  refuses : ¬ (isIpAddress t.strip = true ∨ IsHostName t.strip) →
    ∃ p, readHost t = .error p ∧ p.fault.kind = .address
  clean : ∀ host, readHost t = .ok host → isIpAddress host = false →
    (∀ c ∈ host, c.isBlank = false) ∧ [] ∉ Text.splitOn '.' (dropFinalPoint host)

/-- A part of a host name, or one with a line feed after it. -/
def IsLoosePart (t : Text) : Prop :=
  IsHostPart t ∨ ∃ part, IsHostPart part ∧ t = part ++ [.scalar '\n']

/-- A loose name: one that may have line feeds after its parts, and any number of points at its
end. -/
def IsLooseName (t : Text) : Prop :=
  t.length ≤ 253 ∧ ∃ parts points, Spells parts points t ∧ ∀ part ∈ parts, IsLoosePart part

/-! ## Signs and parts -/

theorem isNamePoint_iff {c : CodePoint} : isNamePoint c = true ↔ IsHostSign c := by
  cases c with
  | lone half => simp [isNamePoint, IsHostSign]
  | scalar x => simp [isNamePoint, IsHostSign, Char.isAlphanum, or_assoc]

namespace IsHostSign

variable {c : CodePoint}

/-- The numbers of the hyphen, the digits, the capitals and the small letters. -/
theorem value_cases (h : IsHostSign c) :
    c.value = 45 ∨ (48 ≤ c.value ∧ c.value ≤ 57) ∨ (65 ≤ c.value ∧ c.value ≤ 90) ∨
      (97 ≤ c.value ∧ c.value ≤ 122) := by
  obtain ⟨x, rfl, halpha | hdigit | rfl⟩ := h
  · rcases Bool.or_eq_true_iff.1 halpha with hupper | hlower
    · exact .inr (.inr (.inl (of_decide_eq_true hupper)))
    · obtain ⟨hfrom, hto⟩ := Bool.and_eq_true_iff.1 hlower
      exact .inr (.inr (.inr ⟨of_decide_eq_true hfrom, of_decide_eq_true hto⟩))
  · obtain ⟨hfrom, hto⟩ := Bool.and_eq_true_iff.1 hdigit
    exact .inr (.inl ⟨of_decide_eq_true hfrom, of_decide_eq_true hto⟩)
  · exact .inl rfl

theorem ne_point (h : IsHostSign c) : c ≠ .scalar '.' := by
  rintro rfl
  simpa [CodePoint.value] using h.value_cases

theorem ne_lineFeed (h : IsHostSign c) : c ≠ .scalar '\n' := by
  rintro rfl
  simpa [CodePoint.value] using h.value_cases

theorem isBlank_eq_false (h : IsHostSign c) : c.isBlank = false := by
  have hvalue := h.value_cases
  -- It is past the second range of blanks, and comes before the third.
  have hfirst : ¬ c.value < 0x9 ∧ ¬ c.value ≤ 0xD := by omega
  have hsecond : ¬ c.value < 0x1C ∧ ¬ c.value ≤ 0x20 := by omega
  have hthird : c.value < 0x85 := by omega
  simp [CodePoint.isBlank, CodePoint.blankRanges, inRanges, hfirst, hsecond, hthird]

end IsHostSign

/-- **What passes for a part of a name** is a loose one: the line feed is not looked at. -/
theorem isNamePart_iff {t : Text} : isNamePart t = true ↔ IsLoosePart t := by
  have hpart : isNamePart t = true ↔ IsHostPart (dropFinalLineFeed t) := by
    simp only [isNamePart, Bool.and_eq_true, decide_eq_true_eq, List.all_eq_true, isNamePoint_iff,
      bne_iff_ne]
    constructor
    · rintro ⟨⟨⟨⟨hpos, hle⟩, hsigns⟩, hhead⟩, hlast⟩
      exact ⟨hpos, hle, hsigns, hhead, hlast⟩
    · exact fun h => ⟨⟨⟨⟨h.length_pos, h.length_le⟩, h.signs⟩, h.head⟩, h.last⟩
  rw [hpart, dropFinalLineFeed]
  split
  next hlast =>
    obtain ⟨part, rfl⟩ := List.getLast?_eq_some_iff.1 hlast
    rw [List.dropLast_concat]
    constructor
    · exact fun h => .inr ⟨part, h, rfl⟩
    · rintro (h | ⟨part', h, heq⟩)
      · exact absurd rfl (h.signs _ (by simp)).ne_lineFeed
      · rwa [(List.append_inj' heq rfl).1]
  next hlast =>
    constructor
    · exact .inl
    · rintro (h | ⟨part, h, rfl⟩)
      · exact h
      · simp at hlast

namespace IsLoosePart

variable {t : Text}

theorem ne_nil (h : IsLoosePart t) : t ≠ [] := by
  rintro rfl
  rcases h with h | ⟨part, -, h⟩
  · exact absurd h.length_pos (by simp)
  · simp at h

theorem sign_of_mem (h : IsLoosePart t) {c : CodePoint} (hc : c ∈ t) :
    IsHostSign c ∨ c = .scalar '\n' := by
  rcases h with h | ⟨part, h, rfl⟩
  · exact .inl (h.signs c hc)
  · rcases List.mem_append.1 hc with hc | hc
    · exact .inl (h.signs c hc)
    · exact .inr (List.mem_singleton.1 hc)

theorem point_not_mem (h : IsLoosePart t) : .scalar '.' ∉ t := by
  intro hc
  rcases h.sign_of_mem hc with hsign | heq
  · exact hsign.ne_point rfl
  · exact absurd heq (by decide)

theorem isHostPart (h : IsLoosePart t) (hline : .scalar '\n' ∉ t) : IsHostPart t := by
  rcases h with h | ⟨part, -, rfl⟩
  · exact h
  · exact absurd (by simp) hline

/-- The digits of other scripts make no difference to whether a part is all digits: it has none. -/
theorem isAllDigits_eq_false_iff (h : IsLoosePart t) :
    isAllDigits t = false ↔ ∃ c ∈ t, c.isAsciiDigit = false := by
  have hascii : ∀ c ∈ t, c.isDigit = c.isAsciiDigit := by
    intro c hc
    refine CodePoint.isDigit_of_lt ?_
    rcases h.sign_of_mem hc with hsign | rfl
    · have hvalue := hsign.value_cases
      omega
    · decide
  have hempty : t.isEmpty = false := by simpa using h.ne_nil
  simp only [isAllDigits, hempty, Bool.not_false, Bool.true_and, List.all_eq_false,
    Bool.not_eq_true]
  exact exists_congr fun c => and_congr_right fun hc => by rw [hascii c hc]

end IsLoosePart

/-! ## What is read -/

namespace Spells

variable {parts : List Text} {points : Nat} {t : Text}

theorem ne_nil (h : Spells parts points t) : parts ≠ [] := by
  rintro rfl
  obtain ⟨part, hpart, -⟩ := h.mixed
  cases hpart

theorem getLast?_ne (h : Spells parts points t) (hparts : ∀ part ∈ parts, IsLoosePart part) :
    (Text.join [.scalar '.'] parts).getLast? ≠ some (.scalar '.') :=
  Text.getLast?_join_ne h.ne_nil fun part hpart =>
    ⟨(hparts part hpart).ne_nil, (hparts part hpart).point_not_mem⟩

/-- Parts that hold no points are found again where the text is cut at its points. -/
theorem splitOn_join_eq (h : Spells parts points t) (hparts : ∀ part ∈ parts, IsLoosePart part) :
    Text.splitOn '.' (Text.join [.scalar '.'] parts) = parts :=
  Text.splitOn_join h.ne_nil fun part hpart => (hparts part hpart).point_not_mem

end Spells

/-- Loose names are what is left by the three refusals of names. -/
theorem isLooseName_iff {t : Text} :
    let parts := Text.splitOn '.' (t.trimEnd (· = .scalar '.'))
    IsLooseName t ↔
      t.length ≤ maxHost ∧ parts.all isAllDigits = false ∧ parts.all isNamePart = true := by
  intro parts
  constructor
  · rintro ⟨hlength, parts', points, hspells, hparts⟩
    obtain rfl : parts = parts' := by
      calc parts = Text.splitOn '.' (t.trimEnd (· = .scalar '.')) := rfl
        _ = Text.splitOn '.' (Text.join [.scalar '.'] parts') := by
          rw [hspells.text, Text.trimEnd_append_replicate (hspells.getLast?_ne hparts)]
        _ = parts' := hspells.splitOn_join_eq hparts
    obtain ⟨part, hpart, hmixed⟩ := hspells.mixed
    refine ⟨hlength, List.all_eq_false.2 ⟨part, hpart, ?_⟩, List.all_eq_true.2 fun part hpart => ?_⟩
    · rwa [Bool.not_eq_true, (hparts part hpart).isAllDigits_eq_false_iff]
    · exact isNamePart_iff.2 (hparts part hpart)
  · rintro ⟨hlength, hdigits, hnames⟩
    have hparts : ∀ part ∈ parts, IsLoosePart part := fun part hpart =>
      isNamePart_iff.1 (List.all_eq_true.1 hnames part hpart)
    obtain ⟨points, ht⟩ := Text.exists_eq_trimEnd_append (.scalar '.') t
    obtain ⟨part, hpart, hmixed⟩ := List.all_eq_false.1 hdigits
    rw [Bool.not_eq_true, (hparts part hpart).isAllDigits_eq_false_iff] at hmixed
    have hspells : Spells parts points t := ⟨by rwa [Text.join_splitOn], part, hpart, hmixed⟩
    exact ⟨hlength, parts, points, hspells, hparts⟩

/-- **What is read as a host**: addresses and loose names, without the blanks around them. -/
theorem readHost_eq_ok_iff {t host : Text} :
    readHost t = .ok host ↔ host = t.strip ∧ (isIpAddress host = true ∨ IsLooseName host) := by
  constructor
  · intro h
    simp only [readHost] at h
    split at h
    next => cases h
    split at h
    next hip => exact ⟨(Except.ok.inj h).symm, .inl (Except.ok.inj h ▸ hip)⟩
    split at h
    next => cases h
    next hlength =>
    split at h
    next => cases h
    next hdigits =>
    split at h
    next => cases h
    next hnames =>
    have hname : IsLooseName t.strip := isLooseName_iff.2
      ⟨Nat.not_lt.1 hlength, by simpa only [Bool.not_eq_true] using hdigits, by simpa using hnames⟩
    exact ⟨(Except.ok.inj h).symm, .inr (Except.ok.inj h ▸ hname)⟩
  · rintro ⟨rfl, h⟩
    have hempty : t.strip.isEmpty = false := by
      cases ht : t.strip with
      | cons c rest => rfl
      | nil =>
        rw [ht] at h
        rcases h with h | h
        · cases h
        · obtain ⟨-, -, hnames⟩ := isLooseName_iff.1 h
          exact absurd hnames (by decide)
    cases hip : isIpAddress t.strip with
    | true => simp [readHost, hempty, hip]
    | false =>
      obtain ⟨hlength, hdigits, hnames⟩ := isLooseName_iff.1 (h.resolve_left (by simp [hip]))
      simp only [readHost, hempty, hip, hdigits, hnames]
      simp [Nat.not_lt.2 hlength]

/-- Every refusal is that of an address. -/
theorem kind_of_readHost {t : Text} {p : AddressProblem} (h : readHost t = .error p) :
    p.fault.kind = .address := by
  simp [AddressProblem.fault, isShowable_of_readHost h]

/-! ## Loose names and host names -/

namespace IsHostName

variable {t : Text}

theorem isLooseName (h : IsHostName t) : IsLooseName t := by
  obtain ⟨hlength, parts, points, hspells, hparts, -⟩ := h
  exact ⟨hlength, parts, points, hspells, fun part hpart => .inl (hparts part hpart)⟩

/-- What is in a host name is a point or may stand in a part of it. -/
theorem sign_of_mem (h : IsHostName t) {c : CodePoint} (hc : c ∈ t) :
    c = .scalar '.' ∨ IsHostSign c := by
  obtain ⟨-, parts, points, hspells, hparts, -⟩ := h
  rw [hspells.text] at hc
  rcases List.mem_append.1 hc with hjoin | htail
  · rcases Text.mem_join hjoin with hpoint | ⟨part, hpart, hsign⟩
    · exact .inl (List.mem_singleton.1 hpoint)
    · exact .inr ((hparts part hpart).signs c hsign)
  · exact .inl (List.mem_replicate.1 htail).2

theorem isBlank_eq_false (h : IsHostName t) {c : CodePoint} (hc : c ∈ t) : c.isBlank = false := by
  rcases h.sign_of_mem hc with rfl | hsign
  · decide
  · exact hsign.isBlank_eq_false

theorem nil_not_mem_splitOn (h : IsHostName t) : [] ∉ Text.splitOn '.' (dropFinalPoint t) := by
  obtain ⟨-, parts, points, hspells, hparts, hpoints⟩ := h
  have hloose : ∀ part ∈ parts, IsLoosePart part := fun part hpart => .inl (hparts part hpart)
  have hlast := hspells.getLast?_ne hloose
  have hdrop : dropFinalPoint t = Text.join [.scalar '.'] parts := by
    rw [hspells.text, dropFinalPoint]
    rcases Nat.le_one_iff_eq_zero_or_eq_one.1 hpoints with rfl | rfl
    · simp [hlast]
    · simp
  rw [hdrop, hspells.splitOn_join_eq hloose]
  exact fun hempty => (hloose [] hempty).ne_nil rfl

end IsHostName

/-- **A loose name is a host name** if it holds no line feed and does not end with two points. -/
theorem IsLooseName.isHostName_iff {t : Text} (h : IsLooseName t) :
    IsHostName t ↔ .scalar '\n' ∉ t ∧ ¬ [.scalar '.', .scalar '.'] <:+ t := by
  constructor
  · intro hname
    constructor
    · intro hline
      rcases hname.sign_of_mem hline with heq | hsign
      · exact absurd heq (by decide)
      · exact hsign.ne_lineFeed rfl
    · obtain ⟨-, parts, points, hspells, hparts, hpoints⟩ := hname
      rw [hspells.text, Text.pair_suffix_append_replicate_iff
        (hspells.getLast?_ne fun part hpart => .inl (hparts part hpart))]
      omega
  · rintro ⟨hline, hpoints⟩
    obtain ⟨hlength, parts, points, hspells, hparts⟩ := h
    rw [hspells.text, Text.pair_suffix_append_replicate_iff (hspells.getLast?_ne hparts)] at hpoints
    refine ⟨hlength, parts, points, hspells, fun part hpart => ?_, by omega⟩
    refine (hparts part hpart).isHostPart fun hmem => hline ?_
    rw [hspells.text]
    exact List.mem_append_left _ (Text.mem_join_of_mem hpart hmem)

/-- **When a text is read as the host it is.** Without the blanks at its ends it has to be an
address, or to be refused, or to have neither a line feed in it nor two points at its end. -/
theorem readsHost_iff (t : Text) :
    ReadsHost t ↔ isIpAddress t.strip = true ∨ ¬ IsLooseName t.strip ∨
      (.scalar '\n' ∉ t.strip ∧ ¬ [.scalar '.', .scalar '.'] <:+ t.strip) := by
  constructor
  · intro h
    by_cases hip : isIpAddress t.strip = true
    · exact .inl hip
    by_cases hloose : IsLooseName t.strip
    · refine .inr (.inr (hloose.isHostName_iff.1 ?_))
      by_cases hname : IsHostName t.strip
      · exact hname
      · -- It is read, and what is no host would have been refused.
        have hread : readHost t = .ok t.strip := readHost_eq_ok_iff.2 ⟨rfl, .inr hloose⟩
        obtain ⟨p, hp, -⟩ := h.refuses (not_or.2 ⟨hip, hname⟩)
        rw [hread] at hp
        cases hp
    · exact .inr (.inl hloose)
  · intro h
    have hname (hip : ¬ isIpAddress t.strip = true) (hloose : IsLooseName t.strip) :
        IsHostName t.strip :=
      hloose.isHostName_iff.2 ((h.resolve_left hip).resolve_left (not_not_intro hloose))
    constructor
    · exact fun hhost => readHost_eq_ok_iff.2 ⟨rfl, hhost.imp_right IsHostName.isLooseName⟩
    · intro hno
      obtain ⟨hip, hnone⟩ := not_or.1 hno
      cases hread : readHost t with
      | error p => exact ⟨p, rfl, kind_of_readHost hread⟩
      | ok host =>
        obtain ⟨rfl, hip' | hloose⟩ := readHost_eq_ok_iff.1 hread
        · exact absurd hip' hip
        · exact absurd (hname hip hloose) hnone
    · intro host hread hip
      obtain ⟨rfl, hip' | hloose⟩ := readHost_eq_ok_iff.1 hread
      · rw [hip] at hip'
        cases hip'
      · have hhost := hname (by simp [hip]) hloose
        exact ⟨fun c hc => hhost.isBlank_eq_false hc, hhost.nil_not_mem_splitOn⟩

/-- **A name with a line feed after a part of it is read as a host**, and so is one with two points
at its end. -/
theorem reads_broken_names :
    (readHost "a\n.b" = .ok "a\n.b" ∧ ¬ ReadsHost "a\n.b") ∧
      readHost "a.." = .ok "a.." ∧ ¬ ReadsHost "a.." := by
  have hline : readHost "a\n.b" = .ok "a\n.b" := by rfl
  have hpoints : readHost "a.." = .ok "a.." := by rfl
  refine ⟨⟨hline, fun h => ?_⟩, hpoints, fun h => ?_⟩
  · exact absurd (h.clean _ hline (by rfl)).1 (by decide)
  · exact absurd (h.clean _ hpoints (by rfl)).2 (by decide)

end Address

end LabelPress
