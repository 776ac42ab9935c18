import LabelPress.Json.Reader
import LabelPress.Proofs.Value.Table

/-!
# What data texts hold

The reader keeps values in three places while it goes through the tokens: in the tokens to come, in
the goal, and in the frames. Every step only moves them from one to another or puts them into a list or
a table, so a property that all of this passes on is had by what is read (`IsPassedOn`). Two are of
interest. A whole number is read only if it has no more digits than it may have, so what a data text
holds can always be shown; and a name that comes twice in a table is kept once.
-/

namespace LabelPress

/-! ## Numbers and their digits -/

namespace Text

theorem toNatBase?_lt {t : Text} {n : Nat} (h : toNatBase? 10 t = some n) :
    n < Nat.pow 10 t.length := by
  have hfrom : ∀ (t : Text) (start n : Nat),
      (t.foldlM (fun acc c => c.hexDigit?.bind fun d =>
        if d < 10 then some (acc * 10 + d) else none) start) = some n →
      n < (start + 1) * 10 ^ t.length := by
    intro t
    induction t with
    | nil =>
      intro start n h
      obtain rfl := Option.some.inj h
      simp
    | cons c t ih =>
      intro start n h
      simp only [List.foldlM_cons, Option.bind_eq_bind, Option.bind_eq_some_iff] at h
      obtain ⟨next, ⟨d, -, hnext⟩, h⟩ := h
      split at hnext
      next hd =>
        obtain rfl := Option.some.inj hnext
        have hstep : start * 10 + d + 1 ≤ (start + 1) * 10 := by omega
        calc n < (start * 10 + d + 1) * 10 ^ t.length := ih _ _ h
          _ ≤ (start + 1) * 10 * 10 ^ t.length := Nat.mul_le_mul_right _ hstep
          _ = (start + 1) * 10 ^ (c :: t).length := by
            rw [List.length_cons, Nat.pow_succ, Nat.mul_assoc, Nat.mul_comm 10]
      next => cases hnext
  simpa using hfrom t 0 n h

end Text

namespace Digits

theorem value_lt (t : Text) : value t < Nat.pow 10 t.length := by
  unfold value
  cases h : t.toNatBase? 10 with
  | none => exact Nat.pow_pos (by decide)
  | some n => exact Text.toNatBase?_lt h

/-- A whole number of no more digits than it may have can be written. -/
theorem fits_of_length_le {t : Text} (h : t.length ≤ limit) (negative : Bool) :
    fits (signed negative (value t)) = true := by
  have habs : (signed negative (value t)).natAbs = value t := by
    cases negative <;> simp [signed]
  have hpow : 10 ^ t.length ≤ 10 ^ limit := Nat.pow_le_pow_right (by decide) h
  have hlt : value t < 10 ^ t.length := value_lt t
  simp only [fits, decide_eq_true_eq, Nat.pow_eq, habs]
  omega

end Digits

namespace Table

/-- A table with one more value that can be shown can be shown if it could before. -/
theorem entriesShowable_put {entries : Table} {name : Text} {v : Value}
    (h : Value.entriesShowable entries = true) (hv : v.isShowable = true) :
    Value.entriesShowable (entries.put name v) = true := by
  induction entries with
  | nil => simp [put, Value.entriesShowable, hv]
  | cons e entries ih =>
    obtain ⟨n, w⟩ := e
    simp only [Value.entriesShowable, Bool.and_eq_true] at h
    unfold put
    split
    · simp [Value.entriesShowable, hv, h.2]
    · simp [Value.entriesShowable, h.1, ih h.2]

end Table

namespace Json

/-! ## Tokens -/

/-- Whether a value is one that a literal can stand for. -/
def isLiteral : Value → Bool
  | .null | .bool _ | .float _ => true
  | .int n => Digits.fits n
  | _ => false

/-- Whether a token has a value only as a literal has. -/
def Token.isPlain : Token → Bool
  | .literal v => isLiteral v
  | _ => true

theorem isPlain_of_scanNumber? {negative : Bool} {t : Text} {token : Token} {taken : Nat}
    (h : scanNumber? negative t = some (token, taken)) : token.isPlain = true := by
  unfold scanNumber? at h
  dsimp only at h
  split at h
  · cases h
  · split at h
    · split at h
      · cases h
        rfl
      · next hlimit =>
        cases h
        exact Digits.fits_of_length_le (Nat.le_of_not_lt hlimit) negative
    · cases h
      rfl
    · cases h
      rfl

theorem isPlain_of_word? {t : Text} {token : Token} {taken : Nat}
    (h : word? t = some (token, taken)) : token.isPlain = true := by
  have hwords : ∀ p ∈ words, isLiteral p.2 = true := by
    simp [words, isLiteral]
  obtain ⟨p, hp, heq⟩ := Option.map_eq_some_iff.1 h
  cases heq
  exact hwords p (List.mem_of_find?_eq_some hp)

/-- **The value of a token is that of a literal**, whatever the text that it is at the front of. -/
theorem isPlain_front (place : Nat) (c : CodePoint) (rest : Text) :
    (front place c rest).1.isPlain = true := by
  have hread (number : Option (Token × Nat)) (h : ∀ p, number = some p → p.1.isPlain = true) :
      (((word? (c :: rest)).or number).getD (.stray, 1)).1.isPlain = true := by
    cases hor : (word? (c :: rest)).or number with
    | none => rfl
    | some p =>
      rcases Option.or_eq_some_iff.1 hor with hword | ⟨-, hnumber⟩
      · exact isPlain_of_word? hword
      · exact h p hnumber
  unfold front
  repeat' split
  all_goals try rfl
  · refine hread _ fun p hp => ?_
    obtain ⟨q, hq, rfl⟩ := Option.map_eq_some_iff.1 hp
    exact isPlain_of_scanNumber? hq
  · exact hread _ fun p hp => isPlain_of_scanNumber? hp

theorem isPlain_of_mem_tokensFrom {t : Text} {skip place : Nat} :
    ∀ p ∈ tokensFrom skip place t, p.2.isPlain = true := by
  induction t generalizing skip place with
  | nil => cases skip <;> exact nofun
  | cons c t ih =>
    cases skip with
    | succ skip => exact ih
    | zero =>
      unfold tokensFrom
      split
      · exact ih
      · exact List.forall_mem_cons.2 ⟨isPlain_front place c t, ih⟩

/-! ## Readings -/

/-- What the reader passes on: texts and literals have it, and so have lists of values that have it,
and the tables that such values are put into one after the other. -/
structure IsPassedOn (P : Value → Prop) : Prop where
  text : ∀ t, P (.text t)
  literal : ∀ v, isLiteral v = true → P v
  list : ∀ items : List Value, (∀ v ∈ items, P v) → P (.list items)
  empty : P (.table [])
  put : ∀ (entries : Table) (name : Text) (v : Value), P (.table entries) → P v →
    P (.table (entries.put name v))

section Readings

variable {P : Value → Prop} {token : Token} {tokens : List (Nat × Token)} {goal : Goal}
  {frames : List Frame} {v : Value}

/-- Whether what a frame keeps has a property. -/
def Frame.Keeps (P : Value → Prop) : Frame → Prop
  | .list items => ∀ v ∈ items, P v
  | .table entries _ => P (.table entries)

/-- Whether what a goal keeps has a property. -/
def Goal.Keeps (P : Value → Prop) : Goal → Prop
  | .name entries | .colon entries _ => P (.table entries)
  | .next v => P v
  | _ => True

theorem IsPassedOn.of_openValue? (hP : IsPassedOn P) (htoken : token.isPlain = true)
    (h : openValue? token = some (.inl v)) : P v := by
  cases token <;> cases h
  · exact hP.text _
  · exact hP.literal _ htoken

theorem keeps_of_openValue? (h : openValue? token = some (.inr goal)) : goal.Keeps P := by
  cases token <;> cases h <;> trivial

/-- **What is read has what all that is kept on the way has.** -/
theorem IsPassedOn.of_readTokens (hP : IsPassedOn P) {finish : Nat}
    (htokens : ∀ p ∈ tokens, p.2.isPlain = true) (hgoal : goal.Keeps P)
    (hframes : ∀ f ∈ frames, f.Keeps P) (h : readTokens finish tokens goal frames = .ok v) : P v := by
  fun_induction readTokens finish tokens goal frames
  all_goals try cases h
  all_goals try simp only [List.forall_mem_cons] at htokens hframes
  case case1.refl => exact hgoal
  -- A value or what it opens, where a value is expected.
  case case8 hopen ih => exact ih htokens.2 (hP.of_openValue? htokens.1 hopen) hframes h
  case case9 hopen ih => exact ih htokens.2 (keeps_of_openValue? hopen) hframes h
  -- The same in a list just opened, or its end.
  case case11 ih => exact ih htokens.2 (hP.list [] nofun) hframes h
  case case12 hopen ih =>
    exact ih htokens.2 (hP.of_openValue? htokens.1 hopen) (List.forall_mem_cons.2 ⟨nofun, hframes⟩) h
  case case13 hopen ih =>
    exact ih htokens.2 (keeps_of_openValue? hopen) (List.forall_mem_cons.2 ⟨nofun, hframes⟩) h
  -- The end of a table just opened, or a name and its colon.
  case case15 ih => exact ih htokens.2 hP.empty hframes h
  case case16 ih => exact ih htokens.2 hP.empty hframes h
  case case18 ih => exact ih htokens.2 hgoal hframes h
  case case20 ih => exact ih htokens.2 trivial (List.forall_mem_cons.2 ⟨hgoal, hframes⟩) h
  -- A value taken by the list or table that it is in.
  case case23 ih =>
    have hitems : ∀ w ∈ _ :: _, P w := List.forall_mem_cons.2 ⟨hgoal, hframes.1⟩
    exact ih htokens.2 trivial (List.forall_mem_cons.2 ⟨hitems, hframes.2⟩) h
  case case24 ih =>
    have hitems : ∀ w ∈ _ :: _, P w := List.forall_mem_cons.2 ⟨hgoal, hframes.1⟩
    exact ih htokens.2 (hP.list _ fun w hw => hitems w (List.mem_reverse.1 hw)) hframes.2 h
  case case26 ih => exact ih htokens.2 (hP.put _ _ _ hframes.1 hgoal) hframes.2 h
  case case27 ih => exact ih htokens.2 (hP.put _ _ _ hframes.1 hgoal) hframes.2 h

/-- **What a data text holds has all that the reader passes on.** -/
theorem IsPassedOn.of_read (hP : IsPassedOn P) {t : Text} (h : read t = .ok v) : P v := by
  unfold read at h
  split at h
  · cases h
  · have hvalue : Goal.value.Keeps P := trivial
    exact hP.of_readTokens isPlain_of_mem_tokensFrom hvalue (List.forall_mem_nil _) h

theorem isPassedOn_isShowable : IsPassedOn (·.isShowable = true) where
  text _ := rfl
  literal v hv := by cases v <;> simp_all [isLiteral, Value.isShowable]
  list _ := Value.areShowable_iff.2
  empty := rfl
  put _ _ _ := Table.entriesShowable_put

theorem isPassedOn_hasDistinctNames : IsPassedOn (·.hasDistinctNames = true) where
  text _ := rfl
  literal v hv := by cases v <;> simp_all [isLiteral, Value.hasDistinctNames]
  list _ := Value.itemsHaveDistinctNames_iff.2
  empty := rfl
  put _ _ _ := Value.hasDistinctNames_put

/-- **What a data text holds can be shown.** -/
theorem isShowable_of_read {t : Text} (h : read t = .ok v) : v.isShowable = true :=
  isPassedOn_isShowable.of_read h

/-- **What a data text holds has no name twice in any table.** -/
theorem hasDistinctNames_of_read {t : Text} (h : read t = .ok v) : v.hasDistinctNames = true :=
  isPassedOn_hasDistinctNames.of_read h

end Readings

end Json

end LabelPress
