import LabelPress.Json.Reader
import LabelPress.Proofs.Json.Token

/-!
# Line ends in data texts

The tokens of a text are those of its lines, one line after the other, up to the first flaw. What the
line ends are made of is no part of that, and neither is where a token stands, as long as it has no flaw
to be told of. So a text that is read from a file, with line feeds for all line ends, holds what it
holds as it is (`read_foldNewlines`).
-/

namespace LabelPress

namespace Json

variable {s u : Text} {start place place' : Nat}

/-! ## Outlines -/

/-- Some tokens up to the first that has a flaw, with what follows them if none has one. -/
def outline (tokens : List (Nat × Token)) (more : List (Option Token)) : List (Option Token) :=
  match tokens with
  | [] => more
  | (_, token) :: tokens =>
    match token.sound? with
    | some token => some token :: outline tokens more
    | none => [none]

theorem outline_cons {p q : Nat × Token} {tokens tokens' : List (Nat × Token)}
    {more more' : List (Option Token)} (h : p.2.sound? = q.2.sound?)
    (htokens : outline tokens more = outline tokens' more') :
    outline (p :: tokens) more = outline (q :: tokens') more' := by
  rw [outline, outline, h]
  cases q.2.sound? with
  | none => rfl
  | some token => exact congrArg (some token :: ·) htokens

theorem tokensFrom_space {c : CodePoint} (hc : isSpace c = true) (place : Nat) (rest : Text) :
    tokensFrom 0 place (c :: rest) = tokensFrom 0 (place + 1) rest := by
  rw [tokensFrom, if_pos hc]

theorem tokensFrom_token {c : CodePoint} (hc : ¬ isSpace c = true) (place : Nat) (rest : Text) :
    tokensFrom 0 place (c :: rest) = (place, (front place c rest).1) ::
      tokensFrom ((front place c rest).2 - 1) (place + 1) rest := by
  rw [tokensFrom, if_neg hc]

/-- Two texts with the same first code point have the same tokens if the tokens at their fronts are the
same and so are all others, however much of the rest belongs to the first. -/
theorem outline_tokensFrom_cons {c : CodePoint} {t t' : Text} {more more' : List (Option Token)}
    (hfront : (front place c t).map Token.sound? id = (front place' c t').map Token.sound? id)
    (hrest : ∀ skip ≤ (front place' c t').2 - 1, outline (tokensFrom skip (place + 1) t) more =
      outline (tokensFrom skip (place' + 1) t') more') :
    outline (tokensFrom 0 place (c :: t)) more = outline (tokensFrom 0 place' (c :: t')) more' := by
  by_cases hc : isSpace c = true
  · rw [tokensFrom_space hc, tokensFrom_space hc]
    exact hrest 0 (Nat.zero_le _)
  · obtain ⟨htoken, htaken : (front place c t).2 = (front place' c t').2⟩ := Prod.mk.inj hfront
    rw [tokensFrom_token hc, tokensFrom_token hc, htaken]
    exact outline_cons htoken (hrest _ (Nat.le_refl _))

/-- Where a text starts makes no difference to its tokens. -/
theorem outline_tokensFrom_place (skip place place' : Nat) (t : Text) (more : List (Option Token)) :
    outline (tokensFrom skip place t) more = outline (tokensFrom skip place' t) more := by
  induction t generalizing skip place place' with
  | nil => cases skip <;> rfl
  | cons c t ih =>
    cases skip with
    | succ skip => exact ih skip _ _
    | zero =>
      have hfront := front_append place place' t .nil c
      rw [List.append_nil] at hfront
      exact outline_tokensFrom_cons hfront fun skip _ => ih skip _ _

/-- **The tokens of a text come line by line.** -/
theorem outline_tokensFrom_append (hs : FollowsLine s) {skip : Nat} (hskip : skip ≤ u.length)
    (more : List (Option Token)) :
    outline (tokensFrom skip place (u ++ s)) more =
      outline (tokensFrom skip place' u) (outline (tokensFrom 0 start s) more) := by
  -- What is skipped belongs to a token of the line, so that the skipping ends with the line.
  induction u generalizing skip place place' with
  | nil =>
    obtain rfl : skip = 0 := Nat.le_zero.1 hskip
    exact outline_tokensFrom_place 0 _ _ s more
  | cons c u ih =>
    rw [List.cons_append]
    cases skip with
    | succ skip => exact ih (Nat.le_of_succ_le_succ hskip)
    | zero =>
      refine outline_tokensFrom_cons (front_append place place' u hs c) fun skip hskip => ih ?_
      exact Nat.le_trans hskip (Nat.sub_le_of_le_add (taken_front_le place' c u))

theorem outline_tokens_line {c : CodePoint} (hc : c = .scalar '\n' ∨ c = .scalar '\r') (u t : Text) :
    outline (tokens (u ++ c :: t)) [] = outline (tokens u) (outline (tokens t) []) := by
  have hs : FollowsLine (c :: t) := by
    rcases hc with rfl | rfl
    · exact .feed t
    · exact .carriage t
  have hspace : isSpace c = true := by rcases hc with rfl | rfl <;> rfl
  have hrest : outline (tokensFrom 0 0 (c :: t)) [] = outline (tokens t) [] := by
    rw [tokensFrom_space hspace]
    exact outline_tokensFrom_place 0 1 0 t []
  rw [tokens, outline_tokensFrom_append hs (Nat.zero_le _), hrest]
  rfl

/-- **The tokens of a text are the same with line feeds for all line ends.** -/
theorem outline_tokens_foldNewlines (u t : Text) :
    outline (tokens (u ++ t.foldNewlines)) [] = outline (tokens (u ++ t)) [] := by
  fun_induction Text.foldNewlines t generalizing u with
  | case1 => rfl
  | case2 t ih =>
    have hfeed : outline (tokens (.scalar '\n' :: t)) [] = outline (tokens t) [] :=
      outline_tokens_line (.inl rfl) [] t
    rw [outline_tokens_line (.inl rfl), outline_tokens_line (.inr rfl), hfeed]
    exact congrArg _ (ih [])
  | case3 c t _ ih =>
    by_cases hc : c = .scalar '\r'
    · rw [if_pos hc, outline_tokens_line (.inl rfl), outline_tokens_line (.inr hc)]
      exact congrArg _ (ih [])
    · rw [if_neg hc, List.append_cons u c (Text.foldNewlines t), List.append_cons u c t]
      exact ih (u ++ [c])

/-! ## Readings -/

/-- How many digits a number has that is too long, if that is the problem. -/
def Problem.digits? : Problem → Option Nat
  | .malformed .. => none
  | .longInt digits => some digits

theorem outline_eq_nil {tokens : List (Nat × Token)} (h : outline tokens [] = []) : tokens = [] := by
  cases tokens with
  | nil => rfl
  | cons p tokens =>
    rw [outline] at h
    split at h <;> cases h

/-- Where two outlines agree, both have a flaw, or the same token and the same outlines after it. -/
theorem of_outline_cons_eq {p q : Nat × Token} {tokens tokens' : List (Nat × Token)}
    (h : outline (p :: tokens) [] = outline (q :: tokens') []) :
    p.2.sound? = none ∧ q.2.sound? = none ∨ p.2 = q.2 ∧ outline tokens [] = outline tokens' [] := by
  have hself {token other : Token} (h : token.sound? = some other) : token = other := by
    cases token <;> cases h <;> rfl
  rw [outline, outline] at h
  cases hp : p.2.sound? with
  | none =>
    cases hq : q.2.sound? with
    | none => exact .inl ⟨rfl, rfl⟩
    | some u =>
      rw [hp, hq] at h
      cases (List.cons.inj h).1
  | some t =>
    cases hq : q.2.sound? with
    | none =>
      rw [hp, hq] at h
      cases (List.cons.inj h).1
    | some u =>
      rw [hp, hq] at h
      obtain ⟨htoken, htokens⟩ := List.cons.inj h
      refine .inr ⟨?_, htokens⟩
      rw [hself hp, hself hq, Option.some.inj htoken]

/-- A flaw makes what is read malformed, whatever was expected. -/
theorem readTokens_of_flaw {finish : Nat} {p : Nat × Token} {tokens : List (Nat × Token)}
    {goal : Goal} {frames : List Frame} (h : p.2.sound? = none) :
    (readTokens finish (p :: tokens) goal frames).mapError Problem.digits? = .error none := by
  obtain ⟨place, token⟩ := p
  cases token <;> cases h
  cases goal with
  | next v => rcases frames with _ | ⟨_ | _, frames⟩ <;> rfl
  | _ => rfl

/-- **What is read depends on the tokens up to the first flaw**, but for what is said of the flaw. -/
theorem readTokens_congr {finish finish' : Nat} {tokens tokens' : List (Nat × Token)} {goal : Goal}
    {frames : List Frame} (h : outline tokens [] = outline tokens' []) :
    (readTokens finish tokens goal frames).mapError Problem.digits? =
      (readTokens finish' tokens' goal frames).mapError Problem.digits? := by
  induction tokens generalizing tokens' goal frames with
  | nil =>
    obtain rfl : tokens' = [] := outline_eq_nil h.symm
    cases goal <;> cases frames <;> rfl
  | cons p tokens ih =>
    cases tokens' with
    | nil => cases outline_eq_nil h
    | cons q tokens' =>
      rcases of_outline_cons_eq h with ⟨hp, hq⟩ | ⟨htoken, htokens⟩
      · rw [readTokens_of_flaw hp, readTokens_of_flaw hq]
      · obtain ⟨place, token⟩ := p
        obtain ⟨place', token'⟩ := q
        obtain rfl : token = token' := htoken
        -- The same token leads to the same goal and frames, or to a complaint.
        cases goal with
        | next v =>
          rcases frames with _ | ⟨_ | _, frames⟩ <;> cases token <;>
            first | rfl | exact ih htokens
        | _ => cases token <;> first | rfl | exact ih htokens

/-- **A data text holds the same with line feeds for all line ends**, or is malformed with them as it is
without them. -/
theorem read_foldNewlines (t : Text) :
    (read t.foldNewlines).mapError Problem.digits? = (read t).mapError Problem.digits? := by
  have hmark : t.foldNewlines.head? = some (.scalar '\uFEFF') ↔ t.head? = some (.scalar '\uFEFF') := by
    fun_cases Text.foldNewlines t with
    | case1 => rfl
    | case2 t => simp
    | case3 c t => by_cases hc : c = .scalar '\r' <;> simp [hc]
  unfold read
  by_cases h : t.head? = some (.scalar '\uFEFF')
  · rw [if_pos h, if_pos (hmark.2 h)]
  · rw [if_neg h, if_neg (mt hmark.1 h)]
    exact readTokens_congr (outline_tokens_foldNewlines [] t)

/-- Whether a text is a data text. It holds a value then, unless there is too long a number in it. -/
def IsWellFormed (t : Text) : Prop := ∀ complaint place, read t ≠ .error (.malformed complaint place)

/-- **A data text is read as the same with line feeds for all line ends**, as a value or up to a number
that is too long. -/
theorem IsWellFormed.read_foldNewlines_eq {t : Text} (h : IsWellFormed t) :
    read t.foldNewlines = read t := by
  have hfold := read_foldNewlines t
  rcases hread : read t with (⟨complaint, place⟩ | digits) | v
  · exact absurd hread (h complaint place)
  all_goals
    rw [hread] at hfold
    rcases hother : read t.foldNewlines with (⟨complaint, place⟩ | digits') | w
    all_goals
      rw [hother] at hfold
      cases hfold
    rfl

theorem IsWellFormed.foldNewlines {t : Text} (h : IsWellFormed t) : IsWellFormed t.foldNewlines := by
  intro complaint place
  rw [h.read_foldNewlines_eq]
  exact h complaint place

theorem isWellFormed_of_read {t : Text} {v : Value} (h : read t = .ok v) : IsWellFormed t := by
  intro complaint place
  rw [h]
  exact nofun

end Json

end LabelPress
