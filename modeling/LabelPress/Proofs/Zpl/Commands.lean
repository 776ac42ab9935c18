import Mathlib.Data.List.Basic
import LabelPress.Proofs.Zpl.Lines

/-!
# The commands of a document

A printer reads a document as a stream of commands, each of which starts with a caret and goes on up
to the next one; a line feed belongs to the command that it stands in. In a well-formed format
(`IsFormat`) the commands that print stand in fields, and every field is closed before anything else
starts. An element is read as the same commands wherever it stands, so that a document can be taken
element by element (`commands?_render`).
-/

namespace LabelPress

namespace Zpl

/-- A command: its two letters, and what follows them up to the next command. -/
structure Command where
  code : Text
  rest : Text
  deriving DecidableEq, Repr

namespace Command

/-- The command that stands in a piece of text after a caret. -/
def ofPiece (piece : Text) : Command := ⟨piece.take 2, piece.drop 2⟩

/-- Whether a command holds the data of a field. -/
def isData (c : Command) : Bool := c.code = Text.ofString "FD"

/-- A command without the data of a field, if it holds them. -/
def erased (c : Command) : Command := if c.isData then { c with rest := [] } else c

end Command

/-- The commands of a text. A text that does not start with a command has none. -/
def commands? (t : Text) : Option (List Command) :=
  match t.splitOn '^' with
  | [] :: pieces => some (pieces.map .ofPiece)
  | _ => none

/-- The data of the fields among some commands, in order. -/
def data (cs : List Command) : List Text := (cs.filter Command.isData).map Command.rest

/-! ## Formats -/

/-- The codes of commands that stand outside of fields: the two ends of a format, the font and the
default of bar codes, and the two ends of a field. -/
def framing : List Text := ["XA", "XZ", "CF", "BY", "FO", "FS"]

/-- Whether commands are the body of a format: fonts and defaults of bar codes, and fields, each
with one command that opens it and one that closes it. All other commands stand inside a field. -/
inductive IsBody : List Command → Prop where
  | nil : IsBody []
  | setting {c : Command} {cs : List Command} (code : c.code = "CF" ∨ c.code = "BY")
      (body : IsBody cs) : IsBody (c :: cs)
  | field {start stop : Command} {inner cs : List Command} (opens : start.code = "FO")
      (inside : ∀ c ∈ inner, c.code ∉ framing) (closes : stop.code = "FS") (body : IsBody cs) :
      IsBody (start :: (inner ++ stop :: cs))

/-- Whether commands are a format: one that starts it, a body, and one that ends it, which both stand
nowhere else. -/
def IsFormat (cs : List Command) : Prop :=
  ∃ (start stop : Command) (body : List Command),
    cs = start :: (body ++ [stop]) ∧ start.code = "XA" ∧ stop.code = "XZ" ∧ IsBody body ∧
      ∀ c ∈ body, c.code ≠ "XA" ∧ c.code ≠ "XZ"

variable {cs ds : List Command}

theorem IsBody.append (h : IsBody cs) (k : IsBody ds) : IsBody (cs ++ ds) := by
  induction h with
  | nil => exact k
  | setting code _ ih => exact .setting code ih
  | field opens inside closes _ ih =>
    rw [List.cons_append, List.append_assoc, List.cons_append]
    exact .field opens inside closes ih

theorem IsBody.flatMap {α : Type} {f : α → List Command} {as : List α}
    (h : ∀ a ∈ as, IsBody (f a)) : IsBody (as.flatMap f) := by
  induction as with
  | nil => exact .nil
  | cons a as ih =>
    rw [List.flatMap_cons]
    exact (h a (.head _)).append (ih fun b hb => h b (.tail _ hb))

/-- The two ends of a format are in no body. -/
theorem IsBody.code_ne (h : IsBody cs) : ∀ c ∈ cs, c.code ≠ "XA" ∧ c.code ≠ "XZ" := by
  have hne {c : Command} {code : Text} (hc : c.code = code)
      (hcode : code ≠ Text.ofString "XA" ∧ code ≠ Text.ofString "XZ") :
      c.code ≠ "XA" ∧ c.code ≠ "XZ" := hc ▸ hcode
  induction h with
  | nil => exact List.forall_mem_nil _
  | setting code _ ih =>
    refine List.forall_mem_cons.2 ⟨?_, ih⟩
    rcases code with hcode | hcode
    · exact hne hcode (by decide)
    · exact hne hcode (by decide)
  | field opens inside closes _ ih =>
    simp only [List.forall_mem_cons, List.forall_mem_append]
    refine ⟨hne opens (by decide), fun c hc => ?_, hne closes (by decide), ih⟩
    have hframing : c.code ∉ framing := inside c hc
    simp only [framing, List.mem_cons, not_or] at hframing
    exact ⟨hframing.1, hframing.2.1⟩

@[simp] theorem data_nil : data [] = [] := rfl

@[simp] theorem data_append (cs ds : List Command) : data (cs ++ ds) = data cs ++ data ds := by
  simp [data]

theorem data_flatMap {α : Type} (f : α → List Command) (as : List α) :
    data (as.flatMap f) = as.flatMap fun a => data (f a) := by
  induction as with
  | nil => rfl
  | cons a as ih => rw [List.flatMap_cons, data_append, ih, List.flatMap_cons]

/-! ## Commands that are written -/

/-- The text of some commands. -/
def written (cs : List Command) : Text := cs.flatMap fun c => .scalar '^' :: (c.code ++ c.rest)

/-- Whether a command is read as it is written: its code has two letters, and there is no caret in
it. -/
structure Command.IsPlain (c : Command) : Prop where
  length : c.code.length = 2
  code : .scalar '^' ∉ c.code
  rest : .scalar '^' ∉ c.rest

theorem Command.IsPlain.ofPiece {c : Command} (h : c.IsPlain) : ofPiece (c.code ++ c.rest) = c := by
  have htake : (c.code ++ c.rest).take 2 = c.code := by rw [← h.length, List.take_left']; rfl
  have hdrop : (c.code ++ c.rest).drop 2 = c.rest := by rw [← h.length, List.drop_left']; rfl
  rw [Command.ofPiece, htake, hdrop]

/-- **Commands are read as they are written.** -/
theorem commands?_written (h : ∀ c ∈ cs, c.IsPlain) : commands? (written cs) = some cs := by
  have hjoin : written cs = Text.join ['^'] ([] :: cs.map fun c => c.code ++ c.rest) := by
    rw [Text.join_cons, List.nil_append, List.flatMap_map]
    rfl
  have hcaret : ∀ t ∈ [] :: cs.map fun c => c.code ++ c.rest, CodePoint.scalar '^' ∉ t := by
    refine List.forall_mem_cons.2 ⟨List.not_mem_nil, fun t ht => ?_⟩
    obtain ⟨c, hc, rfl⟩ := List.mem_map.1 ht
    rw [List.mem_append, not_or]
    exact ⟨(h c hc).code, (h c hc).rest⟩
  have hpieces : (cs.map fun c => c.code ++ c.rest).map Command.ofPiece = cs := by
    rw [List.map_map]
    exact (List.map_congr_left fun c hc => (h c hc).ofPiece).trans (List.map_id cs)
  rw [commands?, hjoin, Text.splitOn_join (List.cons_ne_nil _ _) hcaret]
  exact congrArg some hpieces

/-! ## The commands of an element -/

namespace Element

/-- Whether an element belongs between the two ends of a format. -/
def isContent : Element → Bool
  | .start | .stop | .raw _ => false
  | _ => true

/-- The command that opens a field. -/
def opening (x y : Int) : Command := ⟨"FO", Text.ofInt x ++ "," ++ Text.ofInt y⟩

/-- The command that closes a field, with the line feed after it. -/
def closing : Command := ⟨"FS", "\n"⟩

/-- The commands of an element, with the line feed after each of its lines. -/
def commands : Element → List Command
  | .start => [⟨"XA", "\n"⟩]
  | .stop => [⟨"XZ", "\n"⟩]
  | .font name height => [⟨"CF", name ++ "," ++ Text.ofInt height ++ "\n"⟩]
  | .barcodeDefaults moduleWidth ratio height =>
    [⟨"BY", numbers [moduleWidth, ratio, height] ++ "\n"⟩]
  | .field x y text reverse =>
    opening x y :: ((if reverse then [⟨"FR", []⟩] else []) ++ [⟨"FD", text⟩] ++ [closing])
  | .block x y text width lines justify =>
    opening x y :: ([⟨"FB", numbers [width, lines, 0] ++ "," ++ justify ++ ",0"⟩, ⟨"FD", text⟩]
      ++ [closing])
  | .graphic x y command =>
    ⟨"FO", Text.ofInt x ++ "," ++ Text.ofInt y ++ command⟩ :: ([] ++ [closing])
  | .circle x y parameters => opening x y :: ([⟨"GC", Text.join "," parameters⟩] ++ [closing])
  | .box x y width height thickness =>
    opening x y :: ([⟨"GB", numbers [width, height, thickness]⟩] ++ [closing])
  | .code128 x y value height =>
    opening x y :: ([⟨"BC", "N," ++ Text.ofInt height ++ ",N,N,N\n"⟩, ⟨"FD", value⟩] ++ [closing])
  | .raw _ => []

/-- The texts of an element that are the data of a field. -/
def values : Element → List Text
  | .field _ _ text _ | .block _ _ text _ _ _ | .code128 _ _ text _ => [text]
  | _ => []

/-- An element without the data of its field. -/
def blank : Element → Element
  | .field x y _ reverse => .field x y [] reverse
  | .block x y _ width lines justify => .block x y [] width lines justify
  | .code128 x y _ height => .code128 x y [] height
  | e => e

variable {e : Element}

/-- The lines of an element, each with a line feed after it, are its commands. -/
theorem written_commands (h : e.isContent = true) :
    written e.commands = e.lines.flatMap (· ++ Text.ofString "\n") := by
  cases e
  case start | stop | raw => cases h
  case field x y text reverse =>
    cases reverse <;>
      simp [commands, lines, opening, closing, origin, written, Text.ofString, Text.when]
  all_goals
    simp [commands, lines, opening, closing, origin, graphicLine, written, Text.ofString]

/-- The commands of an element are read as they are written, if there is no caret in its texts. -/
theorem isPlain_of_mem_commands (h : ∀ t ∈ e.texts, .scalar '^' ∉ t) :
    ∀ c ∈ e.commands, c.IsPlain := by
  have hcaret : CodePoint.IsReserved (.scalar '^') := .inr rfl
  have hint (n : Int) : .scalar '^' ∉ Text.ofInt n := hcaret.not_mem_ofInt n
  have hnumbers (ns : List Int) : .scalar '^' ∉ numbers ns := not_mem_numbers hcaret ns
  have hfixed (s : String) (hs : '^' ∉ s.toList) : .scalar '^' ∉ Text.ofString s := fun hmem => by
    obtain ⟨d, hd, heq⟩ := List.mem_map.1 hmem
    exact hs (CodePoint.scalar.inj heq ▸ hd)
  have hplain (s : String) (rest : Text) (hs : s.toList.length = 2 ∧ '^' ∉ s.toList) :
      Command.IsPlain ⟨Text.ofString s, rest⟩ ↔ .scalar '^' ∉ rest :=
    ⟨Command.IsPlain.rest, fun hrest => ⟨by simpa [Text.ofString] using hs.1, hfixed s hs.2, hrest⟩⟩
  have hreverse (reverse : Bool) : (∀ c ∈ (if reverse then [(⟨"FR", []⟩ : Command)] else []),
      c.IsPlain) ↔ True := by
    refine iff_true_intro ?_
    cases reverse
    · exact List.forall_mem_nil _
    · exact List.forall_mem_singleton.2 ⟨rfl, by decide, List.not_mem_nil⟩
  -- Once fixed words and numbers are passed over, only its texts are left of each command.
  cases e <;>
    simp only [texts, commands, opening, closing, List.forall_mem_cons, List.forall_mem_append,
      List.not_mem_nil, false_imp_iff, implies_true, and_true] at h ⊢ <;>
    simp (disch := decide) only [hplain, List.mem_append, not_or, hint, hfixed, hnumbers, hreverse,
      not_false_eq_true, and_true, true_and]
  case circle => exact not_mem_join hcaret h
  case block => exact h.symm
  all_goals exact h

/-- A content element is a part of a body. -/
theorem isBody_commands (h : e.isContent = true) : IsBody e.commands := by
  have hfield {inner : List Command} (x y : Int) (hinner : ∀ c ∈ inner, c.code ∉ framing) :
      IsBody (opening x y :: (inner ++ [closing])) := .field rfl hinner rfl .nil
  have hone {c : Command} (hc : c.code ∉ framing) : ∀ d ∈ [c], d.code ∉ framing :=
    List.forall_mem_singleton.2 hc
  have htwo {c d : Command} (hc : c.code ∉ framing) (hd : d.code ∉ framing) :
      ∀ e ∈ [c, d], e.code ∉ framing := List.forall_mem_cons.2 ⟨hc, hone hd⟩
  have hdata : Text.ofString "FD" ∉ framing := by decide
  cases e with
  | start | stop | raw => cases h
  | font => exact .setting (.inl rfl) .nil
  | barcodeDefaults => exact .setting (.inr rfl) .nil
  | field x y text reverse =>
    cases reverse with
    | false => exact hfield x y (hone hdata)
    | true =>
      have hmark : Text.ofString "FR" ∉ framing := by decide
      exact hfield x y (htwo hmark hdata)
  | block x y =>
    have hblock : Text.ofString "FB" ∉ framing := by decide
    exact hfield x y (htwo hblock hdata)
  | graphic => exact .field rfl (List.forall_mem_nil _) rfl .nil
  | circle x y =>
    have hcircle : Text.ofString "GC" ∉ framing := by decide
    exact hfield x y (hone hcircle)
  | box x y =>
    have hbox : Text.ofString "GB" ∉ framing := by decide
    exact hfield x y (hone hbox)
  | code128 x y =>
    have hcode : Text.ofString "BC" ∉ framing := by decide
    exact hfield x y (htwo hcode hdata)

/-- The data among the commands of an element are its texts that are. -/
theorem data_commands (e : Element) : data e.commands = e.values := by
  cases e
  case field x y text reverse => cases reverse <;> rfl
  all_goals rfl

/-- Without the data they are the commands of the element without them. -/
theorem erased_commands (e : Element) : e.commands.map Command.erased = e.blank.commands := by
  cases e
  case field x y text reverse => cases reverse <;> rfl
  all_goals rfl

end Element

/-! ## The commands of a document -/

/-- The commands of a format with some elements between its two ends. -/
def formatCommands (content : List Element) : List Command :=
  ⟨"XA", "\n"⟩ :: (content.flatMap Element.commands ++ [⟨"XZ", []⟩])

variable {content : List Element}

/-- **A document is read element by element**, if there is no caret in the texts of its elements. -/
theorem commands?_render (hcontent : ∀ e ∈ content, e.isContent = true)
    (hcaret : ∀ e ∈ content, ∀ t ∈ e.texts, .scalar '^' ∉ t) :
    commands? (render (.start :: (content ++ [.stop]))) = some (formatCommands content) := by
  have hbody : written (content.flatMap Element.commands) =
      (lines content).flatMap (· ++ Text.ofString "\n") := by
    rw [written, lines, List.flatMap_assoc, List.flatMap_assoc]
    exact List.flatMap_congr fun e he => Element.written_commands (hcontent e he)
  have hlines : lines (.start :: (content ++ [.stop])) =
      (Text.ofString "^XA" :: lines content) ++ [Text.ofString "^XZ"] := by
    simp [lines, Element.lines]
  have hwritten : render (.start :: (content ++ [.stop])) = written (formatCommands content) := by
    rw [render, hlines, Text.join_concat, List.flatMap_cons, ← hbody]
    simp [written, formatCommands, Text.ofString]
  have hplain : ∀ c ∈ formatCommands content, c.IsPlain := by
    simp only [formatCommands, List.forall_mem_cons, List.forall_mem_append]
    refine ⟨⟨rfl, by decide, by decide⟩, fun c hc => ?_, ⟨rfl, by decide, by decide⟩,
      List.forall_mem_nil _⟩
    obtain ⟨e, he, hce⟩ := List.mem_flatMap.1 hc
    exact Element.isPlain_of_mem_commands (hcaret e he) c hce
  rw [hwritten, commands?_written hplain]

/-- And what is read is a format. -/
theorem isFormat_formatCommands (h : ∀ e ∈ content, e.isContent = true) :
    IsFormat (formatCommands content) := by
  have hbody : IsBody (content.flatMap Element.commands) :=
    .flatMap fun e he => Element.isBody_commands (h e he)
  exact ⟨_, _, _, rfl, rfl, rfl, hbody, hbody.code_ne⟩

theorem data_formatCommands (content : List Element) :
    data (formatCommands content) = content.flatMap Element.values := by
  have hcontent : data (content.flatMap Element.commands) = content.flatMap Element.values := by
    rw [data_flatMap]
    exact List.flatMap_congr fun e _ => Element.data_commands e
  rw [← hcontent, formatCommands, ← List.singleton_append, data_append, data_append]
  exact List.append_nil _

theorem erased_formatCommands (content : List Element) :
    (formatCommands content).map Command.erased = formatCommands (content.map Element.blank) := by
  have hcontent : (content.flatMap Element.commands).map Command.erased =
      (content.map Element.blank).flatMap Element.commands := by
    rw [List.map_flatMap, List.flatMap_map]
    exact List.flatMap_congr fun e _ => Element.erased_commands e
  rw [formatCommands, List.map_cons, List.map_append, hcontent]
  rfl

end Zpl

end LabelPress
