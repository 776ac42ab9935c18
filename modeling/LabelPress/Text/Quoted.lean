import LabelPress.Text.Printable

/-!
# Quoted texts

The form in which messages show a text: between quotes, with everything that would not be seen
written as an escape. Single quotes are preferred; double quotes are taken only where they save
an escape.
-/

namespace LabelPress

namespace Text

/-- The quote to put around a text: double only if the text holds single quotes and no double. -/
def quoteMark (t : Text) : CodePoint := if t.has '\'' && !t.has '"' then '"' else '\''

/-- A code point as it stands between quotes: the quote and the backslash after a backslash,
line feed, return and tab by letter, other unprintable code points by number. -/
def escapeQuoted (mark c : CodePoint) : Text :=
  if c = mark ∨ c = .scalar '\\' then ['\\', c]
  else if c = .scalar '\n' then "\\n"
  else if c = .scalar '\r' then "\\r"
  else if c = .scalar '\t' then "\\t"
  else if c.isPrintable then [c]
  else if c.value < 0x100 then "\\x" ++ hex 2 c.value
  else if c.value < 0x10000 then "\\u" ++ hex 4 c.value
  else "\\U" ++ hex 8 c.value

/-- A text between quotes. -/
def quoted (t : Text) : Text :=
  let mark := quoteMark t
  [mark] ++ t.flatMap (escapeQuoted mark) ++ [mark]

example : quoted "it's" = ofString "\"it's\"" := by decide

example : quoted "a'b\"\\\n\x07" = ofString "'a\\'b\"\\\\\\n\\x07'" := by decide

end Text

end LabelPress
