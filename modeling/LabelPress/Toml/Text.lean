import LabelPress.Text.Basic

/-!
# Keys and texts in settings files

The parts of a settings text that stand for names and texts: bare and quoted keys, texts between
double quotes with escapes, literal texts between single quotes, and the forms of both that go
over several lines. Each reader takes what stands at the front of a text and gives what follows
it; what is malformed has no reading.
-/

namespace LabelPress

namespace Toml

/-- Whether a code point separates words on a line. -/
def isBlank (c : CodePoint) : Bool := c = .scalar ' ' || c = .scalar '\t'

/-- Whether a code point is a control character that may not stand in a file as it is; a line feed
may stand between lines only. -/
def isForbidden (lines : Bool) (c : CodePoint) : Bool :=
  (c.value < 0x20 && c != .scalar '\t' && !(lines && c = .scalar '\n')) || c.value = 0x7F

/-- A text without the blanks at its front. -/
def skipBlanks (t : Text) : Text := t.dropWhile isBlank

/-- Goes past a comment at the front of a text, up to the end of its line. -/
def skipComment? (t : Text) : Option Text :=
  match t with
  | .scalar '#' :: t =>
    if (t.takeWhile (· != .scalar '\n')).any (isForbidden false) then none
    else some (t.dropWhile (· != .scalar '\n'))
  | t => some t

/-! ## Texts between double quotes -/

/-- The code point that a letter after a backslash stands for. -/
def letterEscape? : CodePoint → Option CodePoint
  | .scalar 'b' => some '\x08'
  | .scalar 't' => some '\t'
  | .scalar 'n' => some '\n'
  | .scalar 'f' => some '\x0c'
  | .scalar 'r' => some '\r'
  | .scalar '"' => some '"'
  | .scalar '\\' => some '\\'
  | _ => none

/-- The scalar value that a number of hexadecimal digits at the front of a text writes. -/
def hexEscape? (width : Nat) (t : Text) : Option (CodePoint × Text) := do
  let digits := t.take width
  if digits.length < width then none
  let n ← Text.toNatBase? 16 digits
  if 0x110000 ≤ n ∨ ¬ (CodePoint.ofNat n).isScalar then none
  return (.ofNat n, t.drop width)

/-- What a backslash stands for, and what follows it. Before the end of a line it stands for
nothing, and takes the blanks and line ends after it with it. -/
def escape? (lines : Bool) (t : Text) : Option (Text × Text) :=
  match t with
  | [] => none
  | c :: rest =>
    if lines ∧ (isBlank c ∨ c = .scalar '\n') then
      match skipBlanks t with
      | [] => some ([], [])
      | c :: rest =>
        if c = .scalar '\n' then
          some ([], rest.dropWhile fun c => isBlank c || c = .scalar '\n')
        else none
    else if c = .scalar 'u' then (hexEscape? 4 rest).map fun (c, rest) => ([c], rest)
    else if c = .scalar 'U' then (hexEscape? 8 rest).map fun (c, rest) => ([c], rest)
    else (letterEscape? c).map fun c => ([c], rest)

/-- Reads a text up to its closing quotes, of which there are three if it goes over lines, in at
most so many steps. -/
def quotedBody? (lines : Bool) : (steps : Nat) → Text → Option (Text × Text)
  | 0, _ => none
  | _ + 1, [] => none
  | steps + 1, c :: rest =>
    if c = .scalar '"' ∧ ¬ lines then some ([], rest)
    else if c = .scalar '"' ∧ rest.take 2 = [.scalar '"', .scalar '"'] then some ([], rest.drop 2)
    else if c = .scalar '\\' then do
      let (piece, rest) ← escape? lines rest
      let (body, rest) ← quotedBody? lines steps rest
      return (piece ++ body, rest)
    else if isForbidden lines c then none
    else do
      let (body, rest) ← quotedBody? lines steps rest
      return (c :: body, rest)

/-- Reads a text after its opening quotes. -/
def quoted? (lines : Bool) (t : Text) : Option (Text × Text) := quotedBody? lines (t.length + 1) t

/-! ## Literal texts -/

/-- Reads a literal text on one line after its opening quote. -/
def literal? (t : Text) : Option (Text × Text) :=
  let body := t.takeWhile (· != .scalar '\'')
  match t.dropWhile (· != .scalar '\'') with
  | [] => none
  | _ :: rest => if body.any (isForbidden false) then none else some (body, rest)

/-- Reads a literal text over lines after its opening quotes. -/
def literalLines? : Text → Option (Text × Text)
  | [] => none
  | .scalar '\'' :: .scalar '\'' :: .scalar '\'' :: rest => some ([], rest)
  | c :: rest =>
    if isForbidden true c then none
    else (literalLines? rest).map fun (body, rest) => (c :: body, rest)

/-- Up to two quotes of a kind that stand right after the three closing ones belong to the text. -/
def extraQuotes (quote : CodePoint) (body rest : Text) : Text × Text :=
  let extra := (rest.take 2).takeWhile (· = quote)
  (body ++ extra, rest.drop extra.length)

/-- A text without a line feed at its front. -/
def dropLineFeed (t : Text) : Text :=
  match t with
  | .scalar '\n' :: t => t
  | t => t

/-- Reads a text of any form after its first quote. -/
def text? (quote : CodePoint) (t : Text) : Option (Text × Text) :=
  let lines := t.take 2 = [quote, quote]
  let isLiteral := quote = .scalar '\''
  if lines then
    let body := dropLineFeed (t.drop 2)
    (if isLiteral then literalLines? body else quoted? true body).map fun (body, rest) =>
      extraQuotes quote body rest
  else if isLiteral then literal? t
  else quoted? false t

/-! ## Keys -/

/-- Whether a code point may stand in a bare key. -/
def isBare (c : CodePoint) : Bool :=
  match c with
  | .scalar c => c.isAlphanum || c = '-' || c = '_'
  | .lone _ => false

/-- Reads one part of a key. -/
def keyPart? (t : Text) : Option (Text × Text) :=
  match t with
  | .scalar '\'' :: rest => literal? rest
  | .scalar '"' :: rest => quoted? false rest
  | t =>
    let part := t.takeWhile isBare
    if part.isEmpty then none else some (part, t.dropWhile isBare)

/-- A key: its parts in order. -/
abbrev Key := List Text

/-- Reads the parts of a key with points and blanks between them, in at most so many steps, and the
blanks after it. -/
def keyParts? : (steps : Nat) → Text → Option (Key × Text)
  | 0, _ => none
  | steps + 1, t => do
    let (part, rest) ← keyPart? t
    match skipBlanks rest with
    | .scalar '.' :: rest =>
      let (parts, rest) ← keyParts? steps (skipBlanks rest)
      return (part :: parts, rest)
    | rest => return ([part], rest)

/-- Reads a key and the blanks after it. -/
def key? (t : Text) : Option (Key × Text) := keyParts? (t.length + 1) t

end Toml

end LabelPress
