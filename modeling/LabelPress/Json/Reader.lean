import LabelPress.Json.Token

/-!
# Reading data texts

A data text holds one value. The reader goes through the tokens once; a stack holds what has been
opened and not yet closed, and a goal says what may come next. Names that come twice in a table
keep the place of the first and the value of the last.
-/

namespace LabelPress

namespace Json

/-- What was expected, or found wrong, at a place. -/
inductive Complaint where
  | expectingValue
  | expectingName
  | expectingColon
  | expectingComma
  | extraData
  | byteOrderMark
  | inText (flaw : TextFlaw)
  deriving DecidableEq, Repr

/-- The wording of a complaint. -/
def Complaint.message : Complaint → Text
  | .expectingValue => "Expecting value"
  | .expectingName => "Expecting property name enclosed in double quotes"
  | .expectingColon => "Expecting ':' delimiter"
  | .expectingComma => "Expecting ',' delimiter"
  | .extraData => "Extra data"
  | .byteOrderMark => "Unexpected UTF-8 BOM (decode using utf-8-sig)"
  | .inText .unterminated => "Unterminated string starting at"
  | .inText .control => "Invalid control character at"
  | .inText .badEscape => "Invalid \\escape"
  | .inText .badNumber => "Invalid \\uXXXX escape"

/-- Why a text is no data text: it is malformed at a place, or it holds a whole number with too
many digits. -/
inductive Problem where
  | malformed (complaint : Complaint) (place : Nat)
  | longInt (digits : Nat)
  deriving DecidableEq, Repr

/-- A place in a text as line, column and number of code points before it. -/
def placeText (document : Text) (place : Nat) : Text :=
  let before := document.take place
  let line := before.count (.scalar '\n') + 1
  let column := (before.reverse.takeWhile (· != .scalar '\n')).length + 1
  "line " ++ Text.ofNat line ++ " column " ++ Text.ofNat column ++ " (char "
    ++ Text.ofNat place ++ ")"

/-- The wording of a problem of a document. -/
def Problem.message (document : Text) : Problem → Text
  | .malformed complaint place => complaint.message ++ ": " ++ placeText document place
  | .longInt digits => Digits.limitMessage digits

/-- What has been opened and not yet closed: a list with its items so far, the last one first, or
a table with its entries so far and the name whose value is being read. -/
inductive Frame where
  | list (items : List Value)
  | table (entries : Table) (name : Text)
  deriving Repr

/-- What may come next. -/
inductive Goal where
  /-- A value. -/
  | value
  /-- A value or the end of the list just opened. -/
  | valueOrClose
  /-- A name or the end of the table just opened. -/
  | nameOrClose
  /-- A name of a table with these entries. -/
  | name (entries : Table)
  /-- The colon after a name of a table with these entries. -/
  | colon (entries : Table) (name : Text)
  /-- A comma or the end of the innermost list or table, which has taken this value. -/
  | next (value : Value)
  deriving Repr

/-- Whether a token is the first of a value, and which: a whole value, or what it opens. -/
def openValue? : Token → Option (Value ⊕ Goal)
  | .text t => some (.inl (.text t))
  | .literal v => some (.inl v)
  | .openList => some (.inr .valueOrClose)
  | .openTable => some (.inr .nameOrClose)
  | _ => none

/-- What is wrong with a token that cannot start a value, given what was expected. -/
def refuse (expected : Complaint) (place : Nat) : Token → Problem
  | .badText flaw at_ =>
    if expected = .expectingValue ∨ expected = .expectingName then .malformed (.inText flaw) at_
    else .malformed expected place
  | .longInt digits =>
    if expected = .expectingValue then .longInt digits else .malformed expected place
  | _ => .malformed expected place

/-- Reads tokens towards a goal inside some frames, up to the end of the outermost value; `finish`
is the place of the end of the text. -/
def readTokens (finish : Nat) :
    List (Nat × Token) → Goal → List Frame → Except Problem Value
  | [], .next v, [] => .ok v
  | [], .next _, _ :: _ => .error (.malformed .expectingComma finish)
  | [], .value, _ => .error (.malformed .expectingValue finish)
  | [], .valueOrClose, _ => .error (.malformed .expectingValue finish)
  | [], .nameOrClose, _ => .error (.malformed .expectingName finish)
  | [], .name _, _ => .error (.malformed .expectingName finish)
  | [], .colon _ _, _ => .error (.malformed .expectingColon finish)
  | (place, token) :: rest, goal, frames =>
    match goal with
    | .value =>
      match openValue? token with
      | some (.inl v) => readTokens finish rest (.next v) frames
      | some (.inr goal) => readTokens finish rest goal frames
      | none => .error (refuse .expectingValue place token)
    | .valueOrClose =>
      match token with
      | .closeList => readTokens finish rest (.next (.list [])) frames
      | token =>
        match openValue? token with
        | some (.inl v) => readTokens finish rest (.next v) (.list [] :: frames)
        | some (.inr goal) => readTokens finish rest goal (.list [] :: frames)
        | none => .error (refuse .expectingValue place token)
    | .nameOrClose =>
      match token with
      | .closeTable => readTokens finish rest (.next (.table [])) frames
      | .text t => readTokens finish rest (.colon [] t) frames
      | token => .error (refuse .expectingName place token)
    | .name entries =>
      match token with
      | .text t => readTokens finish rest (.colon entries t) frames
      | token => .error (refuse .expectingName place token)
    | .colon entries name =>
      match token with
      | .colon => readTokens finish rest .value (.table entries name :: frames)
      | token => .error (refuse .expectingColon place token)
    | .next v =>
      match frames with
      | [] => .error (.malformed .extraData place)
      | .list items :: frames =>
        match token with
        | .comma => readTokens finish rest .value (.list (v :: items) :: frames)
        | .closeList => readTokens finish rest (.next (.list (v :: items).reverse)) frames
        | token => .error (refuse .expectingComma place token)
      | .table entries name :: frames =>
        match token with
        | .comma => readTokens finish rest (.name (entries.put name v)) frames
        | .closeTable => readTokens finish rest (.next (.table (entries.put name v))) frames
        | token => .error (refuse .expectingComma place token)
termination_by structural tokens => tokens

/-- The value of a data text. A text that starts with a byte order mark is refused. -/
def read (document : Text) : Except Problem Value :=
  if document.head? = some (.scalar '\uFEFF') then .error (.malformed .byteOrderMark 0)
  else readTokens document.length (tokens document) .value []

end Json

end LabelPress
