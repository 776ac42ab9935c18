import LabelPress.Arguments.Number

/-!
# Options and words

A program's options have names of one or two dashes, and take nothing or one argument. Here is what
a word of a command line is for a program with given options: an option, which may be named by
the beginning of its name and may have its argument attached, the two dashes after which there are
no options, or a plain word.
-/

namespace LabelPress

namespace Arguments

/-- What an option takes: nothing, in which case it asks for help or is just set, or an argument of
some form. -/
inductive Takes where
  | help
  | nothing
  | text
  | int
  | float
  | choice (texts : List Text)
  deriving DecidableEq, Repr

/-- An option of a program. -/
structure Rule where
  names : List Text
  takes : Takes
  required : Bool := false
  deriving DecidableEq, Repr

/-- An option as messages call it. -/
def Rule.title (r : Rule) : Text := Text.join "/" r.names

/-- The option that asks for help. -/
def helpRule : Rule := { names := ["-h", "--help"], takes := .help }

/-- What a word is. -/
inductive Word where
  | plain
  /-- Two dashes. -/
  | separator
  /-- An option by one of its names, and the argument that is attached to it: after an equals sign,
  or right after its letter. -/
  | option (rule : Rule) (name : Text) (attached : Option Text)
  /-- A word that looks like an option and is none. -/
  | unknown
  deriving DecidableEq, Repr

/-- Whether a name has two dashes. -/
def isLong (name : Text) : Bool := name.startsWith "--"

/-- A word up to its first equals sign, and what follows that. -/
def splitEquals (word : Text) : Text × Option Text :=
  let name := word.takeWhile (· != .scalar '=')
  (name, if name.length < word.length then some (word.drop (name.length + 1)) else none)

/-- All names of some options, each with its option. -/
def allNames (rules : List Rule) : List (Text × Rule) :=
  rules.flatMap fun r => r.names.map fun name => (name, r)

/-- The option of a name. -/
def named? (rules : List Rule) (name : Text) : Option Rule :=
  ((allNames rules).find? (·.1 = name)).map (·.2)

/-- The options that a word with dashes may stand for though it is no name, with the names of
them. -/
def candidates (rules : List Rule) (word : Text) : List (Text × Word) :=
  if isLong word then
    let (start, attached) := splitEquals word
    ((allNames rules).filter fun (name, _) => name.startsWith start).map fun (name, rule) =>
      (name, .option rule name attached)
  else
    (allNames rules).filterMap fun (name, rule) =>
      if name = word.take 2 then some (name, .option rule name (some (word.drop 2)))
      else if name.startsWith word then some (name, .option rule name none)
      else none

/-- Whether a word is a negative number; a line feed may follow. -/
def isNegativeNumber (word : Text) : Bool :=
  match word with
  | .scalar '-' :: body =>
    let body := if body.getLast? = some (.scalar '\n') then body.dropLast else body
    let whole := body.takeWhile CodePoint.isDecimal
    match body.drop whole.length with
    | [] => !whole.isEmpty
    | .scalar '.' :: fraction => !fraction.isEmpty && fraction.all CodePoint.isDecimal
    | _ => false
  | _ => false

/-- What a word is, for a program with some options; a word that may stand for several of them
stands for none, and the names of those come back. -/
def Word.of (rules : List Rule) (word : Text) : Except (List Text) Word :=
  if word = Text.ofString "--" then .ok .separator
  else if word.head? ≠ some (.scalar '-') ∨ word.length = 1 then .ok .plain
  else
    match named? rules word, splitEquals word with
    | some rule, _ => .ok (.option rule word none)
    | none, (name, attached) =>
      match attached, named? rules name with
      | some text, some rule => .ok (.option rule name (some text))
      | _, _ =>
        match candidates rules word with
        | [(_, w)] => .ok w
        | [] => .ok (if isNegativeNumber word ∨ word.has ' ' then .plain else .unknown)
        | several => .error (several.map (·.1))

example : isNegativeNumber "-.5" ∧ isNegativeNumber "-80" ∧ ¬ isNegativeNumber "-x" := by decide

end Arguments

end LabelPress
