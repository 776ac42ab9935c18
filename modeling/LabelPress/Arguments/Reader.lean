import LabelPress.Arguments.Word
import LabelPress.Text.Quoted
import LabelPress.Value.Basic

/-!
# Reading command lines

The words of a command line are gone through once. An option takes its argument from what is
attached to it or from the next word, which has to be plain; plain words that no option takes are
left over, or end the options where a command is expected. What an option is given is a piece of
data: a text, a number, true where it takes nothing, and the empty list where two dashes are
attached to it, which count for no argument.
-/

namespace LabelPress

namespace Arguments

/-- Why a command line is refused. -/
inductive Problem where
  | noArgument (option : Text)
  | idleArgument (option given : Text)
  | ambiguous (word : Text) (names : List Text)
  | notInt (option given : Text)
  | notFloat (option given : Text)
  | noChoice (argument given : Text) (choices : List Text)
  | missing (arguments : List Text)
  | leftOver (words : List Text)
  deriving DecidableEq, Repr

/-- The wording of a refusal. -/
def Problem.message : Problem → Text
  | .noArgument option => "argument " ++ option ++ ": expected one argument"
  | .idleArgument option given =>
    "argument " ++ option ++ ": ignored explicit argument " ++ given.quoted
  | .ambiguous word names =>
    "ambiguous option: " ++ word ++ " could match " ++ Text.join ", " names
  | .notInt option given => "argument " ++ option ++ ": invalid int value: " ++ given.quoted
  | .notFloat option given => "argument " ++ option ++ ": invalid float value: " ++ given.quoted
  | .noChoice argument given choices =>
    "argument " ++ argument ++ ": invalid choice: " ++ given.quoted ++ " (choose from "
      ++ Text.join ", " (choices.map Text.quoted) ++ ")"
  | .missing arguments =>
    "the following arguments are required: " ++ Text.join ", " arguments
  | .leftOver words => "unrecognized arguments: " ++ Text.join " " words

/-- Why the reading of a command line ends early. -/
inductive Halt where
  | help
  | problem (p : Problem)
  deriving DecidableEq, Repr

/-- What an option is given by an argument. -/
def Rule.read (r : Rule) (t : Text) : Except Problem Value :=
  if t = Text.ofString "--" then .ok (.list [])
  else
    match r.takes with
    | .int =>
      match int? t with
      | some n => .ok (.int n)
      | none => .error (.notInt r.title t)
    | .float =>
      match float? t with
      | some x => .ok (.float x)
      | none => .error (.notFloat r.title t)
    | .choice texts =>
      if texts.contains t then .ok (.text t) else .error (.noChoice r.title t texts)
    | _ => .ok (.text t)

/-- The part of what is attached to the letter for help that is no such letter again. -/
def idleHelp? : Text → Option Text
  | [] => some []
  | c :: rest =>
    if c ≠ .scalar 'h' then some (c :: rest)
    else if rest.isEmpty then none
    else idleHelp? rest

/-- What an option that takes nothing is given. Letters for help may be put together, but nothing
else may be attached. -/
def Rule.readAlone (r : Rule) (name : Text) (attached : Option Text) : Except Halt Value :=
  let idle := attached.bind fun t =>
    if r.takes = .help ∧ ¬ isLong name then idleHelp? t else some t
  match idle, r.takes with
  | some t, _ => .error (.problem (.idleArgument r.title t))
  | none, .help => .error .help
  | none, _ => .ok (.bool true)

/-- Whether an option takes an argument. -/
def Takes.hasArgument : Takes → Bool
  | .help | .nothing => false
  | _ => true

/-- What has been found in a command line: what options were given, in order, the words left over,
and the words from the command on. -/
structure Found where
  given : List (Rule × Value) := []
  leftOver : List Text := []
  command : List Text := []
  deriving Repr

namespace Found

/-- One more option in front. -/
def give (r : Rule) (v : Value) (f : Found) : Found := { f with given := (r, v) :: f.given }

/-- One more word left over in front. -/
def leave (word : Text) (f : Found) : Found := { f with leftOver := word :: f.leftOver }

/-- What the option of a name was given last. -/
def last? (f : Found) (name : Text) : Option Value :=
  (f.given.reverse.find? fun (r, _) => r.names.contains name).map (·.2)

end Found

/-- Goes through recognised words. Where a command is expected, the first plain word is it, and so
are two dashes that another word follows. -/
def gather (expectCommand : Bool) : List (Text × Word) → Except Halt Found
  | [] => .ok {}
  | (word, .plain) :: words =>
    if expectCommand then .ok { command := word :: words.map (·.1) }
    else (gather expectCommand words).map (.leave word)
  | (word, .separator) :: words =>
    if expectCommand ∧ ¬ words.isEmpty then .ok { command := word :: words.map (·.1) }
    else (gather expectCommand words).map (.leave word)
  | (word, .unknown) :: words => (gather expectCommand words).map (.leave word)
  | (_, .option rule name attached) :: words =>
    if !rule.takes.hasArgument then do
      let given ← rule.readAlone name attached
      (gather expectCommand words).map (.give rule given)
    else
      match attached, words with
      | some text, words => do
        let given ← (rule.read text).mapError .problem
        (gather expectCommand words).map (.give rule given)
      | none, (word, .plain) :: words => do
        let given ← (rule.read word).mapError .problem
        (gather expectCommand words).map (.give rule given)
      | none, _ => .error (.problem (.noArgument rule.title))

/-- What each word is. After two dashes all words are plain. -/
def recognise (rules : List Rule) : List Text → Except Problem (List (Text × Word))
  | [] => .ok []
  | word :: words =>
    match Word.of rules word with
    | .error names => .error (.ambiguous word names)
    | .ok .separator => .ok ((word, .separator) :: words.map fun word => (word, .plain))
    | .ok w => (recognise rules words).map ((word, w) :: ·)

/-- Reads the words of a command line. All options that are required have to be given. -/
def read (rules : List Rule) (expectCommand : Bool) (words : List Text) : Except Halt Found := do
  let found ← gather expectCommand (← (recognise rules words).mapError .problem)
  match rules.filter fun r => r.required && !found.given.any (·.1 = r) with
  | [] => return found
  | missing => .error (.problem (.missing (missing.map Rule.title)))

end Arguments

end LabelPress
