import LabelPress.Text.Utf8
import LabelPress.Value.Display

/-!
# Faults

What a call can raise: a kind and a wording. Kinds matter in three ways only: faults of the
operating system are what an unreachable printer looks like, a refused address is told apart from
every other fault of building a link, and an interrupt is never held up by a handler.
-/

namespace LabelPress

/-- The kinds of faults. -/
inductive FaultKind where
  | labelData
  | config
  | address
  | transport
  | value
  | type
  | runtime
  | key
  | overflow
  | unicodeDecode
  | unicodeEncode
  | os
  | fileNotFound
  | isDirectory
  | notDirectory
  | connectionRefused
  | connectionReset
  | brokenPipe
  | timeout
  | blockingIo
  | childProcess
  | connectionAborted
  | fileExists
  | interruptedCall
  | permission
  | processLookup
  | interrupt
  deriving DecidableEq, Repr

namespace FaultKind

/-- The name under which messages and logs show a kind. -/
def name : FaultKind → Text
  | .labelData => "LabelDataError"
  | .config => "ConfigError"
  | .address => "AddressError"
  | .transport => "TransportError"
  | .value => "ValueError"
  | .type => "TypeError"
  | .runtime => "RuntimeError"
  | .key => "KeyError"
  | .overflow => "OverflowError"
  | .unicodeDecode => "UnicodeDecodeError"
  | .unicodeEncode => "UnicodeEncodeError"
  | .os => "OSError"
  | .fileNotFound => "FileNotFoundError"
  | .isDirectory => "IsADirectoryError"
  | .notDirectory => "NotADirectoryError"
  | .connectionRefused => "ConnectionRefusedError"
  | .connectionReset => "ConnectionResetError"
  | .brokenPipe => "BrokenPipeError"
  | .timeout => "TimeoutError"
  | .blockingIo => "BlockingIOError"
  | .childProcess => "ChildProcessError"
  | .connectionAborted => "ConnectionAbortedError"
  | .fileExists => "FileExistsError"
  | .interruptedCall => "InterruptedError"
  | .permission => "PermissionError"
  | .processLookup => "ProcessLookupError"
  | .interrupt => "KeyboardInterrupt"

/-- Every kind. -/
def all : List FaultKind :=
  [.labelData, .config, .address, .transport, .value, .type, .runtime, .key, .overflow,
    .unicodeDecode, .unicodeEncode, .os, .fileNotFound, .isDirectory, .notDirectory,
    .connectionRefused, .connectionReset, .brokenPipe, .timeout, .blockingIo, .childProcess,
    .connectionAborted, .fileExists, .interruptedCall, .permission, .processLookup, .interrupt]

/-- The kind with a name. -/
def ofName? (name : Text) : Option FaultKind := all.find? (·.name = name)

/-- Whether a fault comes from the operating system. -/
def isOs : FaultKind → Bool
  | .os | .fileNotFound | .isDirectory | .notDirectory | .connectionRefused | .connectionReset
  | .brokenPipe | .timeout | .blockingIo | .childProcess | .connectionAborted | .fileExists
  | .interruptedCall | .permission | .processLookup => true
  | _ => false

/-- The kind of an operating system fault by its number. -/
def ofErrno : Int → FaultKind
  | 1 | 13 => .permission
  | 2 => .fileNotFound
  | 3 => .processLookup
  | 4 => .interruptedCall
  | 10 => .childProcess
  | 11 | 114 | 115 => .blockingIo
  | 17 => .fileExists
  | 20 => .notDirectory
  | 21 => .isDirectory
  | 32 | 108 => .brokenPipe
  | 103 => .connectionAborted
  | 104 => .connectionReset
  | 110 => .timeout
  | 111 => .connectionRefused
  | _ => .os

end FaultKind

/-- A fault: its kind and its wording. -/
structure Fault where
  kind : FaultKind
  message : Text
  deriving DecidableEq, Repr

namespace Fault

/-- Whether a fault is an interrupt, which no handler holds up. -/
def isInterrupt (f : Fault) : Bool := f.kind = .interrupt

/-- Whether a fault comes from the operating system. -/
def isOs (f : Fault) : Bool := f.kind.isOs

/-- What a result tells of a fault: its wording, or its kind where the wording is empty. -/
def detail (f : Fault) : Text := if f.message.isEmpty then f.kind.name else f.message

/-- What a log shows of a fault. -/
def line (f : Fault) : Text := f.kind.name ++ ": " ++ f.message

/-- The wording of a fault of the operating system by number and text. -/
def errnoMessage (number text : Value) : Text :=
  "[Errno " ++ number.plain ++ "] " ++ text.plain

/-- The wording of several values that are a fault's arguments together. -/
def tupleMessage (arguments : List Value) : Text :=
  "(" ++ Text.join ", " (Value.quotedItems arguments) ++ ")"

/-- The kind of an operating system fault of a kind, with a number: a plain one is of the kind that
its number tells. True and false are the numbers one and zero here. -/
def refineKind (kind : FaultKind) (number : Value) : FaultKind :=
  match kind, number with
  | .os, .int n => .ofErrno n
  | .os, .bool b => .ofErrno b.toNat
  | _, _ => kind

/-- The wording of the names of files at the end of a message. -/
def filesMessage : List Value → Text
  | [] | .null :: _ => []
  | [file] | [file, _] | [file, _, .null] => ": " ++ file.quoted
  | file :: _ :: other :: _ => ": " ++ file.quoted ++ " -> " ++ other.quoted

/-- A fault of a call that would have to wait, with what follows its number and text: a count of
what was done so far, which the wording leaves out and which has to be a machine word, or else the
names of files. -/
def ofBlocking (wording : Text) (rest : List Value) : Fault :=
  match rest.head? with
  | some (.bool _) => ⟨.blockingIo, wording⟩
  | some (.int n) =>
    if -Int.pow 2 63 ≤ n ∧ n < Int.pow 2 63 then ⟨.blockingIo, wording⟩
    else ⟨.value, "cannot fit 'int' into an index-sized integer"⟩
  | some (.float _) => ⟨.type, "'float' object cannot be interpreted as an integer"⟩
  | _ => ⟨.blockingIo, wording ++ filesMessage rest⟩

/-- A fault from the arguments it is built of. One argument is the wording, which a missing key
has quoted. Two to five arguments of an operating system fault are its number and text, and the
names of one or two files. -/
def ofArguments (kind : FaultKind) (arguments : List Value) : Fault :=
  match arguments with
  | [] => ⟨kind, []⟩
  | [v] => ⟨kind, if kind = .key then v.quoted else v.plain⟩
  | number :: text :: rest =>
    if kind.isOs ∧ rest.length ≤ 3 then
      match refineKind kind number with
      | .blockingIo => ofBlocking (errnoMessage number text) rest
      | kind => ⟨kind, errnoMessage number text ++ filesMessage rest⟩
    else ⟨kind, tupleMessage arguments⟩

example : (ofArguments .os [.bool true, .text "gone"]).kind = .permission := rfl

example : (ofArguments .os [.int 11, .text "again", .int 5]).message =
    Text.ofString "[Errno 11] again" := by decide

/-- A fault of the operating system about a file. -/
def ofFile (number : Int) (text file : Text) : Fault :=
  ⟨.ofErrno number, errnoMessage (.int number) (.text text) ++ ": " ++ file.quoted⟩

/-- A text that has no encoded form. -/
def ofEncode (p : Utf8.EncodeProblem) : Fault := ⟨.unicodeEncode, p.message⟩

/-- Bytes that are no text. -/
def ofDecode (p : Utf8.DecodeProblem) : Fault := ⟨.unicodeDecode, p.message⟩

/-- A whole number that is too long to be written. -/
def tooLong : Fault := ⟨.value, Digits.writeLimitMessage⟩

end Fault

end LabelPress
