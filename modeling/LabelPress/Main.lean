import LabelPress.Program.Run
import Std.Time.Zoned

/-!
# The program

The outer layer of a run: it looks up the files that the command line may mean, below the working
folder, hands them to `Program.run` with the time, and brings about the effects that come back.
There is no wire to printers here, so nothing but dry runs reaches one.
-/

namespace LabelPress

namespace Program

/-- A text as a string; a half that stands alone can not be shown. -/
def shown (t : Text) : String :=
  String.ofList (t.map fun
    | .scalar c => c
    | .lone _ => '\uFFFD')

/-- A wire on which nothing can be reached. -/
def noWire : Wire where
  connect := some (.ofArguments .os [.int 101, .text "Network is unreachable"])
  bluetooth := false

/-- What stands under some names of the working folder. -/
def lookUp (names : List Text) : IO (Option Node) := do
  try
    let bytes ← IO.FS.readBinFile (shown (Text.join "/" names))
    return some (.file bytes.toList)
  catch e =>
    match e with
    | .inappropriateType .. => return some .folder
    | _ => return none

/-- The paths that a word of a command line may mean: all of it, or what is attached to an option. -/
def possiblePaths (word : Text) : List Path :=
  .ofText word :: (Arguments.splitEquals word).2.toList.map Path.ofText

/-- The files that the words of a command line may mean, and the folders on the way to them. -/
def lookUpAll (words : List Text) : IO FileTree := do
  let mut tree : FileTree := []
  for path in words.flatMap possiblePaths do
    if path.root.isEmpty then
      for n in List.range path.names.length do
        let names := path.names.take (n + 1)
        if let some node ← lookUp names then
          tree := (names, node) :: tree
  return tree

/-- Writes the files of a tree that are not so in an earlier one. -/
def writeChanges (before after : FileTree) : IO Unit := do
  for (names, node) in after do
    if before.at? names ≠ some node then
      if let .file bytes := node then
        IO.FS.writeBinFile (shown (Text.join "/" names)) ⟨bytes.toArray⟩

/-- The time on the local clock. -/
def clock : IO Moment := do
  let t ← Std.Time.PlainDateTime.now
  let date := Date.of? t.year.toInt.toNat t.month.val.toNat t.day.val.toNat
  let time := ClockTime.of? t.hour.val.toNat t.minute.val.toNat t.second.val.toNat 0
  match date, time with
  | some date, some time => return { date, time }
  | _, _ => throw (IO.userError "the clock shows no time of the calendar")

/-- Runs the program on the words of a command line, and gives its status. -/
def execute (arguments : List String) : IO UInt32 := do
  let words := arguments.map Text.ofString
  let tree ← lookUpAll words
  let now ← clock
  let r := run { now, stamp := now.iso, wire := noWire } words tree
  writeChanges tree r.state
  IO.print (shown (Effect.output r.trace))
  IO.eprint (shown (Effect.errors r.trace))
  match r.result with
  | .ok status => return status.toUInt32
  | .error f =>
    IO.eprintln (shown f.line)
    return 1

end Program

end LabelPress

def main (arguments : List String) : IO UInt32 := LabelPress.Program.execute arguments
