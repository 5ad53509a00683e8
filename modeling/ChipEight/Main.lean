import ChipEight.CommandLine.Command
import ChipEight.Session.Script

/-!
# The program

Runs the command without a window: what the user does is read from standard input as a script, what
the command writes goes to standard error, and the screen that the session leaves is printed at its
end, a `*` for every lit pixel. There is no mixer that would take a sound.

Of the files, the command sees those that its arguments name, and the folders on the way to them.
-/

namespace ChipEight

/-- Looks at one place on a way from the working directory. What is there and cannot be read as a
file is taken for a folder. -/
def survey (directory : Directory) : Directory.Place → IO Directory
  | .along parts => do
    if Directory.isAscent parts then return directory
    try
      let bytes ← IO.FS.readBinFile (String.intercalate "/" parts)
      return directory.put parts (.file bytes.toList)
    catch
      | .noFileOrDirectory .. => return directory
      | _ => return directory.put parts .folder
  | _ => return directory

/-- The places that a run of parts leads through. -/
def placesOn (directory : Directory) (place : Directory.Place) :
    List String → List Directory.Place
  | [] => []
  | part :: rest =>
    let next := if part = ".." then some (directory.parent place) else Directory.child? part place
    match next with
    | some next => next :: placesOn directory next rest
    | none => []

/-- The files and folders that the arguments name. An option's value may stand behind an equals
sign. -/
def surveyArguments (args : List String) : IO Directory := do
  let here ← IO.currentDir
  let directory : Directory := { depth := (Path.ofString here.toString).parts.length }
  let texts := args.flatMap fun arg ↦ arg :: (CommandLine.splitOption arg).2.toList
  let places := texts.flatMap fun text ↦
    placesOn directory (Directory.start text) (Path.ofString text).parts
  places.foldlM survey directory

/-- Writes the files that differ from those that were found. -/
def writeBack (found left : Directory) : IO Unit :=
  left.entries.forM fun (parts, entry) ↦ do
    match entry with
    | .file bytes =>
      if found.at? (.along parts) != some entry then
        IO.FS.writeBinFile (String.intercalate "/" parts) ⟨bytes.toArray⟩
    | .folder => pure ()

/-- The screen as text, a line for each row. -/
def pictureOf (screen : Screen) : String :=
  String.intercalate "\n" ((List.range screen.rows).map fun q ↦
    String.ofList ((screen.row q).map fun lit ↦ if lit then '*' else ' '))

end ChipEight

open ChipEight

/-- Runs the command and leaves with its exit status. -/
def main (args : List String) : IO UInt32 := do
  let directory ← surveyArguments args
  let script ← (← IO.getStdin).readToEnd
  let report := CommandLine.run
    { directory
      polls := Session.Script.pollsOf script
      soundRefusal := some "no mixer"
      clock := .microseconds 0 0
      frameTime := 16667
      wallClock := ← IO.monoNanosNow }
    args
  IO.eprint report.text
  if let some computer := report.console.bind Console.computer? then
    IO.println (pictureOf computer.screen)
  writeBack directory report.directory
  match report.exit with
  | .status code => return UInt32.ofNat code
  | .escaped (.file e) =>
    IO.eprintln e.words
    return 1
  | .escaped (.host e) =>
    IO.eprintln e.words
    return 1
