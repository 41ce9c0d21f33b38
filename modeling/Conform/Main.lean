import Conform.Command.Outcome
import Conform.Text.Encoding

/-!
# The program

Reads the files that a command line names, performs it, and writes what comes out. The program
reaches no host: requests get no response, and declarations cannot be fetched.
-/

namespace Conform

/-- A text as the system takes it. -/
def Text.system (t : Text) : String := t.toString?.getD ""

/-- The files with some names, as far as they can be read. -/
def readFolder (names : List Text) : IO Folder :=
  names.foldlM (fun folder name => do
    try
      let bytes ← IO.FS.readBinFile (FileName.normal name).system
      let t := Encoding.decodeLossy .utf8 bytes.toList
      return { folder with files := folder.files ++ [(name, t)] }
    catch
      | .inappropriateType .. => return { folder with folders := folder.folders ++ [name] }
      | _ => return folder) { files := [] }

/-- Adds lines to a file, in a folder that is made if it is missing. -/
def appendLines (name : Text) (lines : List Text) : IO Unit := do
  IO.FS.createDirAll (FileName.parent name).system
  IO.FS.withFile name.system .append fun file =>
    lines.forM fun t => file.putStrLn t.system

/-- Where commands are performed: the files of the system, and no network. -/
def offline (folder : Folder) : Setting Unit where
  folder := folder
  network := ()
  transport := fun _ => return .error .noResponse
  declarations := ⟨true, fun _ => none⟩

end Conform

open Conform in
/-- Performs a command line. Samples without a seed get one from the clock. -/
def main (arguments : List String) : IO UInt32 := do
  let words := arguments.map Text.ofString
  let time ← IO.monoNanosNow
  let outcome : Outcome Unit ←
    match Invocation.ofWords words with
    | .ok i => do
      let folder ← readFolder i.fileNames
      pure ((i.seeded (.int (Int.ofNat time))).perform (offline folder))
    | .error stop => pure (stop.outcome (offline { files := [] }))
  match outcome.exported? (.int (Int.ofNat (time / 1000000000))) with
  | some (name, lines) => appendLines name lines
  | none => pure ()
  (← IO.getStdout).putStr outcome.output.system
  (← IO.getStderr).putStr outcome.errors.system
  return outcome.code.toUInt32
