import Conform.Config.Path
import Conform.Text.Quoted

/-!
# Folders

A folder holds text files under names with slashes, and every beginning of such a name is a folder
of its own.

## Main definitions

- `Folder` — files by name
- `Folder.read` — the text of a file, or why there is none
- `Folder.makeFault?`, `Folder.appendFault?` — why a file cannot be made or written
-/

namespace Conform

/-- Why a file cannot be used. -/
inductive FileFault
  | missing (name : Text)
  | exists (name : Text)
  | throughFile (name : Text)
  | folder (name : Text)
  deriving DecidableEq, Repr

/-- The wording of a fault, with its usual number. -/
def FileFault.message : FileFault → Text
  | .missing name => "[Errno 2] No such file or directory: " ++ (FileName.normal name).quoted
  | .exists name => "[Errno 17] File exists: " ++ (FileName.normal name).quoted
  | .throughFile name => "[Errno 20] Not a directory: " ++ (FileName.normal name).quoted
  | .folder name => "[Errno 21] Is a directory: " ++ (FileName.normal name).quoted

/-- Files with their texts. Folders that hold no file can be named too. -/
structure Folder where
  files : List (Text × Text)
  folders : List Text := []
  deriving DecidableEq, Repr

namespace Folder

/-- The text under a name, up to parts of the name that change nothing. -/
def text? (folder : Folder) (name : Text) : Option Text :=
  (folder.files.find? fun (key, _) => FileName.normal key == FileName.normal name).map (·.2)

/-- Whether the parts of a name are the first ones of another name, and not all of them. -/
def begins (name whole : Text) : Bool :=
  let parts := FileName.parts name
  FileName.root name == FileName.root whole && parts.isPrefixOf (FileName.parts whole)
    && parts != FileName.parts whole

/-- Whether a name is that of a folder. -/
def isFolder (folder : Folder) (name : Text) : Bool :=
  (FileName.parts name).isEmpty
    || folder.folders.any (fun other => FileName.normal other == FileName.normal name)
    || folder.files.any fun (key, _) => begins name key

/-- Whether a name goes on behind the name of a file. -/
def isThroughFile (folder : Folder) (name : Text) : Bool :=
  folder.files.any fun (key, _) => begins key name

/-- The text of a file, with line feeds at the ends of all lines. -/
def read (folder : Folder) (name : Text) : Except FileFault Text :=
  match folder.text? name with
  | some t => .ok t.withLineFeeds
  | none =>
    if folder.isFolder name then .error (.folder name)
    else if folder.isThroughFile name then .error (.throughFile name)
    else .error (.missing name)

/-- The text of a file that need not be there. -/
def readIfPresent (folder : Folder) (name : Text) : Except FileFault (Option Text) :=
  match folder.read name with
  | .ok t => .ok (some t)
  | .error (.folder name) => .error (.folder name)
  | .error _ => .ok none

/-- Why the folders around a file cannot be made. -/
def makeFault? (folder : Folder) (name : Text) : Option FileFault :=
  let parent := FileName.parent name
  if (folder.text? parent).isSome then some (.exists parent)
  else if folder.isThroughFile parent then some (.throughFile parent)
  else none

/-- Why nothing can be added to a file. -/
def appendFault? (folder : Folder) (name : Text) : Option FileFault :=
  if folder.isFolder name then some (.folder name) else none

end Folder

end Conform
