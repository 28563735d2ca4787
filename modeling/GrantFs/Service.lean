import GrantFs.Directory.View
import GrantFs.Edit
import GrantFs.Handle
import GrantFs.MediaType
import GrantFs.Policy
import GrantFs.Report
import GrantFs.Text.Base64
import GrantFs.Text.Utf8

/-! # The service

One handle under one policy. The grants of the handle say what it can do; the policy says what the
domain allows of that. A policy is asked before the handle, so what it forbids never gets there.
-/
namespace GrantFs

structure Service where
  handle : Handle
  policy : Policy
deriving DecidableEq, Repr

namespace Service

def require (allowed : Bool) (path : Path) (op : Operation) : Except Fault Unit :=
  if allowed then .ok () else .error (.accessDenied path.text op)

/-- The text of a file from a line on, counted from one, within the limits of the policy. -/
def readTextFile (s : Service) (path : Text) (startLine : Nat) (readLines : Option Nat) :
    Action Text := do
  let path ← (Path.parse path : Except Fault Path)
  if startLine = 0 then throw (.invalidArgument "start_line" (some "0"))
  let index := if startLine = 1 ∧ readLines = none then none else some (startLine - 1)
  let t ← s.handle.readText path.text index readLines
  pure (s.policy.applyLimits t)

def batchItem (path : Text) : Except Fault Text → BatchItem
  | .ok content => ⟨path, some content, none⟩
  | .error why => ⟨path, none, some why.message⟩

/-- The texts of several files; a file that cannot be read does not end the batch. -/
def readMultipleFiles (s : Service) : List Text → Action (List BatchItem)
  | [] => pure []
  | path :: rest => do
    let outcome ← Action.outcome (s.readTextFile path 1 none)
    let items ← readMultipleFiles s rest
    pure (batchItem path outcome :: items)

def fileInfo (s : Service) (path : Text) : Action FileInfo := do
  let e ← s.handle.file path
  pure ⟨e.path, e.path.name, e.size, e.updatedAt, MediaType.ofName e.path.name⟩

def allowedDirectories (s : Service) : List AllowedDirectory :=
  (s.handle.grants.map fun g => (⟨g.root, g.ops⟩ : AllowedDirectory)).mergeSort fun a b =>
    (compare a.root b.root).isLE

def readMediaFile (s : Service) (path : Text) : Action MediaFile := do
  let path ← (Path.parse path : Except Fault Path)
  let data ← s.handle.readBytes path.text
  pure ⟨path, MediaType.ofName path.name, Base64.encode data⟩

def writeFile (s : Service) (path content : Text) : Action Entry := do
  let path ← (Path.parse path : Except Fault Path)
  (require (s.policy.mayWrite path) path .write : Except Fault Unit)
  s.handle.write path.text (Utf8.encode content) true

def deleteFile (s : Service) (path : Text) : Action Unit := do
  let path ← (Path.parse path : Except Fault Path)
  (require (s.policy.mayDelete path) path .delete : Except Fault Unit)
  s.handle.delete path.text

/-- The text of a file that is to be edited; it has to be valid. -/
def editableText (path : Path) (data : Bytes) : Except Fault Text :=
  match Utf8.decode data with
  | .ok t => .ok t
  | .error why =>
    .error (.invalidArgument "path"
      (some (path.text ++ " is not valid UTF-8 text: " ++ why.message)))

/-- Applies edits to a file. A dry run reports the difference and changes nothing, and neither does
a run whose edits leave the text as it was. -/
def editFile (s : Service) (path : Text) (edits : List Edit) (dryRun : Bool)
    (differ : Diff.Differ := .myers) : Action EditReport := do
  let path ← (Path.parse path : Except Fault Path)
  (require (s.policy.mayEdit path) path .write : Except Fault Unit)
  let data ← s.handle.readBytes path.text
  let original ← (editableText path data : Except Fault Text)
  let modified ← (Edit.applyAll edits original : Except Fault Text)
  if dryRun then pure (.ofDryRun path original modified differ)
  else
    if modified ≠ original then
      let _ ← s.handle.write path.text (Utf8.encode modified) true
    pure (.ofRun path original modified differ)

def listUnder (s : Service) (path : Text) : Action (Path × List Entry) := do
  let path ← (Path.parse path : Except Fault Path)
  let entries ← s.handle.list (some path.asDir.text)
  pure (path.asDir, entries)

def listDirectory (s : Service) (path : Text) : Action (List DirEntry) := do
  let (dir, entries) ← s.listUnder path
  pure (Directory.listing dir entries)

def listDirectoryWithSizes (s : Service) (path : Text) (by_ : SortBy) :
    Action DirectoryListing := do
  let (dir, entries) ← s.listUnder path
  pure (Directory.sizedListing by_ dir entries)

def searchFiles (s : Service) (path pattern : Text) (excludes : List Text)
    (globs : Glob.Language := .standard) : Action (List Path) := do
  let (_, entries) ← s.listUnder path
  let excludes ← (Directory.excludesOf globs excludes : Except Fault (List globs.Pattern))
  pure (Directory.hits globs pattern excludes entries)

def directoryTree (s : Service) (path : Text) : Action (List TreeNode) := do
  let (dir, entries) ← s.listUnder path
  pure (Directory.tree dir entries)

end Service
end GrantFs
