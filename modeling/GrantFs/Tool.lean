import GrantFs.Json.Printer
import GrantFs.Service
import GrantFs.Tool.Arguments
import GrantFs.Tool.Spec

/-! # Tools

A tool reads its arguments from JSON, works on a service and answers with text. Tools are called by
name.
-/
namespace GrantFs

structure Tool where
  spec : ToolSpec
  /-- The work on a service with the given arguments. -/
  work : Service → Json → Action Text

namespace Tool

def ofArgs {α : Type} (spec : ToolSpec) (decoder : Json.Decoder α)
    (work : Service → α → Action Text) : Tool where
  spec := spec
  work s args := do
    let args ← (readArgs decoder args : Except Fault α)
    work s args

def readTextFile : Tool := ofArgs .readTextFile readTextFileArgs fun s args => do
  let startLine ← (count "start_line" args.startLine : Except Fault (Option Nat))
  let readLines ← (count "read_lines" args.readLines : Except Fault (Option Nat))
  s.readTextFile args.path (startLine.getD 1) readLines

def itemBlock (item : BatchItem) : Text :=
  match item.content with
  | some content => item.path ++ ":\n" ++ content
  | none => item.path ++ ": Error - " ++ item.error.getD []

def readMultipleFiles : Tool := ofArgs .readMultipleFiles readMultipleFilesArgs fun s paths => do
  let items ← s.readMultipleFiles paths
  pure (Text.joinWith "\n---\n" (items.map itemBlock))

def writeFile : Tool := ofArgs .writeFile writeFileArgs fun s args => do
  let e ← s.writeFile args.path args.content
  pure ("Successfully wrote " ++ Text.decimal e.sizeOrZero ++ " bytes to " ++ e.path.text)

/-- The difference, and the number of lines if the file has been changed. -/
def editText (path : Text) (r : EditReport) : Text :=
  if r.dryRun || !r.changed then r.diff
  else r.diff ++ "\n" ++ Text.decimal r.linesChanged ++ " lines changed in " ++ path

def editFile : Tool := ofArgs .editFile editFileArgs fun s args => do
  let r ← s.editFile args.path args.edits args.dryRun
  pure (editText args.path r)

def deleteFile : Tool := ofArgs .deleteFile pathArgs fun s path => do
  s.deleteFile path
  pure ("Deleted " ++ path)

def listingText (entries : List DirEntry) : Text :=
  if entries.isEmpty then "(empty directory)" else Text.unlines (entries.map (·.line))

def listDirectory : Tool := ofArgs .listDirectory pathArgs fun s path => do
  pure (listingText (← s.listDirectory path))

def listDirectoryWithSizes : Tool :=
  ofArgs .listDirectoryWithSizes sizedListingArgs fun s args => do
    pure (← s.listDirectoryWithSizes args.path args.sortBy).report

def directoryTree : Tool := ofArgs .directoryTree pathArgs fun s path => do
  let nodes ← s.directoryTree path
  pure (Json.array (nodes.map (·.toJson))).spread

def hitsText (paths : List Path) : Text :=
  if paths.isEmpty then "No matches found" else Text.unlines (paths.map (·.text))

def searchFiles : Tool := ofArgs .searchFiles searchFilesArgs fun s args => do
  pure (hitsText (← s.searchFiles args.path args.pattern args.excludes))

def infoText (i : FileInfo) : Text :=
  Text.unlines [
    "path: " ++ i.path.text,
    "name: " ++ i.name,
    "size: " ++ (match i.size with | some n => Text.decimal n | none => "unknown"),
    "updated: " ++ (match i.updatedAt with | some t => t.offsetText | none => "unknown"),
    "mimeType: " ++ i.mimeType]

def fileInfo : Tool := ofArgs .fileInfo pathArgs fun s path => do
  pure (infoText (← s.fileInfo path))

def allowedLine (d : AllowedDirectory) : Text :=
  d.root.text ++ " (" ++ Text.joinWith ", " (d.operations.map (·.name)) ++ ")"

def allowedDirectories : Tool := ofArgs .allowedDirectories noArgs fun s _ =>
  pure ("Allowed directories:\n" ++ Text.unlines (s.allowedDirectories.map allowedLine))

def mediaJson (f : MediaFile) : Json :=
  .object [("data", .text f.data), ("mimeType", .text f.mimeType), ("type", .text "media")]

def readMediaFile : Tool := ofArgs .readMediaFile pathArgs fun s path => do
  pure (mediaJson (← s.readMediaFile path)).compact

def all : List Tool := [
  deleteFile, directoryTree, editFile, fileInfo, allowedDirectories, listDirectory,
  listDirectoryWithSizes, readMediaFile, readMultipleFiles, readTextFile, searchFiles, writeFile]

def names : List Text := all.map (·.spec.name)

def specs : List ToolSpec := all.map (·.spec)

def find? (name : Text) : Option Tool := all.find? (·.spec.name = name)

def call (s : Service) (name : Text) (args : Json) : Action Text :=
  match find? name with
  | some tool => tool.work s args
  | none => throw (.invalidArgument "tool" (some name))

end Tool
end GrantFs
