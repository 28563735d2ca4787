import GrantFs.Json.Value

/-! # Descriptions of the tools

Each tool has a name, a description and a schema of its arguments. The schemas describe the
arguments alone; what a tool works on is bound to it beforehand.
-/
namespace GrantFs

structure ToolSpec where
  name : Text
  description : Text
  parameters : Json

namespace ToolSpec

def toJson (s : ToolSpec) : Json :=
  .object [("name", .text s.name), ("description", .text s.description),
    ("parameters", s.parameters)]

def argument (kind : Text) (more : List (Text × Json)) : Json :=
  .object (("type", .text kind) :: more)

def described (kind description : Text) : Json :=
  argument kind [("description", .text description)]

def schema (properties : List (Text × Json)) (required : List Text) : Json :=
  let names : List (Text × Json) :=
    if required.isEmpty then [] else [("required", .array (required.map .text))]
  Json.sorted (argument "object" (("properties", .object properties) :: names))

def texts : Json := argument "array" [("items", argument "string" [])]

def pathOnly (description : Text) : Json :=
  schema [("path", described "string" description)] ["path"]

def deleteFile : ToolSpec where
  name := "delete_file"
  description := "Delete a file"
  parameters := pathOnly "Logical path of the file"

def directoryTree : ToolSpec where
  name := "directory_tree"
  description := "Recursive JSON tree of a directory"
  parameters := pathOnly "Logical directory path"

def editFile : ToolSpec where
  name := "edit_file"
  description :=
    "Apply exact text replacements in order; dry_run returns a unified diff without saving"
  parameters := schema [
    ("path", argument "string" []),
    ("edits", argument "array" [("items", schema [
      ("oldText", described "string" "Exact text to replace"),
      ("newText", described "string" "Replacement text")] ["oldText", "newText"])]),
    ("dry_run", argument "boolean" [("default", .bool false)])] ["path", "edits"]

def fileInfo : ToolSpec where
  name := "get_file_info"
  description := "Size, modification time and MIME type of a file"
  parameters := pathOnly "Logical path of the file"

def allowedDirectories : ToolSpec where
  name := "list_allowed_directories"
  description := "Directories this session may access, with permitted operations"
  parameters := schema [] []

def listDirectory : ToolSpec where
  name := "list_directory"
  description := "List the immediate children of a directory as [DIR]/[FILE] lines"
  parameters := pathOnly "Logical directory path"

def listDirectoryWithSizes : ToolSpec where
  name := "list_directory_with_sizes"
  description := "List the immediate children of a directory with aggregated sizes"
  parameters := schema [
    ("path", argument "string" []),
    ("sort_by", argument "string" [
      ("enum", .array [.text "name", .text "size"]), ("default", .text "name")])] ["path"]

def readMediaFile : ToolSpec where
  name := "read_media_file"
  description := "Read a binary file as base64 with its MIME type"
  parameters := pathOnly "Logical path of the file"

def readMultipleFiles : ToolSpec where
  name := "read_multiple_files"
  description := "Read several text files; failures are reported per file"
  parameters := schema [("paths", texts)] ["paths"]

def readTextFile : ToolSpec where
  name := "read_text_file"
  description :=
    "Read a text file, optionally a window of lines starting at a 1-based line"
  parameters := schema [
    ("path", described "string" "Logical path of the file"),
    ("start_line", described "integer" "1-based first line (default 1)"),
    ("read_lines", described "integer"
      "Number of lines to read. Omit for the rest of the file.")] ["path"]

def searchFiles : ToolSpec where
  name := "search_files"
  description :=
    "Find files under a directory whose name matches a glob or contains the pattern"
  parameters := schema [
    ("path", argument "string" []), ("pattern", argument "string" []),
    ("exclude_patterns", texts)] ["path", "pattern"]

def writeFile : ToolSpec where
  name := "write_file"
  description := "Create or overwrite a file with the given text"
  parameters := schema [("path", argument "string" []), ("content", argument "string" [])]
    ["path", "content"]

end ToolSpec
end GrantFs
