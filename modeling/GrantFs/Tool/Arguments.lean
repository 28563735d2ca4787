import GrantFs.Directory.Listing
import GrantFs.Edit

/-! # Arguments of the tools

How the arguments of each tool are read from JSON. Arguments that are not read are reported with
what is wrong; no arguments at all count as an object without members.
-/
namespace GrantFs.Tool

open Json.Decode

structure ReadTextFileArgs where
  path : Text
  startLine : Option Int
  readLines : Option Int
deriving Inhabited

def readTextFileArgs : Json.Decoder ReadTextFileArgs := record {
  name := "ReadTextFileArgs"
  fields := [
    required "path" string fun a path => { a with path },
    defaulted "start_line" (optional integer) fun a startLine => { a with startLine },
    defaulted "read_lines" (optional integer) fun a readLines => { a with readLines }]
  blank := default }

def readMultipleFilesArgs : Json.Decoder (List Text) := record {
  name := "ReadMultipleFilesArgs"
  fields := [required "paths" (list string) fun _ paths => paths]
  blank := [] }

structure WriteFileArgs where
  path : Text
  content : Text
deriving Inhabited

def writeFileArgs : Json.Decoder WriteFileArgs := record {
  name := "WriteFileArgs"
  fields := [
    required "path" string fun a path => { a with path },
    required "content" string fun a content => { a with content }]
  blank := default }

structure EditFileArgs where
  path : Text
  edits : List Edit
  dryRun : Bool
deriving Inhabited

def editFileArgs : Json.Decoder EditFileArgs := record {
  name := "EditFileArgs"
  fields := [
    required "path" string fun a path => { a with path },
    required "edits" (list Edit.decoder) fun a edits => { a with edits },
    defaulted "dry_run" flag fun a dryRun => { a with dryRun }]
  blank := default }

def pathArgs : Json.Decoder Text := record {
  name := "PathArgs"
  fields := [required "path" string fun _ path => path]
  blank := [] }

structure SizedListingArgs where
  path : Text
  sortBy : SortBy
deriving Inhabited

def sizedListingArgs : Json.Decoder SizedListingArgs := record {
  name := "ListDirectoryWithSizesArgs"
  fields := [
    required "path" string fun a path => { a with path },
    defaulted "sort_by" SortBy.decoder fun a sortBy => { a with sortBy }]
  blank := ⟨[], .name⟩ }

structure SearchFilesArgs where
  path : Text
  pattern : Text
  excludes : List Text
deriving Inhabited

def searchFilesArgs : Json.Decoder SearchFilesArgs := record {
  name := "SearchFilesArgs"
  fields := [
    required "path" string fun a path => { a with path },
    required "pattern" string fun a pattern => { a with pattern },
    defaulted "exclude_patterns" (list string) fun a excludes => { a with excludes }]
  blank := default }

def noArgs : Json.Decoder Unit := record {
  name := "NoArgs"
  fields := []
  blank := () }

def readArgs {α : Type} (decoder : Json.Decoder α) (args : Json) : Except Fault α :=
  let args := match args with
    | .null => .object []
    | args => args
  match Json.decodeValue decoder args with
  | .ok a => .ok a
  | .error why => .error (.invalidArgument "arguments" (some why.message))

/-- A count that may be absent; a negative one is refused. -/
def count (argument : Text) : Option Int → Except Fault (Option Nat)
  | none => .ok none
  | some (.ofNat n) => .ok (some n)
  | some v => .error (.invalidArgument argument (some (Text.decimalInt v)))

end GrantFs.Tool
