import GrantFs.Text.ByteCount
import GrantFs.Wire

/-! # Directory listings

Files are stored flat; directories are implied by the segments of their paths. This module holds
what a listing of one directory consists of and how it is written.
-/
namespace GrantFs

inductive EntryKind where
  | dir
  | file
deriving DecidableEq, Repr, Inhabited

namespace EntryKind

def name : EntryKind → Text
  | dir => "dir"
  | file => "file"

def label : EntryKind → Text
  | dir => "[DIR]"
  | file => "[FILE]"

def toJson (k : EntryKind) : Json := .text k.name

def decoder : Json.Decoder EntryKind :=
  Json.Decode.variant [(dir.name, dir), (file.name, file)]

end EntryKind

structure DirEntry where
  name : Text
  kind : EntryKind
deriving DecidableEq, Repr, Inhabited

namespace DirEntry

def line (e : DirEntry) : Text := e.kind.label ++ " " ++ e.name

def toJson (e : DirEntry) : Json := .object [("name", .text e.name), ("kind", e.kind.toJson)]

open Json.Decode in
def decoder : Json.Decoder DirEntry := record {
  name := "DirEntry"
  fields := [
    required "name" string fun e name => { e with name },
    required "kind" EntryKind.decoder fun e kind => { e with kind }]
  blank := default }

end DirEntry

structure SizedEntry where
  name : Text
  kind : EntryKind
  size : Nat
deriving DecidableEq, Repr, Inhabited

namespace SizedEntry

def toJson (e : SizedEntry) : Json :=
  .object [("name", .text e.name), ("kind", e.kind.toJson), ("size", Json.ofNat e.size)]

open Json.Decode in
def decoder : Json.Decoder SizedEntry := record {
  name := "SizedEntry"
  fields := [
    required "name" string fun e name => { e with name },
    required "kind" EntryKind.decoder fun e kind => { e with kind },
    required "size" (word "u64") fun e size => { e with size }]
  blank := default }

def line (e : SizedEntry) : Text :=
  Text.padRight 6 e.kind.label ++ " " ++ Text.padRight 30 e.name ++ " " ++
    Text.padLeft 10 (Text.byteCount e.size)

end SizedEntry

inductive SortBy where
  | name
  | size
deriving DecidableEq, Repr, Inhabited

namespace SortBy

def key : SortBy → Text
  | name => "name"
  | size => "size"

def parse (t : Text) : Except Fault SortBy :=
  if t = "name" then .ok name
  else if t = "size" then .ok size
  else .error (.invalidArgument "sort_by" (some t))

def toJson (s : SortBy) : Json := .text s.key

def decoder : Json.Decoder SortBy := Json.Decode.variant [(name.key, name), (size.key, size)]

end SortBy

structure DirectoryListing where
  entries : List SizedEntry
  fileCount : Nat
  dirCount : Nat
  totalSize : Nat
deriving DecidableEq, Repr, Inhabited

namespace DirectoryListing

def toJson (l : DirectoryListing) : Json :=
  .object [("entries", .array (l.entries.map (·.toJson))), ("fileCount", Json.ofNat l.fileCount),
    ("dirCount", Json.ofNat l.dirCount), ("totalSize", Json.ofNat l.totalSize)]

open Json.Decode in
def decoder : Json.Decoder DirectoryListing := record {
  name := "DirectoryListing"
  fields := [
    required "entries" (list SizedEntry.decoder) fun l entries => { l with entries },
    required "fileCount" (word "usize") fun l fileCount => { l with fileCount },
    required "dirCount" (word "usize") fun l dirCount => { l with dirCount },
    required "totalSize" (word "u64") fun l totalSize => { l with totalSize }]
  blank := default }

def summary (l : DirectoryListing) : Text :=
  "Total: " ++ Text.decimal l.fileCount ++ " files, " ++ Text.decimal l.dirCount ++
    " directories, " ++ Text.byteCount l.totalSize ++ " combined"

/-- One line for each entry, a blank line if there are any, and the summary. -/
def report (l : DirectoryListing) : Text :=
  l.entries.flatMap (fun e => e.line ++ ['\n']) ++ (if l.entries.isEmpty then [] else ['\n']) ++
    l.summary

end DirectoryListing
end GrantFs
