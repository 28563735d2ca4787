import GrantFs.Entry

/-! # Reports of the service

What the service tells about files, and how it is written.
-/
namespace GrantFs

structure BatchItem where
  path : Text
  content : Option Text
  error : Option Text
deriving DecidableEq, Repr, Inhabited

namespace BatchItem

def isOk (r : BatchItem) : Bool := r.error.isNone

def toJson (r : BatchItem) : Json :=
  .object [("path", .text r.path), ("content", Json.ofText? r.content),
    ("error", Json.ofText? r.error)]

open Json.Decode in
def decoder : Json.Decoder BatchItem := record {
  name := "FileReadResult"
  fields := [
    required "path" string fun r path => { r with path },
    nullable "content" string fun r content => { r with content },
    nullable "error" string fun r error => { r with error }]
  blank := default }

end BatchItem

structure FileInfo where
  path : Path
  name : Text
  size : Option Nat
  updatedAt : Option Instant
  mimeType : Text
deriving DecidableEq, Repr, Inhabited

namespace FileInfo

def toJson (i : FileInfo) : Json :=
  .object [("path", i.path.toJson), ("name", .text i.name), ("size", Json.ofNat? i.size),
    ("updatedAt", Entry.instantJson i.updatedAt), ("mimeType", .text i.mimeType)]

open Json.Decode in
def decoder : Json.Decoder FileInfo := record {
  name := "FileInfo"
  fields := [
    required "path" logicalPath fun i path => { i with path },
    required "name" string fun i name => { i with name },
    nullable "size" (word "u64") fun i size => { i with size },
    nullable "updatedAt" time fun i updatedAt => { i with updatedAt },
    required "mimeType" string fun i mimeType => { i with mimeType }]
  blank := default }

end FileInfo

structure AllowedDirectory where
  root : Path
  operations : List Operation
deriving DecidableEq, Repr, Inhabited

namespace AllowedDirectory

def toJson (d : AllowedDirectory) : Json :=
  .object [("prefix", d.root.toJson), ("operations", .array (d.operations.map (·.toJson)))]

open Json.Decode in
def decoder : Json.Decoder AllowedDirectory := record {
  name := "AllowedDirectory"
  fields := [
    required "prefix" logicalPath fun d root => { d with root },
    required "operations" (list Operation.decoder) fun d operations => { d with operations }]
  blank := default }

end AllowedDirectory

structure MediaFile where
  path : Path
  mimeType : Text
  data : Text
deriving DecidableEq, Repr, Inhabited

namespace MediaFile

def toJson (f : MediaFile) : Json :=
  .object [("path", f.path.toJson), ("mimeType", .text f.mimeType), ("data", .text f.data)]

open Json.Decode in
def decoder : Json.Decoder MediaFile := record {
  name := "MediaFile"
  fields := [
    required "path" logicalPath fun f path => { f with path },
    required "mimeType" string fun f mimeType => { f with mimeType },
    required "data" string fun f data => { f with data }]
  blank := default }

end MediaFile
end GrantFs
