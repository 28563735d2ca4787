import GrantFs.Handle
import GrantFs.Policy
import GrantFs.Store.Disk

/-! # Settings

Which store is used, which namespaces are granted and under which policy. Settings are read once
from a file and checked; what the file leaves out has a default.
-/
namespace GrantFs

structure Surroundings where
  home : Text
  dataHome : Option Text := none
  configHome : Option Text := none
deriving DecidableEq, Repr

namespace Surroundings

/-- A directory given by a variable, which counts only if it is absolute, or its place in the home
directory. -/
def directory (s : Surroundings) (given : Option Text) (place : Text) : Text :=
  match given with
  | some location => if Os.isAbsolute location then location else Os.join s.home place
  | none => Os.join s.home place

def defaultBaseDir (s : Surroundings) : Text :=
  Os.join (s.directory s.dataHome ".local/share") "agentfs"

def settingsFile (s : Surroundings) : Text :=
  Os.join (Os.join (s.directory s.configHome ".config") "agentfs") "settings.json"

end Surroundings

inductive StorageConfig where
  | memory
  | disk (c : DiskConfig)
deriving DecidableEq, Repr

namespace StorageConfig

def toJson : StorageConfig → Json
  | memory => .object [("kind", .text "memory")]
  | disk c =>
    match c.toJson with
    | .object members => .object (("kind", .text "disk") :: members)
    | j => j

inductive Kind where
  | memory
  | disk
deriving DecidableEq, Repr

def ofContent (content : Json) : Kind → Except Json.Flaw StorageConfig
  | .memory => do
    Json.Decode.record ⟨"StorageConfig", [], ()⟩ .gathered (Json.Doc.ofJson content)
    pure memory
  | .disk => (DiskConfig.decoder .gathered (Json.Doc.ofJson content)).map disk

def decoder : Json.Decoder StorageConfig := fun source d => do
  let (kind, content) ←
    Json.Decode.tagged "StorageConfig" "kind" [("memory", Kind.memory), ("disk", Kind.disk)]
      source d
  ofContent content kind

end StorageConfig

structure Settings where
  storage : StorageConfig
  namespaces : List Namespace
  policy : Policy
deriving DecidableEq, Repr

namespace Settings

/-- All namespaces on disk, in roots that stay the same. -/
def ofBaseDir (baseDir : Text) : Settings where
  storage := .disk (.persistent baseDir)
  namespaces := Namespace.all
  policy := {}

def defaults (s : Surroundings) : Settings := ofBaseDir s.defaultBaseDir

def toJson (s : Settings) : Json :=
  .object [("storage", s.storage.toJson), ("namespaces", .array (s.namespaces.map (·.toJson))),
    ("policy", s.policy.toJson)]

open Json.Decode in
def decoder (blank : Settings) : Json.Decoder Settings := record {
  name := "FsSettings"
  fields := [
    defaulted "storage" StorageConfig.decoder fun s storage => { s with storage },
    defaulted "namespaces" (list Namespace.decoder) fun s namespaces => { s with namespaces },
    defaulted "policy" Policy.decoder fun s policy => { s with policy }]
  blank }

/-- Settings without a namespace or with an empty read limit are refused. -/
def validate (s : Settings) : Except Fault Unit :=
  if s.namespaces.isEmpty then .error (.config "at least one namespace must be granted")
  else if s.policy.maxLines = some 0 ∨ s.policy.maxBytes = some 0 then
    .error (.config "read limits must be positive")
  else .ok ()

def ofText (blank : Settings) (t : Text) : Except Fault Settings := do
  match Json.decodeText (decoder blank) t with
  | .error why => throw (.json why)
  | .ok s =>
    s.validate
    pure s

def unreadable (location why : Text) : Fault :=
  .config ("Failed to read settings " ++ Text.quoted location ++ ": " ++ why)

def fileText (location : Text) : Except OsError Bytes → Except Fault Text
  | .error why => .error (unreadable location why.message)
  | .ok data =>
    match Utf8.decode data with
    | .ok t => .ok t
    | .error _ => .error (unreadable location "stream did not contain valid UTF-8")

def load (blank : Settings) (location : Text) : OsAction Settings := do
  let data ← (Os.ask (.read location) : OsProgram (Except OsError Bytes))
  let t ← (fileText location data : Except Fault Text)
  (ofText blank t : Except Fault Settings)

def loadOrDefault (blank : Settings) (location : Text) : OsAction Settings := do
  if ← (Os.isPresent location : OsProgram Bool) then load blank location else pure blank

def handle (s : Settings) : Handle := Handle.ofNamespaces s.namespaces

end Settings
end GrantFs
