import GrantFs.Access
import GrantFs.Os.Tree

/-! # Files on disk

Each namespace has a directory of its own, its root. A path lies at the root of its namespace
followed by its segments. Reading follows whatever lies there; writing and deleting refuse links
below the root. A file is written beside its place and then moved, so a reader never meets half of
it.
-/
namespace GrantFs

structure DiskConfig where
  baseDir : Text
  internal : Option Text := none
  userinput : Option Text := none
  workspace : Option Text := none
  /-- Put the roots without a location of their own into a new directory named for the time. -/
  freshSession : Bool := false
deriving DecidableEq, Repr, Inhabited

namespace DiskConfig

def persistent (baseDir : Text) : DiskConfig := { baseDir }

def fresh (baseDir : Text) : DiskConfig := { baseDir, freshSession := true }

def rootOf? (c : DiskConfig) : Namespace → Option Text
  | .internal => c.internal
  | .userinput => c.userinput
  | .workspace => c.workspace

def toJson (c : DiskConfig) : Json :=
  .object [("baseDir", .text c.baseDir), ("internal", Json.ofText? c.internal),
    ("userinput", Json.ofText? c.userinput), ("workspace", Json.ofText? c.workspace),
    ("freshSession", .bool c.freshSession)]

open Json.Decode in
def decoder : Json.Decoder DiskConfig := record {
  name := "DiskConfig"
  fields := [
    required "baseDir" location fun c baseDir => { c with baseDir },
    nullable "internal" location fun c internal => { c with internal },
    nullable "userinput" location fun c userinput => { c with userinput },
    nullable "workspace" location fun c workspace => { c with workspace },
    defaulted "freshSession" flag fun c freshSession => { c with freshSession }]
  blank := default }

end DiskConfig

structure DiskStore where
  internal : Text
  userinput : Text
  workspace : Text
deriving DecidableEq, Repr

namespace DiskStore

def root (d : DiskStore) : Namespace → Text
  | .internal => d.internal
  | .userinput => d.userinput
  | .workspace => d.workspace

/-- The file below the internal root that tells when the disk was first opened. -/
def marker : Text := ".agentfs_created"

def draftStart : Text := ".agentfs-tmp-"

def writeMarker (d : DiskStore) : OsAction Unit := do
  let location := Os.join d.internal marker
  if !(← (Os.isPresent location : OsProgram Bool)) then
    let now ← (Os.ask .now : OsProgram Instant)
    Os.orFail (Os.ask (.write location (Utf8.encode now.offsetText)))

def openRoot (c : DiskConfig) (session : Text) (ns : Namespace) : OsAction Text := do
  let root := (c.rootOf? ns).getD (Os.join session ns.name)
  Os.makeDirs root
  pure root

/-- Opens the roots, makes the missing ones and writes the marker. -/
def «open» (c : DiskConfig) : OsAction DiskStore := do
  let session ← (if c.freshSession then do
      let now ← (Os.ask .now : OsProgram Instant)
      pure (Os.join c.baseDir now.stampText)
    else pure c.baseDir : OsAction Text)
  let internal ← openRoot c session .internal
  let userinput ← openRoot c session .userinput
  let workspace ← openRoot c session .workspace
  let d : DiskStore := ⟨internal, userinput, workspace⟩
  d.writeMarker
  pure d

def placeOf (path : Path) : Except Fault (Namespace × List Text) :=
  match Namespace.of? path.text with
  | none => .error (.notFound path.text)
  | some ns => .ok (ns, Text.segments (path.text.drop ns.root.text.length))

def locationOf (d : DiskStore) (ns : Namespace) (segments : List Text) : Text :=
  segments.foldl Os.join (d.root ns)

/-- Where a path lies; its segments are taken as they are. -/
def location (d : DiskStore) (path : Path) : Except Fault Text := do
  let (ns, segments) ← placeOf path
  pure (d.locationOf ns segments)

/-- Fails if some existing name on the way from `at_` is a link. -/
def refuseLinks (path : Path) (at_ : Text) : List Text → OsAction Unit
  | [] => pure ()
  | name :: names => do
    let next := Os.join at_ name
    match ← (Os.ask (.status next false) : OsProgram (Except OsError Status)) with
    | .ok s =>
      if s.kind = .link then throw (.invalidPath path.text .symbolicLink)
      else refuseLinks path next names
    | .error .noEntry => pure ()
    | .error why => throw (.io why)

def locationWithoutLinks (d : DiskStore) (path : Path) : OsAction (Namespace × Text) := do
  let (ns, segments) ← (placeOf path : Except Fault (Namespace × List Text))
  refuseLinks path (d.root ns) (segments.filter (· ≠ ['.']))
  pure (ns, d.locationOf ns segments)

def namesText : List Name → Option (List Text)
  | [] => some []
  | name :: names =>
    match Utf8.decode name, namesText names with
    | .ok t, some ts => some (t :: ts)
    | _, _ => none

def pathOf? (ns : Namespace) (names : List Name) : Option Path := do
  let segments ← namesText names
  (Path.ofText (ns.root.text ++ Text.joinWith "/" segments)).toOption

def isDraft (name : Name) : Bool := draftStart.isPrefixOf (Utf8.decodeLossy name)

/-- The entry of a walked file, unless the file is a draft, has no path or is not visible. -/
def entryOf? (root : Text) (ns : Namespace) (grants : List Grant) (f : WalkedFile) :
    Option Entry :=
  let name := f.names.getLast?.getD (Utf8.encode ((Os.components root).getLast?.getD []))
  if isDraft name then none
  else
    match pathOf? ns f.names with
    | none => none
    | some path =>
      if isVisible grants path.text then some ⟨path, some f.size, f.modified⟩ else none

/-- Adds the visible files of a namespace; a namespace that no grant overlaps is passed over. -/
def addNamespace (d : DiskStore) (grants : List Grant) (s : Snapshot) (ns : Namespace) :
    OsAction Snapshot := do
  if grants.any (·.overlaps ns.root.text) then
    let files ← Os.orFail (Os.ask (.walk (d.root ns)))
    let entries := files.filterMap (entryOf? (d.root ns) ns grants)
    pure (entries.foldl (fun s e => s.insert e.path e) s)
  else pure s

def snapshot (d : DiskStore) (grants : List Grant) : OsAction Snapshot := do
  let s ← d.addNamespace grants ∅ .internal
  let s ← d.addNamespace grants s .userinput
  d.addNamespace grants s .workspace

def readFault (path : Path) : OsError → Fault
  | .noEntry => .notFound path.text
  | why => .io why

def read (d : DiskStore) (path : Path) : OsAction Bytes := do
  let location ← (d.location path : Except Fault Text)
  if !(← (Os.isFile location : OsProgram Bool)) then throw (.notFound path.text)
  match ← (Os.ask (.read location) : OsProgram (Except OsError Bytes)) with
  | .ok data => pure data
  | .error why => throw (readFault path why)

/-- Moves a draft to its place; one that cannot be moved is removed. -/
def moveDraft (path : Path) (draft location : Text) : OsAction Entry := do
  match ← (Os.ask (.move draft location) : OsProgram (Except OsError Unit)) with
  | .ok () => do
    let s ← Os.orFail (Os.ask (.status location true))
    pure ⟨path, some s.size, s.modified⟩
  | .error why => do
    let _ ← (Os.ask (.removeFile draft) : OsProgram (Except OsError Unit))
    throw (.io why)

/-- Writes a draft in the directory of the location and moves it there. -/
def putInPlace (path : Path) (location : Text) (data : Bytes) : OsAction Entry := do
  let dir := Os.parent location
  Os.makeDirs dir
  let token ← (Os.ask .token : OsProgram Text)
  let draft := Os.join dir (draftStart ++ token)
  Os.orFail (Os.ask (.write draft data))
  moveDraft path draft location

/-- Directories are not replaced, and files only with `overwrite`. -/
def write (d : DiskStore) (path : Path) (data : Bytes) (overwrite : Bool) : OsAction Entry := do
  let (_, location) ← d.locationWithoutLinks path
  if ← (Os.isDir location : OsProgram Bool) then throw (.conflict path.text)
  if !overwrite then
    if ← (Os.isPresent location : OsProgram Bool) then throw (.conflict path.text)
  putInPlace path location data

/-- Removes directories, the first one first, up to one that cannot be removed. -/
def prune : List Text → OsProgram Unit
  | [] => pure ()
  | dir :: above => do
    match ← Os.ask (.removeDir dir) with
    | .ok () => prune above
    | .error _ => pure ()

def dirsBetween (root location : Text) : List Text :=
  let depth := (Os.components root).length
  let dir := Os.parent location
  (dir :: Os.ancestors dir).take ((Os.components dir).length - depth)

def delete (d : DiskStore) (path : Path) : OsAction Unit := do
  let (ns, location) ← d.locationWithoutLinks path
  if !(← (Os.isFile location : OsProgram Bool)) then throw (.notFound path.text)
  match ← (Os.ask (.removeFile location) : OsProgram (Except OsError Unit)) with
  | .ok () => prune (dirsBetween (d.root ns) location)
  | .error why => throw (readFault path why)

def perform (d : DiskStore) : (c : Call) → OsAction c.Reply
  | .snapshot grants => d.snapshot grants
  | .readBytes path => d.read path
  | .readText path index count => do
    let data ← d.read path
    (sliceLines (Utf8.decodeLossy data) index count : Except Fault Text)
  | .readMatches path pattern overlap => do
    let data ← d.read path
    (Regex.scan pattern overlap (Utf8.decodeLossy data) : Except Fault (List Text))
  | .write path data overwrite => d.write path data overwrite
  | .delete path => d.delete path

def backend (d : DiskStore) (now : Instant) : Backend OsTree := fun c t =>
  Program.run (OsTree.answer now []) (d.perform c).run t

end DiskStore
end GrantFs
