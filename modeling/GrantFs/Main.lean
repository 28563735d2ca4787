import GrantFs.Cli
import Std.Time.DateTime.Timestamp

/-! # The program

Answers the calls of a run of the command line from the operating system and prints what the run
leaves.
-/
namespace GrantFs.Console

/-- The failures that have a name, and any other one by its number. Some calls give the number
negated. -/
def failureOf (code : UInt32) (description : String) : OsError :=
  let number := code.toInt32.toInt.natAbs
  let named : List OsError := [.noEntry, .busy, .exists, .notDirectory, .isDirectory,
    .invalidArgument, .nameTooLong, .notEmpty, .linkLoop]
  (named.find? (·.number = number)).getD (.other number description.toList)

def failure : IO.Error → OsError
  | .otherError number description
  | .resourceBusy number description
  | .resourceVanished number description
  | .unsupportedOperation number description
  | .hardwareFault number description
  | .unsatisfiedConstraints number description
  | .illegalOperation number description
  | .protocolError number description
  | .timeExpired number description
  | .alreadyExists _ number description
  | .interrupted _ number description
  | .noFileOrDirectory _ number description
  | .invalidArgument _ number description
  | .permissionDenied _ number description
  | .resourceExhausted _ number description
  | .inappropriateType _ number description
  | .noSuchThing _ number description => failureOf number description
  | .unexpectedEof => .other 5 "Input/output error"
  | .userError description => .other 0 description.toList

def attempt {α : Type} (x : IO α) : IO (Except OsError α) := do
  return (← x.toBaseIO).mapError failure

def native (location : Text) := (IO.FS.DirEntry.mk (String.ofList location) "").root

def instant (t : IO.FS.SystemTime) : Instant := ⟨t.sec, t.nsec.toNat⟩

def kindOf : IO.FS.FileType → FileKind
  | .dir => .dir
  | .symlink => .link
  | _ => .file

def statusOf (m : IO.FS.Metadata) : Status :=
  ⟨kindOf m.type, m.byteSize.toNat, some (instant m.modified)⟩

/-- The regular files in a directory, by the names that lead to it from the root of the walk. -/
partial def filesIn (dir : IO.FS.DirEntry) (names : List Name) : IO (List WalkedFile) := do
  let mut found := []
  for entry in ← dir.path.readDir do
    let names := names ++ [entry.fileName.toUTF8.toList]
    let status := statusOf (← entry.path.symlinkMetadata)
    match status.kind with
    | .dir => found := found ++ (← filesIn entry names)
    | .file => found := found ++ [⟨names, status.size, status.modified⟩]
    | .link => pure ()
  return found

/-- A walk starts in a directory, also behind a link. A root that is a file is the only file met. -/
def walk (root : Text) : IO (List WalkedFile) := do
  let status := statusOf (← (native root).symlinkMetadata)
  match status.kind with
  | .dir => filesIn ⟨native root, "."⟩ []
  | .file => return [⟨[], status.size, status.modified⟩]
  | .link =>
    match (statusOf (← (native root).metadata)).kind with
    | .dir => filesIn ⟨native root, "."⟩ []
    | _ => return []

def bytesOf (data : ByteArray) : Bytes := data.toList

def now : IO Instant := do
  let elapsed := (← Std.Time.Timestamp.now).toNanosecondsSinceUnixEpoch.val
  return ⟨elapsed.fdiv 1000000000, (elapsed.fmod 1000000000).toNat⟩

def token : IO Text := do
  return (← IO.getRandomBytes 16).toList.flatMap fun b =>
    [Nat.digitChar (b.toNat / 16), Nat.digitChar (b.toNat % 16)]

def answer : (q : OsCall) → IO q.Reply
  | .makeDir location => attempt (IO.FS.createDir (native location))
  | .status location follow =>
    attempt do
      let path := native location
      return statusOf (← if follow then path.metadata else path.symlinkMetadata)
  | .read location => attempt do return bytesOf (← IO.FS.readBinFile (native location))
  | .write location data => attempt (IO.FS.writeBinFile (native location) ⟨data.toArray⟩)
  | .move source target => attempt (IO.FS.rename (native source) (native target))
  | .removeFile location => attempt (IO.FS.removeFile (native location))
  | .removeDir location => attempt (IO.FS.removeDir (native location))
  | .walk root => attempt (walk root)
  | .token => token
  | .now => now
  | .input => do
    match ← attempt (IO.FS.readBinFile "/dev/stdin") with
    | .ok data => return bytesOf data
    | .error _ => return []

def surroundings : IO Surroundings := do
  let value (name : String) : IO (Option Text) := do
    return (← IO.getEnv name).map String.toList
  return {
    home := (← value "HOME").getD []
    dataHome := ← value "XDG_DATA_HOME"
    configHome := ← value "XDG_CONFIG_HOME" }

end GrantFs.Console

open GrantFs in
def main (args : List String) : IO UInt32 := do
  let run := Cli.run (← Console.surroundings) (args.map String.toList)
  let outcome ← run.runIn Console.answer
  IO.print (String.ofList outcome.stdout)
  IO.eprint (String.ofList outcome.stderr)
  return outcome.code.toUInt32
