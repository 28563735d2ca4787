import GrantFs.Fault
import GrantFs.Program

/-! # Calls to the operating system

What the disk backend and the command line ask of the operating system. Locations are given as text,
absolute or relative to the current directory; names of files are bytes.
-/
namespace GrantFs

abbrev Name := Bytes

inductive FileKind where
  | dir
  | file
  | link
deriving DecidableEq, Repr

structure Status where
  kind : FileKind
  size : Nat
  modified : Option Instant
deriving DecidableEq, Repr

/-- A regular file met on a walk, by the names from the root of the walk to it. -/
structure WalkedFile where
  names : List Name
  size : Nat
  modified : Option Instant
deriving DecidableEq, Repr

inductive OsCall where
  | makeDir (location : Text)
  /-- The status of a file; `follow` tells whether a link stands for its target. -/
  | status (location : Text) (follow : Bool)
  | read (location : Text)
  /-- Creates a file or replaces its content. -/
  | write (location : Text) (data : Bytes)
  /-- Moves a file, also over another one. -/
  | move (source target : Text)
  | removeFile (location : Text)
  | removeDir (location : Text)
  /-- All regular files below a directory that are reached without following links. -/
  | walk (root : Text)
  /-- A piece of a name that no file has. -/
  | token
  | now
  | input

abbrev OsCall.Reply : OsCall → Type
  | makeDir _ => Except OsError Unit
  | status .. => Except OsError Status
  | read _ => Except OsError Bytes
  | write .. => Except OsError Unit
  | move .. => Except OsError Unit
  | removeFile _ => Except OsError Unit
  | removeDir _ => Except OsError Unit
  | walk _ => Except OsError (List WalkedFile)
  | token => Text
  | now => Instant
  | input => Bytes

abbrev OsCall.signature : Signature := ⟨OsCall, OsCall.Reply⟩

abbrev OsProgram (α : Type) := Program OsCall.signature α

abbrev OsAction (α : Type) := ExceptT Fault (Program OsCall.signature) α

namespace Os

def ask (q : OsCall) : OsProgram q.Reply := Program.question (S := OsCall.signature) q

def orFail {α : Type} (x : OsProgram (Except OsError α)) : OsAction α :=
  ExceptT.mk do
    match ← x with
    | .ok a => pure (.ok a)
    | .error why => pure (.error (.io why))

def isDir (location : Text) : OsProgram Bool := do
  match ← ask (.status location true) with
  | .ok s => pure (s.kind = .dir)
  | .error _ => pure false

def isFile (location : Text) : OsProgram Bool := do
  match ← ask (.status location true) with
  | .ok s => pure (s.kind = .file)
  | .error _ => pure false

/-- Whether something can be reached at the location; a dangling link is nothing. -/
def isPresent (location : Text) : OsProgram Bool := do
  match ← ask (.status location true) with
  | .ok _ => pure true
  | .error _ => pure false

def isAbsolute (location : Text) : Bool := location.head? = some '/'

/-- A location below another one; an absolute one stays as it is. -/
def join (location rest : Text) : Text :=
  if isAbsolute rest ∨ location.isEmpty then rest
  else if location.getLast? = some '/' then location ++ rest
  else location ++ '/' :: rest

/-- The names in a location; single dots do not count. -/
def components (location : Text) : List Text :=
  (Text.segments location).filter (· ≠ ['.'])

def ofComponents (absolute : Bool) (names : List Text) : Text :=
  (if absolute then "/" else "") ++ Text.joinWith "/" names

def parent (location : Text) : Text :=
  ofComponents (isAbsolute location) (components location).dropLast

/-- The directories above, the nearest first; neither the top nor the current one is among them. -/
def ancestors (location : Text) : List Text :=
  let names := components location
  (List.range (names.length - 1)).reverse.map fun k =>
    ofComponents (isAbsolute location) (names.take (k + 1))

/-- A failure to make a directory does not count where there is one. -/
def settle (location : Text) : Except OsError Unit → OsAction Unit
  | .ok () => pure ()
  | .error why => do
    if ← (isDir location : OsProgram Bool) then pure () else throw (.io why)

/-- Makes the first of the directories; each is made inside of the next one. -/
def makeDirsAmong : List Text → OsAction Unit
  | [] => pure ()
  | location :: above => do
    match ← (ask (.makeDir location) : OsProgram (Except OsError Unit)) with
    | .error .noEntry => do
      makeDirsAmong above
      let again ← (ask (.makeDir location) : OsProgram (Except OsError Unit))
      settle location again
    | result => settle location result

def makeDirs (location : Text) : OsAction Unit :=
  if location.isEmpty then pure () else makeDirsAmong (location :: ancestors location)

end Os
end GrantFs
