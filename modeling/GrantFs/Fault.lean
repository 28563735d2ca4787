import GrantFs.Json.Flaw
import GrantFs.Operation

/-! # Faults

Every way in which an operation can fail, as causes; the wording stands in one place.
-/
namespace GrantFs

inductive OsError where
  | noEntry
  | busy
  | exists
  | notDirectory
  | isDirectory
  | invalidArgument
  | nameTooLong
  | notEmpty
  | linkLoop
  | other (number : Nat) (description : Text)
deriving DecidableEq, Repr

namespace OsError

def number : OsError → Nat
  | noEntry => 2
  | busy => 16
  | «exists» => 17
  | notDirectory => 20
  | isDirectory => 21
  | invalidArgument => 22
  | nameTooLong => 36
  | notEmpty => 39
  | linkLoop => 40
  | other number _ => number

def description : OsError → Text
  | noEntry => "No such file or directory"
  | busy => "Device or resource busy"
  | «exists» => "File exists"
  | notDirectory => "Not a directory"
  | isDirectory => "Is a directory"
  | invalidArgument => "Invalid argument"
  | nameTooLong => "File name too long"
  | notEmpty => "Directory not empty"
  | linkLoop => "Too many levels of symbolic links"
  | other _ description => description

def message (e : OsError) : Text :=
  e.description ++ " (os error " ++ Text.decimal e.number ++ ")"

end OsError

inductive FsFault where
  | invalidPath (path : Text) (why : PathFlaw)
  | accessDenied (path : Text) (op : Operation)
  | notFound (path : Text)
  | conflict (path : Text)
  | invalidArgument (argument : Text) (value : Option Text)
deriving DecidableEq, Repr

def FsFault.message : FsFault → Text
  | invalidPath path why => "Invalid path " ++ Text.quoted path ++ ": " ++ why.message
  | accessDenied path op => "Access denied: " ++ op.name ++ " on " ++ path
  | notFound path => "Not found: " ++ path
  | conflict path => "Already exists: " ++ path
  | invalidArgument argument none => "Invalid argument " ++ argument
  | invalidArgument argument (some value) => "Invalid argument " ++ argument ++ ": " ++ value

inductive Fault where
  | fs (why : FsFault)
  | io (why : OsError)
  | json (why : Json.Flaw)
  | config (message : Text)
deriving DecidableEq, Repr

namespace Fault

def message : Fault → Text
  | fs why => "Filesystem error: " ++ why.message
  | io why => "IO error: " ++ why.message
  | json why => "JSON error: " ++ why.message
  | config message => "Configuration error: " ++ message

def cause? : Fault → Option Text
  | fs why => some why.message
  | io why => some why.message
  | json why => some why.message
  | config _ => none

def toJson (f : Fault) : Json := .text f.message

def invalidPath (path : Text) (why : PathFlaw) : Fault := .fs (.invalidPath path why)

def accessDenied (path : Text) (op : Operation) : Fault := .fs (.accessDenied path op)

def notFound (path : Text) : Fault := .fs (.notFound path)

def conflict (path : Text) : Fault := .fs (.conflict path)

def invalidArgument (argument : Text) (value : Option Text) : Fault :=
  .fs (.invalidArgument argument value)

end Fault

def Path.parse (t : Text) : Except Fault Path :=
  match Path.ofText t with
  | .ok p => .ok p
  | .error why => .error (.invalidPath t why)

/-- Appends `rest`, without its leading slashes, below the path taken as a directory. -/
def Path.join (p : Path) (rest : Text) : Except Fault Path :=
  Path.parse (p.asDir.text ++ rest.dropWhile (· = '/'))

end GrantFs
