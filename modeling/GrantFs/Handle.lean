import GrantFs.Access

/-! # Handles

A handle is the only way to a backend. Every operation checks the path, then the grants, then its
other arguments, and only then asks the backend; whether a file exists is decided on a snapshot
taken anew, never on what the index held before.
-/
namespace GrantFs

structure Handle where
  grants : List Grant
deriving DecidableEq, Repr

namespace Handle

def permits (h : Handle) (path : Text) (op : Operation) : Bool := GrantFs.permits h.grants path op

def authorize (h : Handle) (path : Path) (op : Operation) : Except Fault Unit :=
  if h.permits path.text op then .ok () else .error (.accessDenied path.text op)

def checked (h : Handle) (path : Text) (op : Operation) : Except Fault Path := do
  let p ← Path.parse path
  h.authorize p op
  pure p

/-- What a listing is limited to; without a limit some grant has to carry the operation. -/
def checkedStart (h : Handle) : Option Text → Except Fault (Option Path)
  | some start => do
    let p ← h.checked start .list
    pure (some p)
  | none =>
    if h.grants.any (·.allows .list) then .ok none else .error (.accessDenied "/" .list)

def checkedTarget (h : Handle) (path : Text) : Except Fault Path := do
  let p ← Path.parse path
  if p.isDirLike then throw (.invalidPath p.text .namesDirectory)
  h.authorize p .write
  pure p

def refresh (h : Handle) : Action Unit := do
  let s ← Action.call (.snapshot h.grants)
  Action.replaceIndex s

def requireExisting (h : Handle) (path : Path) : Action Entry := do
  h.refresh
  match ← Action.lookup path with
  | some e => pure e
  | none => throw (.notFound path.text)

/-- The entries below `start`, or all visible ones, in the order of their paths. -/
def list (h : Handle) (start : Option Text) : Action (List Entry) := do
  let start ← (h.checkedStart start : Except Fault (Option Path))
  h.refresh
  let entries ← Action.entries
  pure (match start with
    | none => entries
    | some start => entries.filter (·.path.startsWith start.text))

def file (h : Handle) (path : Text) : Action Entry := do
  let path ← (h.checked path .inspect : Except Fault Path)
  h.requireExisting path

def readBytes (h : Handle) (path : Text) : Action Bytes := do
  let path ← (h.checked path .readBytes : Except Fault Path)
  let _ ← h.requireExisting path
  Action.call (.readBytes path)

/-- The text of a file, or the lines from the `index`-th on, at most `count` of them. -/
def readText (h : Handle) (path : Text) (index count : Option Nat) : Action Text := do
  let path ← (h.checked path .readText : Except Fault Path)
  (checkCount count : Except Fault Unit)
  let _ ← h.requireExisting path
  Action.call (.readText path index count)

def readMatches (h : Handle) (path pattern : Text) (overlap : Option Nat) : Action (List Text) := do
  let path ← (h.checked path .readMatches : Except Fault Path)
  let _ ← (Regex.check pattern : Except Fault Regex.Machine)
  let _ ← h.requireExisting path
  Action.call (.readMatches path pattern overlap)

/-- Stores a file. Without `overwrite` an existing file is a conflict. -/
def write (h : Handle) (path : Text) (data : Bytes) (overwrite : Bool) : Action Entry := do
  let path ← (h.checkedTarget path : Except Fault Path)
  h.refresh
  if !overwrite then
    if (← Action.lookup path).isSome then throw (.conflict path.text)
  let e ← Action.call (.write path data overwrite)
  Action.insertIndex path e
  pure e

def delete (h : Handle) (path : Text) : Action Unit := do
  let path ← (h.checked path .delete : Except Fault Path)
  let _ ← h.requireExisting path
  Action.call (.delete path)
  Action.removeIndex path

/-- One grant for each namespace, in the order in which they are first named. -/
def ofNamespaces (namespaces : List Namespace) : Handle :=
  ⟨namespaces.foldl (fun grants ns =>
    if grants.contains ns.grant then grants else grants ++ [ns.grant]) []⟩

/-- The namespaces with the given names; the first unknown name is reported. -/
def namespacesOf : List Text → Except Fault (List Namespace)
  | [] => .ok []
  | name :: names =>
    match Namespace.ofName? name with
    | none => .error (.invalidArgument "namespace" (some name))
    | some ns => (namespacesOf names).map (ns :: ·)

def ofNames (names : List Text) : Except Fault Handle := (namespacesOf names).map ofNamespaces

end Handle
end GrantFs
