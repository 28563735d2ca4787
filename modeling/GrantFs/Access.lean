import GrantFs.Entry
import GrantFs.Program
import GrantFs.Regex.Scan
import GrantFs.Text.Lines

/-! # Access to a store

A backend is whatever answers the six calls. A handle also keeps an index, the last snapshot of the
entries it can see. An action is a program of calls and accesses to the index that may fail.
-/
namespace GrantFs

inductive Call where
  | snapshot (grants : List Grant)
  | readBytes (path : Path)
  | readText (path : Path) (index count : Option Nat)
  | readMatches (path : Path) (pattern : Text) (overlap : Option Nat)
  | write (path : Path) (data : Bytes) (overwrite : Bool)
  | delete (path : Path)

abbrev Call.Reply : Call → Type
  | snapshot _ => Snapshot
  | readBytes _ => Bytes
  | readText .. => Text
  | readMatches .. => List Text
  | write .. => Entry
  | delete _ => Unit

abbrev Backend (σ : Type) := (c : Call) → σ → Except Fault c.Reply × σ

/-- What a handle does in one step: a call to the backend, or something to its index. -/
inductive Access where
  | call (c : Call)
  | replaceIndex (s : Snapshot)
  | lookup (path : Path)
  | entries
  | insertIndex (path : Path) (e : Entry)
  | removeIndex (path : Path)

abbrev Access.Reply : Access → Type
  | call c => Except Fault c.Reply
  | replaceIndex _ => Unit
  | lookup _ => Option Entry
  | entries => List Entry
  | insertIndex .. => Unit
  | removeIndex _ => Unit

abbrev Access.signature : Signature := ⟨Access, Access.Reply⟩

abbrev Action (α : Type) := ExceptT Fault (Program Access.signature) α

structure World (σ : Type) where
  store : σ
  index : Snapshot

def Backend.answer {σ : Type} (b : Backend σ) : (q : Access) → World σ → q.Reply × World σ
  | .call c, w => ((b c w.store).1, { w with store := (b c w.store).2 })
  | .replaceIndex s, w => ((), { w with index := s })
  | .lookup path, w => (w.index.get? path, w)
  | .entries, w => (w.index.values, w)
  | .insertIndex path e, w => ((), { w with index := w.index.insert path e })
  | .removeIndex path, w => ((), { w with index := w.index.erase path })

namespace Action

def runWith {σ α : Type} (b : Backend σ) (x : Action α) (w : World σ) :
    Except Fault α × World σ :=
  Program.run b.answer x.run w

/-- Asks the backend; its failure is the action's. -/
def call (c : Call) : Action c.Reply :=
  ExceptT.mk (Program.question (S := Access.signature) (.call c))

def replaceIndex (s : Snapshot) : Action Unit :=
  ExceptT.lift (Program.question (S := Access.signature) (.replaceIndex s))

def lookup (path : Path) : Action (Option Entry) :=
  ExceptT.lift (Program.question (S := Access.signature) (.lookup path))

def entries : Action (List Entry) :=
  ExceptT.lift (Program.question (S := Access.signature) .entries)

def insertIndex (path : Path) (e : Entry) : Action Unit :=
  ExceptT.lift (Program.question (S := Access.signature) (.insertIndex path e))

def removeIndex (path : Path) : Action Unit :=
  ExceptT.lift (Program.question (S := Access.signature) (.removeIndex path))

/-- The outcome of an action as a value, so that a failure does not end what is done around it. -/
def outcome {α : Type} (x : Action α) : Action (Except Fault α) := ExceptT.lift x.run

end Action

def checkCount (count : Option Nat) : Except Fault Unit :=
  if count = some 0 then .error (.invalidArgument "line" (some "0")) else .ok ()

/-- The lines of a text from the `index`-th on, at most `count` of them. -/
def sliceLines (t : Text) (index count : Option Nat) : Except Fault Text := do
  checkCount count
  pure (t.window index count)

end GrantFs
