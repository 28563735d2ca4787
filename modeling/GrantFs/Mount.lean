import GrantFs.Service
import GrantFs.Settings
import GrantFs.Store.Memory

/-! # Mounted stores

The store that settings ask for, ready to answer: files in memory are part of the session, files on
disk belong to the operating system.
-/
namespace GrantFs

inductive Mount where
  | memory (s : MemoryStore)
  | disk (d : DiskStore)

structure Session where
  mount : Mount
  index : Snapshot

namespace Session

def answerCall (c : Call) : StateT Session (Program OsCall.signature) (Except Fault c.Reply) := do
  let session ← get
  match session.mount with
  | .memory s => do
    let now ← (Os.ask .now : OsProgram Instant)
    let (reply, s) := MemoryStore.backend now c s
    set { session with mount := .memory s }
    pure reply
  | .disk d => (d.perform c).run

def answer : (q : Access) → StateT Session (Program OsCall.signature) q.Reply
  | .call c => answerCall c
  | .replaceIndex s => modify fun session => { session with index := s }
  | .lookup path => do pure ((← get).index.get? path)
  | .entries => do pure (← get).index.values
  | .insertIndex path e =>
    modify fun session => { session with index := session.index.insert path e }
  | .removeIndex path => modify fun session => { session with index := session.index.erase path }

def run {α : Type} (x : Action α) (session : Session) : OsProgram (Except Fault α × Session) :=
  (Program.runIn answer x.run).run session

end Session

namespace Settings

def mount (s : Settings) : OsAction Mount :=
  match s.storage with
  | .memory => pure (.memory .empty)
  | .disk c => do pure (.disk (← DiskStore.open c))

def service (s : Settings) : OsAction (Service × Session) := do
  (s.validate : Except Fault Unit)
  let mount ← s.mount
  pure (⟨s.handle, s.policy⟩, ⟨mount, ∅⟩)

end Settings
end GrantFs
