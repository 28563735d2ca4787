import GrantFs.Handle
import GrantFs.Proofs.Action
import GrantFs.Proofs.Path

/-! # Requests to a handle

The operations of a handle as data. Every request is approved first, on its arguments and the grants
alone, and then carried out. Main statement: for a request a handle makes no call to its backend but
a snapshot under its own grants and, if it permits the operation, the one call the request is for.
-/
namespace GrantFs

inductive FileTask where
  | inspect
  | readBytes
  | readText (index count : Option Nat)
  | readMatches (pattern : Text) (overlap : Option Nat)
  | write (data : Bytes) (overwrite : Bool)
  | delete
deriving DecidableEq, Repr

namespace FileTask

abbrev Reply : FileTask → Type
  | inspect => Entry
  | readBytes => Bytes
  | readText .. => Text
  | readMatches .. => List Text
  | write .. => Entry
  | delete => Unit

def operation : FileTask → Operation
  | inspect => .inspect
  | readBytes => .readBytes
  | readText .. => .readText
  | readMatches .. => .readMatches
  | write .. => .write
  | delete => .delete

/-- The call that the task is for. An inspection has none behind the snapshot. -/
def call? (p : Path) : FileTask → Option Call
  | inspect => none
  | readBytes => some (.readBytes p)
  | readText index count => some (.readText p index count)
  | readMatches pattern overlap => some (.readMatches p pattern overlap)
  | write data overwrite => some (.write p data overwrite)
  | delete => some (.delete p)

def isWrite : FileTask → Bool
  | write _ _ => true
  | _ => false

/-- Refuses an empty window of lines and a text that is no pattern. -/
def checkArguments : FileTask → Except Fault Unit
  | readText _ count => checkCount count
  | readMatches pattern _ => (Regex.check pattern).map fun _ => ()
  | _ => .ok ()

end FileTask

inductive Request where
  | list (start : Option Text)
  | file (path : Text) (task : FileTask)
deriving DecidableEq, Repr

def Request.isRead : Request → Bool
  | .file _ (.write _ _) => false
  | .file _ .delete => false
  | _ => true

abbrev Request.Reply : Request → Type
  | list _ => List Entry
  | file _ task => task.Reply

namespace Handle

def perform (h : Handle) (path : Text) : (task : FileTask) → Action task.Reply
  | .inspect => h.file path
  | .readBytes => h.readBytes path
  | .readText index count => h.readText path index count
  | .readMatches pattern overlap => h.readMatches path pattern overlap
  | .write data overwrite => h.write path data overwrite
  | .delete => h.delete path

def fulfil (h : Handle) : (r : Request) → Action r.Reply
  | .list start => h.list start
  | .file path task => h.perform path task

def checkedFor (h : Handle) (path : Text) : FileTask → Except Fault Path
  | .write _ _ => h.checkedTarget path
  | task => h.checked path task.operation

/-- All checks that need neither the backend nor the index, in the order in which they are made. -/
def approve (h : Handle) (path : Text) (task : FileTask) : Except Fault Path := do
  let p ← h.checkedFor path task
  task.checkArguments
  pure p

def carryOut (h : Handle) (p : Path) : (task : FileTask) → Action task.Reply
  | .inspect => h.requireExisting p
  | .readBytes => do
    let _ ← h.requireExisting p
    Action.call (.readBytes p)
  | .readText index count => do
    let _ ← h.requireExisting p
    Action.call (.readText p index count)
  | .readMatches pattern overlap => do
    let _ ← h.requireExisting p
    Action.call (.readMatches p pattern overlap)
  | .write data overwrite => do
    h.refresh
    if !overwrite then
      if (← Action.lookup p).isSome then throw (.conflict p.text)
    let e ← Action.call (.write p data overwrite)
    Action.insertIndex p e
    pure e
  | .delete => do
    let _ ← h.requireExisting p
    Action.call (.delete p)
    Action.removeIndex p

theorem perform_eq (h : Handle) (path : Text) (task : FileTask) :
    h.perform path task = (do
      let p ← (h.approve path task : Except Fault Path)
      h.carryOut p task) := by
  cases task with
  | inspect =>
    simp only [perform, file, approve, checkedFor, FileTask.operation]
    cases h.checked path .inspect <;> rfl
  | readBytes =>
    simp only [perform, readBytes, approve, checkedFor, FileTask.operation]
    cases h.checked path .readBytes <;> rfl
  | readText index count =>
    simp only [perform, readText, approve, checkedFor, FileTask.operation, FileTask.checkArguments]
    cases h.checked path .readText with
    | error why => rfl
    | ok p => cases checkCount count <;> rfl
  | readMatches pattern overlap =>
    simp only [perform, readMatches, approve, checkedFor, FileTask.operation,
      FileTask.checkArguments]
    cases h.checked path .readMatches with
    | error why => rfl
    | ok p => cases Regex.check pattern <;> rfl
  | write data overwrite =>
    simp only [perform, write, approve, checkedFor]
    cases h.checkedTarget path <;> rfl
  | delete =>
    simp only [perform, delete, approve, checkedFor, FileTask.operation]
    cases h.checked path .delete <;> rfl

theorem checked_of_flaw (h : Handle) {path : Text} {why : PathFlaw} (op : Operation)
    (hflaw : Path.flaw? path = some why) : h.checked path op = .error (.invalidPath path why) := by
  rw [checked, Path.parse_of_flaw hflaw]
  rfl

theorem checked_text (h : Handle) (p : Path) (op : Operation) :
    h.checked p.text op =
      if h.permits p.text op then .ok p else .error (.accessDenied p.text op) := by
  rw [checked, Path.parse_text]
  show (do h.authorize p op; pure p) = _
  unfold authorize
  split <;> rfl

theorem checkedTarget_of_flaw (h : Handle) {path : Text} {why : PathFlaw}
    (hflaw : Path.flaw? path = some why) :
    h.checkedTarget path = .error (.invalidPath path why) := by
  rw [checkedTarget, Path.parse_of_flaw hflaw]
  rfl

theorem checkedTarget_text (h : Handle) (p : Path) :
    h.checkedTarget p.text =
      if p.isDirLike then .error (.invalidPath p.text .namesDirectory)
      else h.checked p.text .write := by
  rw [checkedTarget, checked, Path.parse_text]
  show (if p.isDirLike then _ else _) = _
  split <;> rfl

theorem approve_of_flaw (h : Handle) {path : Text} {why : PathFlaw} (task : FileTask)
    (hflaw : Path.flaw? path = some why) :
    h.approve path task = .error (.invalidPath path why) := by
  have hpath : h.checkedFor path task = .error (.invalidPath path why) := by
    cases task with
    | write data overwrite => exact h.checkedTarget_of_flaw hflaw
    | _ => exact h.checked_of_flaw _ hflaw
  rw [approve, hpath]
  rfl

/-- The checks of a sound path: what it names, the grants, and then the other arguments. -/
theorem approve_text (h : Handle) (p : Path) (task : FileTask) :
    h.approve p.text task =
      if task.isWrite && p.isDirLike then .error (.invalidPath p.text .namesDirectory)
      else if h.permits p.text task.operation then task.checkArguments.map fun _ => p
      else .error (.accessDenied p.text task.operation) := by
  have hpath : h.checkedFor p.text task =
      if task.isWrite && p.isDirLike then .error (.invalidPath p.text .namesDirectory)
      else if h.permits p.text task.operation then .ok p
      else .error (.accessDenied p.text task.operation) := by
    cases task with
    | write data overwrite =>
      simp only [checkedFor, checkedTarget_text, checked_text, FileTask.isWrite, Bool.true_and,
        FileTask.operation]
      rfl
    | _ => exact h.checked_text p _
  rw [approve, hpath]
  split
  · rfl
  · split <;> rfl

theorem approve_eq_ok {h : Handle} {path : Text} {task : FileTask} {p : Path}
    (hp : h.approve path task = .ok p) :
    p.text = path ∧ h.permits path task.operation = true ∧
      (task.isWrite = true → p.isDirLike = false) ∧ task.checkArguments = .ok () := by
  cases hflaw : Path.flaw? path with
  | some why => simp [h.approve_of_flaw task hflaw] at hp
  | none =>
    obtain ⟨q, rfl⟩ : ∃ q : Path, q.text = path := ⟨⟨path, hflaw⟩, rfl⟩
    rw [approve_text] at hp
    split at hp
    next => simp at hp
    next hdir =>
      split at hp
      next hpermits =>
        cases hargs : task.checkArguments with
        | error why => simp [hargs, Except.map] at hp
        | ok u =>
          obtain rfl : q = p := by simpa [hargs, Except.map] using hp
          exact ⟨rfl, hpermits, by simpa using hdir, rfl⟩
      next => simp at hp

theorem approve_of_permits {h : Handle} {p : Path} {task : FileTask}
    (hfile : task.isWrite = true → p.isDirLike = false)
    (hpermits : h.permits p.text task.operation = true) (hargs : task.checkArguments = .ok ()) :
    h.approve p.text task = .ok p := by
  have hallowed : ¬ (task.isWrite && p.isDirLike) = true := by
    rw [Bool.and_eq_true]
    rintro ⟨hwrite, hdir⟩
    rw [hfile hwrite] at hdir
    cases hdir
  rw [approve_text, if_neg hallowed, if_pos hpermits, hargs]
  rfl

theorem checkedStart_of_permits {h : Handle} {start : Path}
    (hpermits : h.permits start.text .list = true) :
    h.checkedStart (some start.text) = .ok (some start) := by
  rw [checkedStart, checked_text, if_pos hpermits]
  rfl

theorem fulfil_write_run {h : Handle} {p : Path} (hfile : p.isDirLike = false)
    (hpermits : h.permits p.text .write = true) (data : Bytes) :
    ∃ next, (h.fulfil (.file p.text (.write data true))).run =
        Program.ask (S := Access.signature) (.call (.snapshot h.grants)) next ∧
      ∀ s : Snapshot, ∃ next', next (.ok s) =
          Program.ask (S := Access.signature) (.replaceIndex s) next' ∧
        ∃ next'', next' () =
          Program.ask (S := Access.signature) (.call (.write p data true)) next'' := by
  have happroved : h.approve p.text (.write data true) = .ok p := by
    rw [approve_text, hfile, if_neg (by simp), FileTask.operation, if_pos hpermits]
    rfl
  have hrun : (h.fulfil (.file p.text (.write data true))).run =
      (h.carryOut p (.write data true)).run := by
    show (h.perform p.text (.write data true)).run = _
    rw [perform_eq, Action.run_bind, Action.run_lift, happroved]
    rfl
  rw [hrun]
  exact ⟨_, rfl, fun _ => ⟨_, rfl, _, rfl⟩⟩

inductive MayCall (h : Handle) : Request → Call → Prop where
  | snapshot (r : Request) : MayCall h r (.snapshot h.grants)
  | file {p : Path} {task : FileTask} {c : Call} :
      h.permits p.text task.operation = true → task.call? p = some c →
      MayCall h (.file p.text task) c

theorem MayCall.of_write {h : Handle} {r : Request} {p : Path} {data : Bytes} {overwrite : Bool}
    (hc : h.MayCall r (.write p data overwrite)) :
    r = .file p.text (.write data overwrite) ∧ h.permits p.text .write = true := by
  cases hc with
  | @file q task _ hpermits hcall =>
    cases task with
    | write data' overwrite' => cases hcall; exact ⟨rfl, hpermits⟩
    | _ => cases hcall

theorem MayCall.of_delete {h : Handle} {r : Request} {p : Path} (hc : h.MayCall r (.delete p)) :
    r = .file p.text .delete ∧ h.permits p.text .delete = true := by
  cases hc with
  | @file q task _ hpermits hcall =>
    cases task with
    | delete => cases hcall; exact ⟨rfl, hpermits⟩
    | _ => cases hcall

variable {M : Call → Prop}

theorem refresh_asks (h : Handle) (hs : M (.snapshot h.grants)) :
    h.refresh.Asks (Access.Within M) :=
  (Action.asks_call hs).bind fun _ => Action.asks_replaceIndex trivial

theorem requireExisting_asks (h : Handle) (p : Path) (hs : M (.snapshot h.grants)) :
    (h.requireExisting p).Asks (Access.Within M) := by
  refine (h.refresh_asks hs).bind fun _ => ?_
  refine (Action.asks_lookup trivial).bind fun found => ?_
  cases found with
  | some e => exact Action.asks_pure e
  | none => exact Action.asks_throw _

theorem carryOut_asks (h : Handle) (p : Path) (task : FileTask) (hs : M (.snapshot h.grants))
    (hc : ∀ c, task.call? p = some c → M c) : (h.carryOut p task).Asks (Access.Within M) := by
  cases task with
  | inspect => exact h.requireExisting_asks p hs
  | readBytes => exact (h.requireExisting_asks p hs).bind fun _ => Action.asks_call (hc _ rfl)
  | readText index count =>
    exact (h.requireExisting_asks p hs).bind fun _ => Action.asks_call (hc _ rfl)
  | readMatches pattern overlap =>
    exact (h.requireExisting_asks p hs).bind fun _ => Action.asks_call (hc _ rfl)
  | write data overwrite =>
    have hstore : (do
        let e ← Action.call (.write p data overwrite)
        Action.insertIndex p e
        pure e : Action Entry).Asks (Access.Within M) :=
      (Action.asks_call (hc _ rfl)).bind fun e =>
        (Action.asks_insertIndex trivial).bind fun _ => Action.asks_pure e
    refine (h.refresh_asks hs).bind fun _ => ?_
    cases overwrite with
    | true => exact hstore
    | false =>
      refine (Action.asks_lookup trivial).bind fun found => ?_
      cases found with
      | none => exact hstore
      | some e => exact Action.asks_throw _
  | delete =>
    exact (h.requireExisting_asks p hs).bind fun _ =>
      (Action.asks_call (hc _ rfl)).bind fun _ => Action.asks_removeIndex trivial

theorem fulfil_asks (h : Handle) (r : Request) :
    (h.fulfil r).Asks (Access.Within (h.MayCall r)) := by
  cases r with
  | list start =>
    refine Action.asks_check fun limit _ => ?_
    refine (h.refresh_asks (.snapshot _)).bind fun _ => ?_
    exact (Action.asks_entries trivial).bind fun entries => Action.asks_pure _
  | file path task =>
    show (h.perform path task).Asks _
    rw [perform_eq]
    refine Action.asks_check fun p hp => ?_
    obtain ⟨rfl, hpermits, -, -⟩ := approve_eq_ok hp
    exact h.carryOut_asks p task (.snapshot _) fun c hc => .file hpermits hc

def MayDo (h : Handle) (c : Call) : Prop := ∃ r, h.MayCall r c

def MayRead (h : Handle) (c : Call) : Prop := ∃ r, r.isRead = true ∧ h.MayCall r c

end Handle
end GrantFs
