import GrantFs.Mount
import GrantFs.Proofs.Action
import GrantFs.Proofs.OsRun

/-! # Who reads the standard input

Neither loading settings nor anything that a store on disk does reads the standard input. Main
statement: a program that does not read it runs alike whatever it holds. -/
namespace GrantFs

namespace OsTree

variable {α β ε : Type} {now : Instant} {input : Bytes} {t u : OsTree}

/-- Runs a program on a tree, with the given content of the standard input. -/
def runReading (now : Instant) (input : Bytes) (x : OsProgram α) (t : OsTree) : α × OsTree :=
  Program.run (S := OsCall.signature) (answer now input) x t

theorem runReading_bind (x : OsProgram α) (f : α → OsProgram β) :
    t.runReading now input (x >>= f) =
      (t.runReading now input x).2.runReading now input (f (t.runReading now input x).1) :=
  Program.run_bind (S := OsCall.signature) (answer now input) x f t

theorem runReading_bind_ok {x : ExceptT ε (Program OsCall.signature) α} {a : α}
    (h : t.runReading now input x.run = (.ok a, u))
    (f : α → ExceptT ε (Program OsCall.signature) β) :
    t.runReading now input (x >>= f).run = u.runReading now input (f a).run := by
  refine (runReading_bind x.run _).trans ?_
  rw [h]
  rfl

theorem runReading_bind_error {x : ExceptT ε (Program OsCall.signature) α} {why : ε}
    (h : t.runReading now input x.run = (.error why, u))
    (f : α → ExceptT ε (Program OsCall.signature) β) :
    t.runReading now input (x >>= f).run = (.error why, u) := by
  refine (runReading_bind x.run _).trans ?_
  rw [h]
  rfl

end OsTree

namespace Os

variable {α β : Type} {location : Text}

def NoInput (x : OsProgram α) : Prop := Program.Asks (S := OsCall.signature) (· ≠ .input) x

theorem NoInput.run_eq {x : OsProgram α} (h : NoInput x) (now : Instant) (input : Bytes)
    (t : OsTree) : t.runReading now input x = t.run now x := by
  induction x generalizing t with
  | done a => rfl
  | ask q next ih =>
    have hanswer : OsTree.answer now input q t = OsTree.answer now [] q t := by
      cases q with
      | input => exact absurd rfl h.1
      | _ => rfl
    show OsTree.runReading now input (next (OsTree.answer now input q t).1) _ = _
    rw [hanswer]
    exact ih _ (h.2 _) _

theorem noInput_ask {q : OsCall} (h : q ≠ .input) : NoInput (ask q) := ⟨h, fun _ => trivial⟩

theorem noInput_bind {x : OsProgram α} {f : α → OsProgram β} (h : NoInput x)
    (hf : ∀ a, NoInput (f a)) : NoInput (x >>= f) := Program.Asks.bind h hf

theorem noInput_action {ε : Type} {x : ExceptT ε (Program OsCall.signature) α}
    {f : α → ExceptT ε (Program OsCall.signature) β} (h : NoInput x.run)
    (hf : ∀ a, NoInput (f a).run) : NoInput (x >>= f).run := by
  apply noInput_bind h
  intro result
  cases result with
  | ok a => exact hf a
  | error why => trivial

theorem noInput_program {x : OsProgram α} {f : α → OsAction β} (h : NoInput x)
    (hf : ∀ a, NoInput (f a).run) : NoInput (liftM x >>= f : OsAction β).run :=
  noInput_action (noInput_bind h fun _ => trivial) hf

theorem noInput_check {e : Except Fault α} {f : α → OsAction β} (hf : ∀ a, NoInput (f a).run) :
    NoInput (liftM e >>= f : OsAction β).run := noInput_action trivial hf

theorem noInput_orFail {x : OsProgram (Except OsError α)} (h : NoInput x) :
    NoInput (orFail x).run := by
  apply noInput_bind h
  intro result
  cases result <;> trivial

theorem noInput_test (test : Status → Bool) {x : OsProgram Bool} (hx : x = do
    match ← ask (.status location true) with
    | .ok s => pure (test s)
    | .error _ => pure false) : NoInput x := by
  rw [hx]
  refine noInput_bind (noInput_ask nofun) fun result => ?_
  cases result <;> trivial

theorem noInput_isDir : NoInput (isDir location) := noInput_test (·.kind = .dir) rfl

theorem noInput_isFile : NoInput (isFile location) := noInput_test (·.kind = .file) rfl

theorem noInput_isPresent : NoInput (isPresent location) := noInput_test (fun _ => true) rfl

theorem noInput_settle (result : Except OsError Unit) : NoInput (settle location result).run := by
  cases result with
  | ok _ => trivial
  | error why =>
    apply noInput_program noInput_isDir
    intro seen
    cases seen <;> trivial

theorem noInput_makeDirsAmong (locations : List Text) : NoInput (makeDirsAmong locations).run := by
  induction locations with
  | nil => trivial
  | cons location above ih =>
    refine noInput_program (noInput_ask nofun) fun result => ?_
    split
    · apply noInput_action ih
      intro _
      exact noInput_program (noInput_ask nofun) noInput_settle
    · exact noInput_settle _

theorem noInput_makeDirs (location : Text) : NoInput (makeDirs location).run := by
  rw [makeDirs]
  split
  · trivial
  · exact noInput_makeDirsAmong _

end Os

namespace DiskStore

open Os

variable (d : DiskStore)

theorem noInput_writeMarker : NoInput d.writeMarker.run := by
  apply noInput_program noInput_isPresent
  intro seen
  cases seen with
  | true => trivial
  | false =>
    refine noInput_program (noInput_ask nofun) fun now => ?_
    exact noInput_orFail (noInput_ask nofun)

theorem noInput_openRoot (c : DiskConfig) (session : Text) (ns : Namespace) :
    NoInput (openRoot c session ns).run :=
  noInput_action (noInput_makeDirs _) fun _ => trivial

theorem noInput_open (c : DiskConfig) : NoInput (DiskStore.open c).run := by
  apply noInput_action
  · split
    · exact noInput_program (noInput_ask nofun) fun _ => trivial
    · trivial
  · intro session
    apply noInput_action (noInput_openRoot ..)
    intro internal
    apply noInput_action (noInput_openRoot ..)
    intro userinput
    apply noInput_action (noInput_openRoot ..)
    intro workspace
    exact noInput_action (noInput_writeMarker _) fun _ => trivial

theorem noInput_refuseLinks (path : Path) (at_ : Text) (names : List Text) :
    NoInput (refuseLinks path at_ names).run := by
  induction names generalizing at_ with
  | nil => trivial
  | cons name names ih =>
    refine noInput_program (noInput_ask nofun) fun result => ?_
    split
    · split
      · trivial
      · exact ih _
    · trivial
    · trivial

theorem noInput_locationWithoutLinks (path : Path) : NoInput (d.locationWithoutLinks path).run := by
  apply noInput_check
  intro place
  exact noInput_action (noInput_refuseLinks ..) fun _ => trivial

theorem noInput_addNamespace (grants : List Grant) (s : Snapshot) (ns : Namespace) :
    NoInput (d.addNamespace grants s ns).run := by
  rw [addNamespace]
  split
  · have hwalk : OsCall.walk (d.root ns) ≠ .input := by
      rintro ⟨⟩
    exact noInput_action (noInput_orFail (noInput_ask hwalk)) fun _ => trivial
  · trivial

theorem noInput_snapshot (grants : List Grant) : NoInput (d.snapshot grants).run := by
  apply noInput_action (d.noInput_addNamespace ..)
  intro s
  apply noInput_action (d.noInput_addNamespace ..)
  intro s
  exact d.noInput_addNamespace ..

theorem noInput_read (path : Path) : NoInput (d.read path).run := by
  apply noInput_check
  intro location
  apply noInput_program noInput_isFile
  intro seen
  cases seen with
  | false => trivial
  | true =>
    refine noInput_program (noInput_ask nofun) fun result => ?_
    cases result <;> trivial

theorem noInput_moveDraft (path : Path) (draft location : Text) :
    NoInput (moveDraft path draft location).run := by
  refine noInput_program (noInput_ask nofun) fun result => ?_
  cases result with
  | ok _ => exact noInput_action (noInput_orFail (noInput_ask nofun)) fun _ => trivial
  | error why => exact noInput_program (noInput_ask nofun) fun _ => trivial

theorem noInput_putInPlace (path : Path) (location : Text) (data : Bytes) :
    NoInput (putInPlace path location data).run := by
  apply noInput_action (noInput_makeDirs _)
  intro _
  refine noInput_program (noInput_ask nofun) fun token => ?_
  refine noInput_action (noInput_orFail (noInput_ask nofun)) fun _ => ?_
  exact noInput_moveDraft ..

theorem noInput_write (path : Path) (data : Bytes) (overwrite : Bool) :
    NoInput (d.write path data overwrite).run := by
  apply noInput_action (d.noInput_locationWithoutLinks path)
  rintro ⟨ns, location⟩
  apply noInput_program noInput_isDir
  intro taken
  cases taken with
  | true => trivial
  | false =>
    cases overwrite with
    | true => exact noInput_putInPlace ..
    | false =>
      apply noInput_program noInput_isPresent
      intro present
      cases present with
      | true => trivial
      | false => exact noInput_putInPlace ..

theorem noInput_prune (dirs : List Text) : NoInput (prune dirs) := by
  induction dirs with
  | nil => trivial
  | cons dir above ih =>
    refine noInput_bind (noInput_ask nofun) fun result => ?_
    cases result with
    | ok _ => exact ih
    | error why => trivial

theorem noInput_delete (path : Path) : NoInput (d.delete path).run := by
  apply noInput_action (d.noInput_locationWithoutLinks path)
  rintro ⟨ns, location⟩
  apply noInput_program noInput_isFile
  intro seen
  cases seen with
  | false => trivial
  | true =>
    refine noInput_program (noInput_ask nofun) fun result => ?_
    cases result with
    | ok _ => exact noInput_bind (noInput_prune _) fun _ => trivial
    | error why => trivial

theorem noInput_perform (c : Call) : NoInput (d.perform c).run := by
  cases c with
  | snapshot grants => exact d.noInput_snapshot grants
  | readBytes path => exact d.noInput_read path
  | readText path index count => exact noInput_action (d.noInput_read path) fun _ => trivial
  | readMatches path pattern overlap => exact noInput_action (d.noInput_read path) fun _ => trivial
  | write path data overwrite => exact d.noInput_write path data overwrite
  | delete path => exact d.noInput_delete path

end DiskStore

theorem Settings.noInput_load (blank : Settings) (location : Text) :
    Os.NoInput (Settings.load blank location).run := by
  exact Os.noInput_program (Os.noInput_ask nofun) fun _ => Os.noInput_check fun _ => trivial

theorem Settings.noInput_service (s : Settings) : Os.NoInput s.service.run := by
  apply Os.noInput_check
  intro _
  apply Os.noInput_action
  · rw [mount]
    split
    · trivial
    · exact Os.noInput_action (DiskStore.noInput_open _) fun _ => trivial
  · exact fun _ => trivial

end GrantFs
