import GrantFs.Proofs.OsWay

/-! # Running against a tree

How what asks the operating system runs on a tree, step by step. Main statements: a run of two parts
is the run of one after the other, and whether something is seen at a location is what the tree
shows there. -/
namespace GrantFs.OsTree

variable {α β : Type} {now : Instant} {t u : OsTree} {location : Text} {place : Place} {n : Node}

def run (now : Instant) (x : OsProgram α) (t : OsTree) : α × OsTree :=
  Program.run (S := OsCall.signature) (answer now []) x t

def exec (now : Instant) (x : OsAction α) (t : OsTree) : Except Fault α × OsTree := t.run now x.run

theorem run_ask (q : OsCall) : t.run now (Os.ask q) = answer now [] q t := rfl

theorem run_bind (x : OsProgram α) (f : α → OsProgram β) :
    t.run now (x >>= f) = (t.run now x).2.run now (f (t.run now x).1) :=
  Program.run_bind (S := OsCall.signature) (answer now []) x f t

theorem exec_pure (a : α) : t.exec now (pure a) = (.ok a, t) := rfl

theorem exec_check (e : Except Fault α) : t.exec now (liftM e : OsAction α) = (e, t) := rfl

theorem exec_program (x : OsProgram α) :
    t.exec now (liftM x : OsAction α) = (.ok (t.run now x).1, (t.run now x).2) :=
  run_bind x fun a => pure (Except.ok a)

theorem exec_bind (x : OsAction α) (f : α → OsAction β) :
    t.exec now (x >>= f) =
      match t.exec now x with
      | (.ok a, u) => u.exec now (f a)
      | (.error why, u) => (.error why, u) := by
  have hparts : t.exec now (x >>= f) = (t.exec now x).2.run now
      (match (t.exec now x).1 with
        | .ok a => (f a).run
        | .error why => pure (.error why)) := by
    refine (run_bind x.run _).trans ?_
    show (t.exec now x).2.run now (ExceptT.bindCont f (t.exec now x).1) = _
    cases (t.exec now x).1 <;> rfl
  rw [hparts]
  rcases t.exec now x with ⟨_ | a, u⟩ <;> rfl

theorem exec_bind_ok {x : OsAction α} {a : α} (h : t.exec now x = (.ok a, u))
    (f : α → OsAction β) : t.exec now (x >>= f) = u.exec now (f a) := by
  rw [exec_bind, h]

theorem exec_bind_error {x : OsAction α} {why : Fault} (h : t.exec now x = (.error why, u))
    (f : α → OsAction β) : t.exec now (x >>= f) = (.error why, u) := by
  rw [exec_bind, h]

theorem exec_bind_eq_ok {x : OsAction α} {f : α → OsAction β} {b : β}
    (h : t.exec now (x >>= f) = (.ok b, u)) :
    ∃ a mid, t.exec now x = (.ok a, mid) ∧ mid.exec now (f a) = (.ok b, u) := by
  rw [exec_bind] at h
  split at h
  next a mid hx => exact ⟨a, mid, hx, h⟩
  next => cases h

theorem exec_bind_program (x : OsProgram α) (f : α → OsAction β) :
    t.exec now (liftM x >>= f) = (t.run now x).2.exec now (f (t.run now x).1) :=
  exec_bind_ok (exec_program x) f

theorem exec_orFail (x : OsProgram (Except OsError α)) :
    t.exec now (Os.orFail x) = ((t.run now x).1.mapError .io, (t.run now x).2) := by
  refine (run_bind x _).trans ?_
  cases (t.run now x).1 <;> rfl

structure Shows (t : OsTree) (location : Text) (place : Place) (n : Node) : Prop where
  fits : checkLocation location = .ok ()
  located : t.locate true (namesOf location) = .ok place
  node : t.get? place = some n

theorem Shows.unique {place' : Place} {n' : Node} (h : t.Shows location place n)
    (h' : t.Shows location place' n') : place' = place ∧ n' = n := by
  have hlocated := h'.located
  rw [h.located] at hlocated
  cases hlocated
  have hnode := h'.node
  rw [h.node] at hnode
  cases hnode
  exact ⟨rfl, rfl⟩

theorem status_of_shows (h : t.Shows location place n) :
    answer now [] (.status location true) t = (.ok (statusOf n), t) := by
  have hnode := h.node
  have hstatus : t.status (namesOf location) true = .ok (statusOf n) := by
    simp only [status, bind, Except.bind, h.located, hnode]
    rfl
  show (_, t) = _
  rw [h.fits]
  exact congrArg (·, t) hstatus

theorem read_of_shows {content : Bytes} {modified : Instant}
    (h : t.Shows location place (.file content modified)) :
    answer now [] (.read location) t = (.ok content, t) := by
  have hnode := h.node
  have hread : t.read (namesOf location) = .ok content := by
    simp only [OsTree.read, bind, Except.bind, h.located, hnode]
    rfl
  show (_, t) = _
  rw [h.fits]
  exact congrArg (·, t) hread

theorem shows_of_status {s : Status}
    (h : (answer now [] (.status location true) t).1 = .ok s) :
    ∃ place n, t.Shows location place n ∧ s = statusOf n := by
  change (do checkLocation location; t.status (namesOf location) true) = Except.ok s at h
  cases hfits : checkLocation location with
  | error why =>
    rw [hfits] at h
    cases h
  | ok _ =>
    rw [hfits] at h
    change t.status (namesOf location) true = .ok s at h
    cases hlocated : t.locate true (namesOf location) with
    | error why =>
      simp only [status, bind, Except.bind, hlocated] at h
      cases h
    | ok place =>
      simp only [status, bind, Except.bind, hlocated] at h
      split at h
      next n hnode =>
        cases h
        exact ⟨place, n, ⟨hfits, hlocated, hnode⟩, rfl⟩
      next => cases h

theorem run_test (now : Instant) (t : OsTree) (location : Text) (test : Status → Bool)
    {x : OsProgram Bool} (hx : x = do
      match ← Os.ask (.status location true) with
      | .ok s => pure (test s)
      | .error _ => pure false) :
    ∃ seen, t.run now x = (seen, t) ∧
      (seen = true ↔ ∃ place n, t.Shows location place n ∧ test (statusOf n) = true) := by
  rw [hx, run_bind, run_ask]
  cases hreply : (answer now [] (.status location true) t).1 with
  | error why =>
    refine ⟨false, rfl, by simp, fun ⟨place, n, hshows, _⟩ => ?_⟩
    rw [status_of_shows hshows] at hreply
    cases hreply
  | ok s =>
    obtain ⟨place, n, hshows, rfl⟩ := shows_of_status hreply
    refine ⟨test (statusOf n), rfl, fun htest => ⟨place, n, hshows, htest⟩, ?_⟩
    rintro ⟨place', n', hshows', htest⟩
    obtain ⟨-, rfl⟩ := hshows.unique hshows'
    exact htest

theorem run_isPresent (now : Instant) (t : OsTree) (location : Text) :
    ∃ seen, t.run now (Os.isPresent location) = (seen, t) ∧
      (seen = true ↔ ∃ place n, t.Shows location place n) := by
  obtain ⟨seen, hrun, hseen⟩ := t.run_test now location (fun _ => true) rfl
  exact ⟨seen, hrun, by simpa using hseen⟩

theorem run_isDir (now : Instant) (t : OsTree) (location : Text) :
    ∃ seen, t.run now (Os.isDir location) = (seen, t) ∧
      (seen = true ↔ ∃ place, t.Shows location place .dir) := by
  obtain ⟨seen, hrun, hseen⟩ := t.run_test now location (fun s => s.kind = .dir) rfl
  refine ⟨seen, hrun, hseen.trans ⟨?_, fun ⟨place, hshows⟩ => ⟨place, .dir, hshows, rfl⟩⟩⟩
  rintro ⟨place, n, hshows, hkind⟩
  cases n with
  | dir => exact ⟨place, hshows⟩
  | file content modified => simp [statusOf] at hkind
  | link target => simp [statusOf] at hkind

theorem run_isFile (now : Instant) (t : OsTree) (location : Text) :
    ∃ seen, t.run now (Os.isFile location) = (seen, t) ∧
      (seen = true ↔
        ∃ place content modified, t.Shows location place (.file content modified)) := by
  obtain ⟨seen, hrun, hseen⟩ := t.run_test now location (fun s => s.kind = .file) rfl
  refine ⟨seen, hrun, hseen.trans ⟨?_, fun ⟨place, content, modified, hshows⟩ =>
    ⟨place, .file content modified, hshows, rfl⟩⟩⟩
  rintro ⟨place, n, hshows, hkind⟩
  cases n with
  | dir => simp [statusOf] at hkind
  | file content modified => exact ⟨place, content, modified, hshows⟩
  | link target => simp [statusOf] at hkind

end GrantFs.OsTree
