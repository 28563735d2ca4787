import GrantFs.Proofs.DiskSnapshot
import GrantFs.Proofs.HandleRun

/-! # What a reader sees

What a reading request tells depends on nothing but the file at its path. Main statements: two disks
with the same file there list the path alike, and any reading request about it has the same reply on
both, at whatever times. -/
namespace GrantFs.DiskStore

open OsTree

variable {d : DiskStore} {now : Instant} {t u : OsTree} {root : Namespace → Place} {ns : Namespace}
  {grants : List Grant} {p : Path} {segments : List Text} {content : Bytes} {modified : Instant}

/-- Wherever the path may lie, both trees have the same file or neither has one. -/
def SameAt (root : Namespace → Place) (t u : OsTree) (p : Path) : Prop :=
  ∀ ns segments content modified, p.text = pathText ns segments →
    (t.get? (root ns ++ segments.map Utf8.encode) = some (.file content modified) ↔
      u.get? (root ns ++ segments.map Utf8.encode) = some (.file content modified))

theorem SameAt.refl (root : Namespace → Place) (t : OsTree) (p : Path) : SameAt root t t p :=
  fun _ _ _ _ _ => Iff.rfl

theorem SameAt.listed_iff (h : SameAt root t u p) :
    d.Listed t grants ns (root ns) p segments content modified ↔
      d.Listed u grants ns (root ns) p segments content modified := by
  constructor
  · intro hl
    exact ⟨⟨hl.ne_nil, (h ns segments content modified hl.text).mp hl.node, hl.fits⟩, hl.text,
      hl.noDraft, hl.visible⟩
  · intro hl
    exact ⟨⟨hl.ne_nil, (h ns segments content modified hl.text).mpr hl.node, hl.fits⟩, hl.text,
      hl.noDraft, hl.visible⟩

/-- The snapshot holds the entries of the listed files and no others. -/
def Exact (d : DiskStore) (t : OsTree) (grants : List Grant) (root : Namespace → Place)
    (i : Snapshot) : Prop :=
  ∀ p e, i.get? p = some e ↔ ∃ ns segments content modified,
    d.Listed t grants ns (root ns) p segments content modified ∧
      e = ⟨p, some content.length, some modified⟩

theorem SameAt.get?_eq (h : SameAt root t u p) {i j : Snapshot} (hi : d.Exact t grants root i)
    (hj : d.Exact u grants root j) : i.get? p = j.get? p := by
  apply Option.ext
  intro e
  rw [hi, hj]
  simp only [h.listed_iff]

/-- Snapshots of both trees hold the same entries for the paths where they have the same files. -/
theorem snapshots_agree (hroot : ∀ ns, d.RootAt t ns (root ns))
    (hroot' : ∀ ns, d.RootAt u ns (root ns)) (now now' : Instant) (grants : List Grant) :
    ∃ i j, d.backend now (.snapshot grants) t = (.ok i, t) ∧
      d.backend now' (.snapshot grants) u = (.ok j, u) ∧
      ∀ p, SameAt root t u p → i.get? p = j.get? p := by
  obtain ⟨i, hrun, hi⟩ := exists_snapshot now hroot grants
  obtain ⟨j, hrun', hj⟩ := exists_snapshot now' hroot' grants
  exact ⟨i, j, hrun, hrun', fun p hsame => hsame.get?_eq hi hj⟩

/-- What a reading task tells of a file, by its entry and content. -/
def tells (e : Entry) (content : Bytes) : (task : FileTask) → Except Fault task.Reply
  | .inspect => .ok e
  | .readBytes => .ok content
  | .readText index count => sliceLines (Utf8.decodeLossy content) index count
  | .readMatches pattern overlap => Regex.scan pattern overlap (Utf8.decodeLossy content)
  | .write _ _ => .ok e
  | .delete => .ok ()

theorem finish_of_read {task : FileTask} (htask : (Request.file p.text task).isRead = true)
    (hread : t.exec now (d.read p) = (.ok content, t)) (e : Entry) :
    task.finish (d.backend now) p (some e) t = (tells e content task, t) := by
  cases task with
  | inspect => rfl
  | readBytes => exact hread
  | readText index count => exact (exec_bind_ok hread _).trans (exec_check _)
  | readMatches pattern overlap => exact (exec_bind_ok hread _).trans (exec_check _)
  | write data overwrite => cases htask
  | delete => cases htask

theorem finish_of_absent {task : FileTask} (htask : (Request.file p.text task).isRead = true)
    (now : Instant) (t : OsTree) :
    task.finish (d.backend now) p none t = (.error (.notFound p.text), t) := by
  cases task with
  | write data overwrite => cases htask
  | _ => rfl

theorem Listed.exec_read (h : d.Listed t grants ns (root ns) p segments content modified)
    (hroot : ∀ ns, d.RootAt t ns (root ns)) (now : Instant) :
    t.exec now (d.read p) = (.ok content, t) :=
  exec_read_of_shows (h.location_eq h.text) (h.shows (hroot ns))

theorem fulfil_reply (d : DiskStore) (now : Instant) (t : OsTree) (h : Handle) (r : Request)
    (index : Snapshot) :
    ((h.fulfil r).runWith (d.backend now) ⟨t, index⟩).1 = (h.outcome (d.backend now) t r).1 := by
  obtain ⟨index', hrun⟩ := Handle.fulfil_runWith (backend_snapshot_store now d h.grants t) r index
  rw [hrun]

theorem fulfil_store (d : DiskStore) (now : Instant) (t : OsTree) (h : Handle) (r : Request)
    (index : Snapshot) :
    ((h.fulfil r).runWith (d.backend now) ⟨t, index⟩).2.store =
      (h.outcome (d.backend now) t r).2 := by
  obtain ⟨index', hrun⟩ := Handle.fulfil_runWith (backend_snapshot_store now d h.grants t) r index
  rw [hrun]

/-- A reading request about a path has the same reply on two disks that have the same file there. -/
theorem SameAt.reply_eq (hsame : SameAt root t u p)
    (hroot : ∀ ns, d.RootAt t ns (root ns)) (hroot' : ∀ ns, d.RootAt u ns (root ns)) (h : Handle)
    {task : FileTask} (htask : (Request.file p.text task).isRead = true) (now now' : Instant)
    (index index' : Snapshot) :
    ((h.fulfil (.file p.text task)).runWith (d.backend now) ⟨t, index⟩).1 =
      ((h.fulfil (.file p.text task)).runWith (d.backend now') ⟨u, index'⟩).1 := by
  obtain ⟨i, hrun, hi⟩ := exists_snapshot now hroot h.grants
  obtain ⟨j, hrun', hj⟩ := exists_snapshot now' hroot' h.grants
  have hcall : d.backend now (.snapshot h.grants) t = (.ok i, t) := hrun
  have hcall' : d.backend now' (.snapshot h.grants) u = (.ok j, u) := hrun'
  rw [fulfil_reply, fulfil_reply, Handle.outcome, Handle.outcome, hcall, hcall']
  cases happroved : h.approve p.text task with
  | error why => rfl
  | ok q =>
    obtain ⟨hq, -⟩ := Handle.approve_eq_ok happroved
    obtain rfl := Path.ext_text hq
    have hfound' := hsame.get?_eq hi hj
    cases hfound : i.get? q with
    | none =>
      rw [hfound] at hfound'
      simp only [hfound, ← hfound', finish_of_absent htask]
    | some e =>
      rw [hfound] at hfound'
      obtain ⟨ns, segments, content, modified, hlisted, rfl⟩ := (hi q e).mp hfound
      have hread := hlisted.exec_read hroot now
      have hread' := (hsame.listed_iff.mp hlisted).exec_read hroot' now'
      simp only [hfound, ← hfound', finish_of_read htask hread, finish_of_read htask hread']

end GrantFs.DiskStore
