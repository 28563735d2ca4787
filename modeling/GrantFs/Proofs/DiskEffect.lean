import GrantFs.Proofs.Containment
import GrantFs.Proofs.OsShown

/-! # What requests change on disk

Entry by entry, what becomes of a tree under a write, a delete or a request. Main statements: a
write puts one file and makes directories where nothing was, a delete only takes away, both strictly
below the root of the path's namespace; and a request changes the tree by its one write or delete or
not at all. -/
namespace GrantFs.DiskStore

open OsTree Os

variable {d : DiskStore} {now : Instant} {t u : OsTree} {ns : Namespace} {root : Place} {p : Path}
  {names : List Name} {data : Bytes} {overwrite : Bool} {h : Handle} {r : Request}

/-- What becomes of an entry: it stays, a directory is made where nothing was, or it is the file. -/
theorem WriteOutcome.node_cases {reply : Except Fault Entry}
    (h : WriteOutcome now t root names p data overwrite reply u)
    (hdir : t.get? root = some .dir) (q : Place) :
    u.get? q = t.get? q ∨ (t.get? q = none ∧ u.get? q = some .dir) ∨
      (q = root ++ names ∧ names ≠ [] ∧ u.get? q = some (.file data now) ∧
        (t.get? q = none ∨ ∃ content modified, t.get? q = some (.file content modified))) := by
  cases h with
  | refused => exact .inl rfl
  | failed why hclear hk hpaved =>
    rcases paved_cases hdir hclear hk hpaved q with hsame | ⟨_, -, -, -, hnone, hmade⟩
    · exact .inl hsame
    · exact .inr (.inl ⟨hnone, hmade⟩)
  | written hclear hne hnodir _ hwritten =>
    by_cases heq : q = root ++ names
    · subst heq
      refine .inr (.inr ⟨rfl, hne, (hwritten _).trans (if_pos rfl), ?_⟩)
      rcases hclear.node_cases hdir (List.prefix_refl _) with hfound | hnone | ⟨-, hfile⟩
      · exact absurd hfound hnodir
      · exact .inl hnone
      · exact .inr hfile
    · by_cases hle : q <+: root ++ names
      · have hmade : u.get? q = some .dir := by rw [hwritten q, if_neg heq, if_pos hle]
        rcases hclear.node_cases hdir hle with hfound | hnone | ⟨hend, -⟩
        · exact .inl (hmade.trans hfound.symm)
        · exact .inr (.inl ⟨hnone, hmade⟩)
        · exact absurd hend heq
      · exact .inl (hwritten.get?_of_not_prefix hle)

theorem WriteOutcome.keepsKinds {reply : Except Fault Entry}
    (h : WriteOutcome now t root names p data overwrite reply u)
    (hdir : t.get? root = some .dir) : t.KeepsKinds u := by
  have hkept : ∀ q n, t.get? q = some n → u.get? q = some n ∨
      ((∃ content modified, n = .file content modified) ∧ u.get? q = some (.file data now)) := by
    intro q n hn
    rcases h.node_cases hdir q with hsame | ⟨hnone, -⟩ | ⟨-, -, hput, hnone | ⟨_, _, hfile⟩⟩
    · exact .inl (hsame.trans hn)
    · simp [hn] at hnone
    · simp [hn] at hnone
    · rw [hn] at hfile
      cases hfile
      exact .inr ⟨⟨_, _, rfl⟩, hput⟩
  constructor
  · constructor
    · intro q hq
      rcases hkept q _ hq with hsame | ⟨⟨_, _, hother⟩, -⟩
      · exact hsame
      · cases hother
    · intro q target hq
      rcases hkept q _ hq with hsame | ⟨⟨_, _, hother⟩, -⟩
      · exact hsame
      · cases hother
  · intro q content modified hq
    rcases hkept q _ hq with hsame | ⟨-, hput⟩
    · exact ⟨content, modified, hsame⟩
    · exact ⟨data, now, hput⟩

/-- Two trees differ in nothing but what lies strictly below a place. -/
def SameBut (root : Place) (t u : OsTree) : Prop :=
  ∀ q, u.get? q = t.get? q ∨ ∃ names, names ≠ [] ∧ q = root ++ names

theorem SameBut.refl (root : Place) (t : OsTree) : SameBut root t t := fun _ => .inl rfl

theorem SameBut.trans {v : OsTree} (h : SameBut root t u) (h' : SameBut root u v) :
    SameBut root t v := by
  intro q
  rcases h' q with hsame | hbelow
  · rw [hsame]
    exact h q
  · exact .inr hbelow

theorem WriteOutcome.sameBut {reply : Except Fault Entry}
    (h : WriteOutcome now t root names p data overwrite reply u)
    (hdir : t.get? root = some .dir) : SameBut root t u := by
  intro q
  cases h with
  | refused => exact .inl rfl
  | failed why hclear hk hpaved =>
    apply (paved_cases hdir hclear hk hpaved q).imp_right
    rintro ⟨j, hpositive, hj, rfl, -⟩
    refine ⟨names.take j, ?_, rfl⟩
    rw [← List.length_pos_iff, List.length_take]
    omega
  | written _ hne _ _ hwritten => exact hwritten.below hdir hne q

theorem DeleteOutcome.sameBut {reply : Except Fault Unit}
    (h : DeleteOutcome d ns t root names reply u) : SameBut root t u := by
  intro q
  cases h with
  | refused => exact .inl rfl
  | deleted _ _ _ hcut _ =>
    rw [hcut]
    split
    next hgone =>
      obtain ⟨⟨more, rfl⟩, hne, -⟩ := hgone
      rw [List.append_assoc]
      refine .inr ⟨_, List.append_ne_nil_of_right_ne_nil _ ?_, rfl⟩
      rintro rfl
      exact hne (List.append_nil _)
    next => exact .inl rfl

theorem exec_read_store (d : DiskStore) (now : Instant) (t : OsTree) (p : Path) :
    (t.exec now (d.read p)).2 = t := by
  rw [read, exec_bind, exec_check]
  cases d.location p with
  | error why => rfl
  | ok location =>
    obtain ⟨seen, hrun, -⟩ := t.run_isFile now location
    simp only
    rw [exec_bind_program, hrun]
    cases seen with
    | false => rfl
    | true =>
      show (t.exec now (liftM (ask (.read location)) >>= _)).2 = t
      rw [exec_bind_program, run_ask]
      simp only [answer]
      split <;> rfl

theorem exec_read_check_store {α : Type} (d : DiskStore) (now : Instant) (t : OsTree) (p : Path)
    (f : Bytes → Except Fault α) :
    (t.exec now (d.read p >>= fun content => liftM (f content))).2 = t := by
  have hread := exec_read_store d now t p
  rw [exec_bind]
  split
  next content u hrun =>
    rw [hrun] at hread
    rw [exec_check]
    exact hread
  next why u hrun =>
    rw [hrun] at hread
    exact hread

theorem finish_store_of_read {task : FileTask} (hread : (Request.file p.text task).isRead = true)
    (found : Option Entry) : (task.finish (d.backend now) p found t).2 = t := by
  cases task with
  | inspect => rfl
  | readBytes =>
    simp only [FileTask.finish]
    split
    · exact exec_read_store d now t p
    · rfl
  | readText index count =>
    simp only [FileTask.finish]
    split
    · exact exec_read_check_store d now t p _
    · rfl
  | readMatches pattern overlap =>
    simp only [FileTask.finish]
    split
    · exact exec_read_check_store d now t p _
    · rfl
  | write data overwrite => cases hread
  | delete => cases hread

theorem store_of_read (d : DiskStore) (now : Instant) (h : Handle) (t : OsTree) {r : Request}
    (hread : r.isRead = true) : (h.outcome (d.backend now) t r).2 = t := by
  cases r with
  | list start =>
    rw [Handle.outcome]
    split <;> rfl
  | file path task =>
    rw [Handle.outcome]
    split
    next => rfl
    next p happroved =>
      obtain ⟨rfl, -⟩ := Handle.approve_eq_ok happroved
      split
      next => rfl
      next i _ => exact finish_store_of_read hread (i.get? p)

/-- A request to write fails and changes nothing, or it comes to the one write, with a snapshot
taken before. -/
theorem write_step (d : DiskStore) (now : Instant) (h : Handle) (t : OsTree) (path : Text)
    (data : Bytes) (overwrite : Bool) :
    (∃ why, h.outcome (d.backend now) t (.file path (.write data overwrite)) = (.error why, t)) ∨
      ∃ p i, p.text = path ∧ h.permits path .write = true ∧ p.isDirLike = false ∧
        t.exec now (d.snapshot h.grants) = (.ok i, t) ∧
        h.outcome (d.backend now) t (.file path (.write data overwrite)) =
          t.exec now (d.write p data overwrite) := by
  obtain ⟨snapshot, hrun, -⟩ := snapshot_outcome now d t h.grants
  have hcall : d.backend now (.snapshot h.grants) t = (snapshot, t) := hrun
  rw [Handle.outcome, hcall]
  cases happroved : h.approve path (.write data overwrite) with
  | error why => exact .inl ⟨why, rfl⟩
  | ok p =>
    obtain ⟨rfl, hpermits, hfile, -⟩ := Handle.approve_eq_ok happroved
    cases snapshot with
    | error why => exact .inl ⟨why, rfl⟩
    | ok i =>
      simp only [FileTask.finish]
      split
      next => exact .inl ⟨_, rfl⟩
      next => exact .inr ⟨p, i, rfl, hpermits, hfile rfl, hrun, rfl⟩

/-- A request to delete fails and changes nothing, or it comes to the one delete of a file that a
snapshot has shown. -/
theorem delete_step (d : DiskStore) (now : Instant) (h : Handle) (t : OsTree) (path : Text) :
    (∃ why, h.outcome (d.backend now) t (.file path .delete) = (.error why, t)) ∨
      ∃ p i e, p.text = path ∧ h.permits path .delete = true ∧
        t.exec now (d.snapshot h.grants) = (.ok i, t) ∧ i.get? p = some e ∧
        h.outcome (d.backend now) t (.file path .delete) = t.exec now (d.delete p) := by
  obtain ⟨snapshot, hrun, -⟩ := snapshot_outcome now d t h.grants
  have hcall : d.backend now (.snapshot h.grants) t = (snapshot, t) := hrun
  rw [Handle.outcome, hcall]
  cases happroved : h.approve path .delete with
  | error why => exact .inl ⟨why, rfl⟩
  | ok p =>
    obtain ⟨rfl, hpermits, -⟩ := Handle.approve_eq_ok happroved
    cases snapshot with
    | error why => exact .inl ⟨why, rfl⟩
    | ok i =>
      cases hfound : i.get? p with
      | none =>
        refine .inl ⟨.notFound p.text, ?_⟩
        simp only [FileTask.finish, hfound]
        rfl
      | some e =>
        refine .inr ⟨p, i, e, rfl, hpermits, hrun, hfound, ?_⟩
        simp only [FileTask.finish, hfound]
        rfl

end GrantFs.DiskStore
