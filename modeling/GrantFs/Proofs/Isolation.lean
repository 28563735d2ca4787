import GrantFs.Proofs.DiskEffect
import GrantFs.Proofs.DiskReading
import GrantFs.Proofs.OpenRoots
import GrantFs.Proofs.Opening

/-! # Namespaces do not reach each other

Each namespace has its own root, and what is asked of one namespace changes nothing outside of its
root. Main statement: if no root lies inside of another one and no way to a root leads through the
inside of one, then any requests to one namespace leave the files of the other namespaces, what
snapshots hold of them and all replies about them as they are. -/
namespace GrantFs.DiskStore

open OsTree

variable {c : DiskConfig} {d : DiskStore} {now : Instant} {t t₀ t₁ u : OsTree}
  {ns ns' : Namespace} {names : List Name} {p : Path} {h : Handle} {r : Request}

/-- Where the location of a root leads in a tree without links. -/
def rootPlace (d : DiskStore) (ns : Namespace) : Place := climb [] (namesOf (d.root ns))

/-- No root lies inside of another one, and the location of no root leads through the inside of one,
as it might with double dots. -/
structure Beside (d : DiskStore) : Prop where
  apart : Apart d.rootPlace
  ways : ∀ ns ns' names, names <+: namesOf (d.root ns) → d.rootPlace ns' <+: climb [] names →
    climb [] names = d.rootPlace ns'

theorem Beside.root_ne_nil (h : d.Beside) (ns : Namespace) : d.root ns ≠ [] := by
  intro hnil
  have hplace : d.rootPlace ns = [] := by
    rw [rootPlace, hnil]
    rfl
  obtain ⟨other, hother⟩ : ∃ other, ns ≠ other := by
    cases ns
    · exact ⟨.workspace, by decide⟩
    · exact ⟨.workspace, by decide⟩
    · exact ⟨.internal, by decide⟩
  apply hother
  apply h.apart
  rw [hplace]
  exact List.nil_prefix

/-- Without double dots it is enough that no root lies inside of another one. -/
theorem beside_of_no_dotDot (hnames : ∀ ns, dotDot ∉ namesOf (d.root ns))
    (hapart : Apart d.rootPlace) : d.Beside := by
  refine ⟨hapart, ?_⟩
  rintro ns ns' names ⟨more, hmore⟩ hle
  have hplace : d.rootPlace ns = climb [] names ++ undot more := by
    have hfull := hnames ns
    rw [rootPlace, climb_of_no_dotDot hfull, ← hmore, undot_append, climb_of_no_dotDot]
    · simp
    · rw [← hmore] at hfull
      exact fun hmem => hfull (List.mem_append_left _ hmem)
  obtain rfl := hapart ns' ns (hle.trans (by rw [hplace]; exact List.prefix_append ..))
  have hge : climb [] names <+: d.rootPlace ns' := by
    rw [hplace]
    exact List.prefix_append ..
  exact hge.eq_of_length_le hle.length_le

structure Settled (d : DiskStore) (t : OsTree) : Prop where
  noLinks : t.NoLinks
  roots : ∀ ns, d.RootAt t ns (d.rootPlace ns)

theorem settled_of_open (hlinks : t₀.NoLinks) (hbeside : d.Beside)
    (hopen : t₀.exec now (DiskStore.open c) = (.ok d, t₁)) : d.Settled t₁ := by
  obtain ⟨hgrown, hshows⟩ := open_grown hlinks hopen
  refine ⟨hgrown.noLinks, ?_⟩
  intro ns
  obtain ⟨place, hroot⟩ := hshows ns (hbeside.root_ne_nil ns)
  have hat := RootAt.of_shows hroot
  have hplace : d.rootPlace ns = place := hat.leads.climb_eq hgrown.noLinks
  rw [hplace]
  exact hat

theorem Settled.rootAt_of_sameBut (hs : d.Settled t) (hbeside : d.Beside)
    (hsame : SameBut (d.rootPlace ns) t u) (ns' : Namespace) :
    d.RootAt u ns' (d.rootPlace ns') := by
  refine ⟨(hs.roots ns').fits, (hs.roots ns').leads.of_same hs.noLinks ?_⟩
  intro done hdone
  apply (hsame (climb [] done)).resolve_right
  rintro ⟨more, hne, hplace⟩
  have hroot := hbeside.ways ns' ns done hdone (by rw [hplace]; exact List.prefix_append ..)
  rw [hroot] at hplace
  exact hne (List.append_right_eq_self.mp hplace.symm)

theorem Settled.of_sameBut (hs : d.Settled t) (hbeside : d.Beside)
    (hlinks : u.NoLinks) (hsame : SameBut (d.rootPlace ns) t u) : d.Settled u :=
  ⟨hlinks, hs.rootAt_of_sameBut hbeside hsame⟩

/-- What a request leaves: the roots in place, and nothing changed but inside of the root of its
namespace. -/
def Changes (d : DiskStore) (t : OsTree) (ns : Namespace) (u : OsTree) : Prop :=
  d.Settled u ∧ SameBut (d.rootPlace ns) t u

theorem Settled.changes_self (hs : d.Settled t) (ns : Namespace) : d.Changes t ns t :=
  ⟨hs, .refl _ t⟩

theorem Settled.write_changes (hs : d.Settled t) (hbeside : d.Beside)
    (hns : Namespace.of? p.text = some ns) (data : Bytes) (overwrite : Bool) (now : Instant) :
    d.Changes t ns (t.exec now (d.write p data overwrite)).2 := by
  have hplace := placeOf_eq_ok.mpr ⟨Namespace.of?_eq_some.mp hns, rfl⟩
  have hdir := (hs.roots ns).leads.dir
  obtain ⟨reply, u, hrun, hout⟩ := write_outcome now (hs.roots ns) hplace data overwrite
  have hconfined := hout.confined hdir
  have hsame := hout.sameBut hdir
  rw [hrun]
  exact ⟨hs.of_sameBut hbeside (hconfined.sameLinks.noLinks hs.noLinks) hsame, hsame⟩

theorem Settled.delete_changes (hs : d.Settled t) (hbeside : d.Beside)
    (hns : Namespace.of? p.text = some ns) (now : Instant) :
    d.Changes t ns (t.exec now (d.delete p)).2 := by
  have hplace := placeOf_eq_ok.mpr ⟨Namespace.of?_eq_some.mp hns, rfl⟩
  obtain ⟨reply, u, hrun, hout⟩ := delete_outcome now (hs.roots ns) hplace
  have hconfined := hout.confined (hs.roots ns).leads.dir
  rw [hrun]
  exact ⟨hs.of_sameBut hbeside (hconfined.sameLinks.noLinks hs.noLinks) hout.sameBut,
    hout.sameBut⟩

/-- One step: a request about a path changes nothing outside of the root of the path's namespace. -/
theorem Settled.request_changes (hs : d.Settled t) (hbeside : d.Beside) (h : Handle) {path : Text}
    (hns : Namespace.of? path = some ns) (task : FileTask) (now : Instant) :
    d.Changes t ns (h.outcome (d.backend now) t (.file path task)).2 := by
  cases task with
  | write data overwrite =>
    rcases write_step d now h t path data overwrite with ⟨why, hout⟩ | ⟨p, i, rfl, -, -, -, hout⟩
    · rw [hout]
      exact hs.changes_self ns
    · rw [hout]
      exact hs.write_changes hbeside hns data overwrite now
  | delete =>
    rcases delete_step d now h t path with ⟨why, hout⟩ | ⟨p, i, e, rfl, -, -, -, hout⟩
    · rw [hout]
      exact hs.changes_self ns
    · rw [hout]
      exact hs.delete_changes hbeside hns now
  | _ =>
    rw [store_of_read d now h t rfl]
    exact hs.changes_self ns

theorem outcome_of_no_namespace (h : Handle) {path : Text} (hns : Namespace.of? path = none)
    (task : FileTask) (now : Instant) (t : OsTree) :
    (h.outcome (d.backend now) t (.file path task)).2 = t := by
  have hlinks : ∀ p : Path, p.text = path →
      t.exec now (d.locationWithoutLinks p) = (.error (.notFound p.text), t) := by
    rintro p rfl
    apply exec_locationWithoutLinks_of_error
    rw [placeOf, hns]
  cases task with
  | write data overwrite =>
    rcases write_step d now h t path data overwrite with ⟨why, hout⟩ | ⟨p, i, hp, -, -, -, hout⟩
    · rw [hout]
    · rw [hout, exec_write_of_links (hlinks p hp)]
  | delete =>
    rcases delete_step d now h t path with ⟨why, hout⟩ | ⟨p, i, e, hp, -, -, -, hout⟩
    · rw [hout]
    · rw [hout, exec_delete_of_links (hlinks p hp)]
  | _ => exact store_of_read d now h t rfl

theorem Settled.request (hs : d.Settled t) (hbeside : d.Beside) (h : Handle) (r : Request)
    (now : Instant) : d.Settled (h.outcome (d.backend now) t r).2 := by
  cases r with
  | list start =>
    rw [store_of_read d now h t rfl]
    exact hs
  | file path task =>
    cases hns : Namespace.of? path with
    | none =>
      rw [outcome_of_no_namespace h hns]
      exact hs
    | some ns => exact (hs.request_changes hbeside h hns task now).1

theorem Reachable.settled (hreach : d.Reachable t₁ t) (hs : d.Settled t₁) (hbeside : d.Beside) :
    d.Settled t := by
  induction hreach with
  | start => exact hs
  | request h r now index _ ih =>
    rw [fulfil_store]
    exact ih.request hbeside h r now

/-- The trees that requests about paths of one namespace leave behind, made by any handles. -/
inductive Served (d : DiskStore) (ns : Namespace) (t : OsTree) : OsTree → Prop where
  | start : Served d ns t t
  | request {u : OsTree} (h : Handle) (path : Text) (task : FileTask) (now : Instant)
      (index : Snapshot) : Served d ns t u → Namespace.of? path = some ns →
      Served d ns t ((h.fulfil (.file path task)).runWith (d.backend now) ⟨u, index⟩).2.store

/-- A whole run: requests to one namespace change nothing outside of its root. -/
theorem Served.changes (hserved : d.Served ns t u) (hs : d.Settled t) (hbeside : d.Beside) :
    d.Changes t ns u := by
  induction hserved with
  | start => exact hs.changes_self ns
  | request h path task now index _ hns ih =>
    obtain ⟨hsettled, hsame⟩ := ih
    obtain ⟨hsettled', hsame'⟩ := hsettled.request_changes hbeside h hns task now
    rw [fulfil_store]
    exact ⟨hsettled', hsame.trans hsame'⟩

theorem Changes.get?_eq (hchanges : d.Changes t ns u) (hapart : Apart d.rootPlace) (hns : ns' ≠ ns)
    (names : List Name) :
    u.get? (d.rootPlace ns' ++ names) = t.get? (d.rootPlace ns' ++ names) := by
  apply (hchanges.2 _).resolve_right
  rintro ⟨more, -, hplace⟩
  exact hns (hapart.of_eq hplace).1

theorem Changes.sameAt (hchanges : d.Changes t ns u) (hapart : Apart d.rootPlace)
    (hp : Namespace.of? p.text ≠ some ns) : SameAt d.rootPlace t u p := by
  intro ns' segments content modified htext
  have hns : ns' ≠ ns := by
    rintro rfl
    apply hp
    rw [Namespace.of?_eq_some, htext]
    exact List.prefix_append ..
  rw [hchanges.get?_eq hapart hns]

/-- Whatever store has been opened with its roots beside one another, and whatever has been asked of
it before: requests to one namespace change nothing below the roots of the others, nothing that
snapshots hold of them, and no reply about their paths. -/
theorem namespaces_isolated (hlinks : t₀.NoLinks)
    (hopen : t₀.exec now (DiskStore.open c) = (.ok d, t₁)) (hbeside : d.Beside)
    (hreach : d.Reachable t₁ t) (hserved : d.Served ns t u) :
    (∀ ns', ns' ≠ ns → ∀ names,
        u.get? (d.rootPlace ns' ++ names) = t.get? (d.rootPlace ns' ++ names)) ∧
      (∀ grants before after, ∃ i j, d.backend before (.snapshot grants) t = (.ok i, t) ∧
        d.backend after (.snapshot grants) u = (.ok j, u) ∧
        ∀ p : Path, Namespace.of? p.text ≠ some ns → i.get? p = j.get? p) ∧
      ∀ (reader : Handle) (p : Path) (task : FileTask), Namespace.of? p.text ≠ some ns →
        (Request.file p.text task).isRead = true → ∀ before after index index',
          ((reader.fulfil (.file p.text task)).runWith (d.backend before) ⟨t, index⟩).1 =
            ((reader.fulfil (.file p.text task)).runWith (d.backend after) ⟨u, index'⟩).1 := by
  have hs := hreach.settled (settled_of_open hlinks hbeside hopen) hbeside
  have hchanges := hserved.changes hs hbeside
  have hsame : ∀ p : Path, Namespace.of? p.text ≠ some ns → SameAt d.rootPlace t u p :=
    fun p hp => hchanges.sameAt hbeside.apart hp
  refine ⟨?_, ?_, ?_⟩
  · intro ns' hns names
    exact hchanges.get?_eq hbeside.apart hns names
  · intro grants before after
    obtain ⟨i, j, hrun, hrun', hagree⟩ := snapshots_agree hs.roots hchanges.1.roots
      before after grants
    exact ⟨i, j, hrun, hrun', fun p hp => hagree p (hsame p hp)⟩
  · intro reader p task hp htask before after index index'
    exact (hsame p hp).reply_eq hs.roots hchanges.1.roots reader htask before after index index'

theorem beside_plainStore : plainStore.Beside := by
  apply beside_of_no_dotDot
  · intro ns
    cases ns <;> decide
  · intro ns ns'
    cases ns <;> cases ns' <;> decide

/-- The state of the agent before and after a write to the workspace. -/
theorem namespaces_isolated_after_write :
    let h : Handle := .ofNamespaces [.internal, .workspace]
    let t := ((h.fulfil (.file "/internal/a" (.write [1] true))).runWith (plainStore.backend ⟨1, 0⟩)
      ⟨openedTree, ∅⟩).2.store
    let u := ((h.fulfil (.file "/workspace/a" (.write [2] true))).runWith
      (plainStore.backend ⟨2, 0⟩) ⟨t, ∅⟩).2.store
    let p : Path := ⟨"/internal/a", by decide⟩
    plainTree.NoLinks ∧
      plainTree.exec ⟨0, 0⟩ (DiskStore.open (.persistent "/")) = (.ok plainStore, openedTree) ∧
      plainStore.Beside ∧ plainStore.Reachable openedTree t ∧ plainStore.Served .workspace t u ∧
      ((h.fulfil (.file p.text .readBytes)).runWith (plainStore.backend ⟨3, 0⟩) ⟨t, ∅⟩).1 =
        ((h.fulfil (.file p.text .readBytes)).runWith (plainStore.backend ⟨3, 0⟩) ⟨u, ∅⟩).1 := by
  intro h t u p
  have hlinks : plainTree.NoLinks := noLinks_of_entries (by decide)
  have hreach : plainStore.Reachable openedTree t := .request h _ ⟨1, 0⟩ ∅ .start
  have hserved : plainStore.Served .workspace t u := .request h _ _ ⟨2, 0⟩ ∅ .start (by decide)
  obtain ⟨-, -, hreplies⟩ := namespaces_isolated hlinks exec_open_plainTree beside_plainStore
    hreach hserved
  exact ⟨hlinks, exec_open_plainTree, beside_plainStore, hreach, hserved,
    hreplies h p .readBytes (by decide) rfl ⟨3, 0⟩ ⟨3, 0⟩ ∅ ∅⟩

/-- A root inside of another one is accepted, and then a write to the workspace replaces the state
of the agent. -/
theorem nested_root_not_isolated :
    let c : DiskConfig := { baseDir := "/", internal := some "/workspace/internal" }
    let d : DiskStore := ⟨"/workspace/internal", "/userinput", "/workspace"⟩
    let opened := OsTree.empty.exec ⟨0, 0⟩ (DiskStore.open c)
    let agent : Handle := .ofNamespaces [.internal]
    let worker : Handle := .ofNamespaces [.workspace]
    let t := ((agent.fulfil (.file "/internal/state" (.write [1] true))).runWith
      (d.backend ⟨1, 0⟩) ⟨opened.2, ∅⟩).2.store
    let u := ((worker.fulfil (.file "/workspace/internal/state" (.write [2] true))).runWith
      (d.backend ⟨2, 0⟩) ⟨t, ∅⟩).2.store
    let reading := agent.fulfil (.file "/internal/state" .readBytes)
    OsTree.empty.NoLinks ∧ opened.1 = .ok d ∧ d.Reachable opened.2 t ∧
      d.Served .workspace t u ∧
      (reading.runWith (d.backend ⟨3, 0⟩) ⟨t, ∅⟩).1 = .ok [1] ∧
      (reading.runWith (d.backend ⟨3, 0⟩) ⟨u, ∅⟩).1 = .ok [2] := by
  intro c d opened agent worker t u reading
  have hlinks : OsTree.empty.NoLinks := noLinks_of_entries (by decide)
  have hopened : opened.1 = .ok d := by decide +kernel
  have hreach : d.Reachable opened.2 t := .request agent _ ⟨1, 0⟩ ∅ .start
  have hserved : d.Served .workspace t u := .request worker _ _ ⟨2, 0⟩ ∅ .start (by decide)
  have hbefore : (reading.runWith (d.backend ⟨3, 0⟩) ⟨t, ∅⟩).1 = .ok [1] := by decide +kernel
  have hafter : (reading.runWith (d.backend ⟨3, 0⟩) ⟨u, ∅⟩).1 = .ok [2] := by decide +kernel
  exact ⟨hlinks, hopened, hreach, hserved, hbefore, hafter⟩

end GrantFs.DiskStore
