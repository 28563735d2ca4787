import GrantFs.Proofs.DiskConfined
import GrantFs.Proofs.DiskSnapshot
import GrantFs.Proofs.HandleRun

/-! # Containment

Handles share a disk that holds any files, directories and links below its roots and elsewhere. Main
statement: in every tree that requests can reach, a request reports only regular files that lie
where their paths say, with no link on the way from the root, and it changes nothing but what lies
on the way from the root of its path's namespace to the path's place. -/
namespace GrantFs.DiskStore

open OsTree Os

variable {d : DiskStore} {now : Instant} {t t₀ u : OsTree} {root : Namespace → Place}
  {grants : List Grant} {ns : Namespace} {p : Path} {e : Entry} {segments : List Text} {h : Handle}

/-- A regular file lies at the place of the path, and only directories lie on the way from the root
to it. -/
def RegularFile (t : OsTree) (root : Namespace → Place) (p : Path) (content : Bytes) : Prop :=
  ∃ ns segments modified, placeOf p = .ok (ns, segments) ∧
    t.get? (root ns ++ namesBelow segments) = some (.file content modified) ∧
    ∀ q, root ns <+: q → q <+: root ns ++ namesBelow segments →
      q ≠ root ns ++ namesBelow segments → t.get? q = some .dir

/-- What the reply to a request may tell, by the files of the tree. -/
inductive Reports (t : OsTree) (root : Namespace → Place) : (r : Request) → r.Reply → Prop where
  | list {start : Option Text} {entries : List Entry} :
      (∀ e ∈ entries, ∃ content, RegularFile t root e.path content ∧
        e.size = some content.length) → Reports t root (.list start) entries
  | inspect {p : Path} {e : Entry} {content : Bytes} : RegularFile t root p content → e.path = p →
      e.size = some content.length → Reports t root (.file p.text .inspect) e
  | readBytes {p : Path} {content : Bytes} : RegularFile t root p content →
      Reports t root (.file p.text .readBytes) content
  | readText {p : Path} {content : Bytes} {index count : Option Nat} {lines : Text} :
      RegularFile t root p content →
      sliceLines (Utf8.decodeLossy content) index count = .ok lines →
      Reports t root (.file p.text (.readText index count)) lines
  | readMatches {p : Path} {content : Bytes} {pattern : Text} {overlap : Option Nat}
      {found : List Text} : RegularFile t root p content →
      Regex.scan pattern overlap (Utf8.decodeLossy content) = .ok found →
      Reports t root (.file p.text (.readMatches pattern overlap)) found
  | write {path : Text} {data : Bytes} {overwrite : Bool} (e : Entry) :
      Reports t root (.file path (.write data overwrite)) e
  | delete {path : Text} : Reports t root (.file path .delete) ()

/-- A root that is shown lies at the place where it has always been. -/
def RootsStay (d : DiskStore) (t : OsTree) (root : Namespace → Place) : Prop :=
  ∀ ns place n, t.Shows (d.root ns) place n → place = root ns

theorem rootsStay_of_sameLinks (hroot : ∀ ns, d.RootAt t₀ ns (root ns)) (h : t₀.SameLinks t) :
    d.RootsStay t root :=
  fun ns _ _ hshows => (hroot ns).leads.place_eq h hshows.located

theorem RootsStay.shows_of_finds (hstay : d.RootsStay t root) (hfinds : d.Finds t grants ns e) :
    ∃ segments content modified, placeOf e.path = .ok (ns, segments) ∧
      t.Shows (d.locationOf ns segments) (root ns ++ namesBelow segments)
        (.file content modified) ∧
      e.size = some content.length ∧
      (d.RootAt t ns (root ns) ∨
        segments = [] ∧ t.locate false (namesOf (d.root ns)) = .ok (root ns)) := by
  obtain ⟨-, files, hfiles, f, hf, hentry⟩ := id hfinds
  obtain ⟨place, n, hshows, hall⟩ := mem_walkFrom hfiles
  obtain rfl := hstay ns place n hshows
  obtain ⟨-, ⟨rfl, -⟩ | ⟨content, modified, rfl, hlocated, rfl⟩⟩ := hall f hf
  · have hroot := RootAt.of_shows hshows
    obtain ⟨segments, content, modified, hlisted, hsize, -⟩ := hroot.finds_iff.mp hfinds
    refine ⟨segments, content, modified, hlisted.placeOf_eq hlisted.text, ?_, hsize, .inl hroot⟩
    rw [namesBelow_of_plain fun x hx => hlisted.plain hx]
    exact hlisted.shows hroot
  · obtain ⟨-, hpath, -, hsize, -⟩ := entryOf?_eq_some.mp hentry
    obtain ⟨segments, hnames, htext⟩ := pathOf?_eq_some.mp hpath
    obtain rfl := List.map_eq_nil_iff.mp hnames.symm
    refine ⟨[], content, modified, placeOf_of_text (by simp) htext, ?_, hsize, .inr ⟨rfl, hlocated⟩⟩
    have hempty : root ns ++ namesBelow [] = root ns := List.append_nil _
    rw [hempty]
    exact hshows

theorem regularFile_of_shows {content : Bytes} {modified : Instant}
    (hplace : placeOf p = .ok (ns, segments))
    (hshows : t.Shows (d.locationOf ns segments) (root ns ++ namesBelow segments)
      (.file content modified)) : RegularFile t root p content := by
  refine ⟨ns, segments, modified, hplace, hshows.node, fun q _ hq hne => ?_⟩
  exact dir_on_way hq hne (by rw [hshows.node]; simp)

theorem location_of_placeOf (hplace : placeOf p = .ok (ns, segments)) :
    d.location p = .ok (d.locationOf ns segments) := by
  rw [location, hplace]
  rfl

theorem RootsStay.write_confined (hstay : d.RootsStay t root)
    (hplace : placeOf p = .ok (ns, segments)) (hne : segments ≠ [])
    (hwalked : ∃ files, t.walkFrom (d.root ns) = .ok files) (now : Instant) (data : Bytes)
    (overwrite : Bool) :
    t.Confined (t.exec now (d.write p data overwrite)).2 (root ns) (namesBelow segments) := by
  obtain ⟨files, hfiles⟩ := hwalked
  obtain ⟨place, n, hshows, -⟩ := mem_walkFrom hfiles
  obtain rfl := hstay ns place n hshows
  cases n with
  | dir =>
    have hroot := RootAt.of_shows hshows
    obtain ⟨r, u, hrun, hout⟩ := write_outcome now hroot hplace data overwrite
    rw [hrun]
    exact hout.confined hshows.node
  | file content modified =>
    obtain ⟨why, hrun⟩ := write_at_file now hshows hplace hne data overwrite
    rw [hrun]
    exact t.confined_self _ _
  | link target => exact absurd hshows.node (resolve_ne_link t.get?_nil hshows.located target)

theorem RootsStay.delete_confined (hstay : d.RootsStay t root)
    (hfinds : d.Finds t grants ns e) (now : Instant) :
    ∃ segments, placeOf e.path = .ok (ns, segments) ∧
      t.Confined (t.exec now (d.delete e.path)).2 (root ns) (namesBelow segments) := by
  obtain ⟨segments, content, modified, hplace, hshows, -, hroot | ⟨rfl, hentry⟩⟩ :=
    hstay.shows_of_finds hfinds
  · obtain ⟨r, u, hrun, hout⟩ := delete_outcome now hroot hplace
    refine ⟨segments, hplace, ?_⟩
    rw [hrun]
    exact hout.confined hroot.leads.dir
  · have hempty : root ns ++ namesBelow [] = root ns := List.append_nil _
    rw [hempty] at hshows
    refine ⟨[], hplace, ?_⟩
    rw [delete_at_file now hshows hentry hplace]
    exact confined_erase hshows.node

theorem RootsStay.read_of_found (hstay : d.RootsStay t root) {i : Snapshot}
    (hi : d.Gathered t grants Namespace.all i) (hfound : i.get? p = some e) (now : Instant) :
    ∃ content, RegularFile t root p content ∧ e.path = p ∧ e.size = some content.length ∧
      t.exec now (d.read p) = (.ok content, t) := by
  obtain ⟨rfl, ns, -, hfinds⟩ := hi.found p e hfound
  obtain ⟨segments, content, modified, hplace, hshows, hsize, -⟩ := hstay.shows_of_finds hfinds
  exact ⟨content, regularFile_of_shows hplace hshows, rfl, hsize,
    exec_read_of_shows (location_of_placeOf hplace) hshows⟩

/-- What a task replies, and what it changes, when a snapshot has been taken for it. -/
def TaskContained (t : OsTree) (root : Namespace → Place) (p : Path) (task : FileTask)
    (out : Except Fault task.Reply × OsTree) : Prop :=
  (∀ a, out.1 = .ok a → Reports t root (.file p.text task) a) ∧
    (out.2 = t ∨ (Request.file p.text task).isRead = false ∧ ∃ ns segments,
      placeOf p = .ok (ns, segments) ∧ t.Confined out.2 (root ns) (namesBelow segments))

theorem taskContained_error (p : Path) (task : FileTask) (why : Fault) :
    TaskContained t root p task (.error why, t) :=
  ⟨nofun, .inl rfl⟩

theorem RootsStay.reading_contained (hstay : d.RootsStay t root) {i : Snapshot}
    (hi : d.Gathered t grants Namespace.all i) (now : Instant) (task : FileTask)
    (reply : Bytes → Except Fault task.Reply)
    (hreply : ∀ content a, RegularFile t root p content → reply content = .ok a →
      Reports t root (.file p.text task) a)
    {out : Except Fault task.Reply × OsTree}
    (hout : ∀ content, t.exec now (d.read p) = (.ok content, t) → out = (reply content, t)) :
    TaskContained t root p task
      (if (i.get? p).isSome then out else (.error (.notFound p.text), t)) := by
  cases hfound : i.get? p with
  | none => exact taskContained_error p task _
  | some e =>
    obtain ⟨content, hfile, -, -, hread⟩ := hstay.read_of_found hi hfound now
    show TaskContained t root p task out
    rw [hout content hread]
    exact ⟨fun a ha => hreply content a hfile ha, .inl rfl⟩

theorem RootsStay.finish_contained (hstay : d.RootsStay t root) {i : Snapshot}
    (hi : d.Gathered t h.grants Namespace.all i) {task : FileTask}
    (happroved : h.approve p.text task = .ok p) (now : Instant) :
    TaskContained t root p task (task.finish (d.backend now) p (i.get? p) t) := by
  obtain ⟨-, hpermits, hwrite, -⟩ := Handle.approve_eq_ok happroved
  cases task with
  | inspect =>
    refine ⟨fun e he => ?_, .inl rfl⟩
    cases hfound : i.get? p with
    | none =>
      rw [hfound] at he
      cases he
    | some found =>
      rw [hfound] at he
      cases he
      obtain ⟨content, hfile, hpath, hsize, -⟩ := hstay.read_of_found hi hfound now
      exact .inspect hfile hpath hsize
  | readBytes =>
    have hreply : ∀ content a, RegularFile t root p content →
        (.ok content : Except Fault Bytes) = .ok a →
          Reports t root (.file p.text .readBytes) a := by
      rintro content _ hfile ⟨⟩
      exact .readBytes hfile
    exact hstay.reading_contained hi now .readBytes .ok hreply fun content hread => hread
  | readText index count =>
    exact hstay.reading_contained hi now _ _ (fun content a hfile ha => .readText hfile ha)
      fun content hread => (exec_bind_ok hread _).trans (exec_check _)
  | readMatches pattern overlap =>
    exact hstay.reading_contained hi now _ _ (fun content a hfile ha => .readMatches hfile ha)
      fun content hread => (exec_bind_ok hread _).trans (exec_check _)
  | write data overwrite =>
    show TaskContained t root p (.write data overwrite)
      (if _ then _ else t.exec now (d.write p data overwrite))
    split
    · exact taskContained_error p _ _
    cases hplace : placeOf p with
    | error why =>
      rw [exec_write_of_links (exec_locationWithoutLinks_of_error hplace)]
      exact taskContained_error p _ _
    | ok place =>
      obtain ⟨ns, segments⟩ := place
      have hoverlap := overlaps_of_visible (visible_of_permits hpermits) (placeOf_eq_ok.mp hplace).1
      have hwalked := hi.walked ns (by cases ns <;> decide) hoverlap
      have hconfined := hstay.write_confined hplace (segments_ne_nil hplace (hwrite rfl))
        hwalked now data overwrite
      exact ⟨fun e _ => .write e, .inr ⟨rfl, ns, segments, hplace, hconfined⟩⟩
  | delete =>
    show TaskContained t root p .delete (if _ then t.exec now (d.delete p) else _)
    cases hfound : i.get? p with
    | none => exact taskContained_error p _ _
    | some e =>
      obtain ⟨rfl, ns, -, hfinds⟩ := hi.found p e hfound
      obtain ⟨segments, hplace, hconfined⟩ := hstay.delete_confined hfinds now
      exact ⟨fun _ _ => .delete, .inr ⟨rfl, ns, segments, hplace, hconfined⟩⟩

/-- What a request reports is there, and what it changes is confined. -/
theorem RootsStay.outcome_contained (hstay : d.RootsStay t root) (h : Handle)
    (r : Request) (now : Instant) :
    (∀ a, (h.outcome (d.backend now) t r).1 = .ok a → Reports t root r a) ∧
      ((h.outcome (d.backend now) t r).2 = t ∨ ∃ p task ns segments,
        r = .file p.text task ∧ r.isRead = false ∧ placeOf p = .ok (ns, segments) ∧
          t.Confined (h.outcome (d.backend now) t r).2 (root ns) (namesBelow segments)) := by
  obtain ⟨snapshot, hrun, hgathered, -⟩ := snapshot_outcome now d t h.grants
  have hcall : d.backend now (.snapshot h.grants) t = (snapshot, t) := hrun
  cases r with
  | list start =>
    rw [Handle.outcome, hcall]
    cases h.checkedStart start with
    | error why => exact ⟨fun _ hok => (by cases hok), .inl rfl⟩
    | ok limit =>
      refine ⟨fun entries hentries => ?_, .inl rfl⟩
      cases snapshot with
      | error why => cases hentries
      | ok i =>
        cases hentries
        refine .list fun e he => ?_
        have hvalue : e ∈ i.values := by
          cases limit with
          | none => exact he
          | some limit => exact (List.mem_filter.mp he).1
        obtain ⟨p, hp⟩ := SortedMap.mem_values.mp hvalue
        obtain ⟨content, hfile, hpath, hsize, -⟩ :=
          hstay.read_of_found (hgathered i rfl) hp now
        exact ⟨content, by rwa [hpath], hsize⟩
  | file path task =>
    rw [Handle.outcome, hcall]
    cases happroved : h.approve path task with
    | error why => exact ⟨fun _ hok => (by cases hok), .inl rfl⟩
    | ok p =>
      obtain ⟨rfl, -⟩ := Handle.approve_eq_ok happroved
      cases snapshot with
      | error why => exact ⟨fun _ hok => (by cases hok), .inl rfl⟩
      | ok i =>
        obtain ⟨hreports, hconfined⟩ := hstay.finish_contained (hgathered i rfl) happroved now
        refine ⟨hreports, hconfined.imp_right ?_⟩
        rintro ⟨hread, ns, segments, hplace, hconfined⟩
        exact ⟨p, task, ns, segments, rfl, hread, hplace, hconfined⟩

/-- The trees that a sequence of requests to any handles leaves behind. -/
inductive Reachable (d : DiskStore) (t₀ : OsTree) : OsTree → Prop where
  | start : Reachable d t₀ t₀
  | request {t : OsTree} (h : Handle) (r : Request) (now : Instant) (index : Snapshot) :
      Reachable d t₀ t →
      Reachable d t₀ ((h.fulfil r).runWith (d.backend now) ⟨t, index⟩).2.store

theorem Reachable.sameLinks (hreach : d.Reachable t₀ t)
    (hroot : ∀ ns, d.RootAt t₀ ns (root ns)) : t₀.SameLinks t := by
  induction hreach with
  | start => exact SameLinks.refl t₀
  | @request t h r now index _ hlinks =>
    obtain ⟨index', hrun⟩ := Handle.fulfil_runWith (backend_snapshot_store now d h.grants t) r index
    obtain ⟨-, hconfined⟩ := (rootsStay_of_sameLinks hroot hlinks).outcome_contained h r now
    rw [hrun]
    refine hlinks.trans ?_
    rcases hconfined with hsame | ⟨p, task, ns, segments, -, -, -, hconfined⟩
    · rw [hsame]
      exact SameLinks.refl t
    · exact hconfined.sameLinks

/-- Whatever lies below and beside the roots, and whatever requests have come before: a request to a
handle tells only of regular files at the places of their paths, and only a write or a delete
changes anything, at most on the way from the root to the place of its path, where it meets no
link. -/
theorem disk_containment (hroot : ∀ ns, d.RootAt t₀ ns (root ns))
    (hreach : d.Reachable t₀ t) (h : Handle) (r : Request) (now : Instant) (index : Snapshot) :
    ∃ reply w, (h.fulfil r).runWith (d.backend now) ⟨t, index⟩ = (reply, w) ∧
      (∀ a, reply = .ok a → Reports t root r a) ∧
      (w.store = t ∨ ∃ p task ns segments,
        r = .file p.text task ∧ r.isRead = false ∧ placeOf p = .ok (ns, segments) ∧
          t.Confined w.store (root ns) (namesBelow segments)) := by
  have hlinks := hreach.sameLinks hroot
  obtain ⟨index', hrun⟩ := Handle.fulfil_runWith (backend_snapshot_store now d h.grants t) r index
  obtain ⟨hreports, hconfined⟩ :=
    (rootsStay_of_sameLinks hroot hlinks).outcome_contained h r now
  exact ⟨_, _, hrun, hreports, hconfined⟩

/-- A link in the workspace that leads to the material of the user, where a file lies. -/
def linkTree : OsTree :=
  (plainTree.put [Utf8.encode "userinput", Utf8.encode "a"] (.file [1] ⟨0, 0⟩)).put
    [Utf8.encode "workspace", Utf8.encode "out"]
    (.link ⟨true, [Utf8.encode "userinput"], by decide⟩)

/-- After a write to the workspace, deleting through the link is contained. -/
theorem disk_containment_of_linkTree :
    let h : Handle := ⟨[.ofOps Namespace.workspace.root Operation.all]⟩
    let r : Request := .file "/workspace/out/a" .delete
    let t := ((h.fulfil (.file "/workspace/b" (.write [2] true))).runWith
      (plainStore.backend ⟨0, 0⟩) ⟨linkTree, ∅⟩).2.store
    let root := fun ns : Namespace => [Utf8.encode ns.name]
    (∀ ns, plainStore.RootAt linkTree ns (root ns)) ∧
      plainStore.Reachable linkTree t ∧
      ∃ reply w, (h.fulfil r).runWith (plainStore.backend ⟨0, 0⟩) ⟨t, ∅⟩ = (reply, w) ∧
        (∀ a, reply = .ok a → Reports t root r a) ∧
        (w.store = t ∨ ∃ p task ns segments,
          r = .file p.text task ∧ r.isRead = false ∧ placeOf p = .ok (ns, segments) ∧
            t.Confined w.store (root ns) (namesBelow segments)) := by
  intro h r t root
  have hroot : ∀ ns, plainStore.RootAt linkTree ns (root ns) := by
    intro ns
    cases ns <;> exact ⟨by decide, by decide +kernel, by decide +kernel⟩
  have hreach : plainStore.Reachable linkTree t := .request h _ ⟨0, 0⟩ ∅ .start
  exact ⟨hroot, hreach, disk_containment hroot hreach h r ⟨0, 0⟩ ∅⟩

end GrantFs.DiskStore
