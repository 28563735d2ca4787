import GrantFs.Proofs.Aliases

/-! # What is written can be read back

A write that succeeds leaves a file at the place of its path. Main statement: unless the last name
is that of a draft, every later request that the grants permit finds the file there, with the data
that was written, and every listing of what begins like the path has its entry. -/
namespace GrantFs.DiskStore

open OsTree Os

variable {d : DiskStore} {now later : Instant} {t u : OsTree} {root place : Place} {ns : Namespace}
  {p : Path} {location : Text} {segments : List Text} {data content : Bytes} {modified : Instant}
  {overwrite : Bool} {grants : List Grant} {i : Snapshot} {e : Entry} {h : Handle}

theorem shows_of_moveDraft {draft : Text}
    (h : t.exec now (moveDraft p draft location) = (.ok e, u)) : ∃ q n, u.Shows location q n := by
  rw [moveDraft, exec_bind_program, run_ask] at h
  split at h
  next =>
    obtain ⟨s, mid, hstatus, hpure⟩ := exec_bind_eq_ok h
    rw [exec_pure] at hpure
    cases hpure
    rw [exec_orFail, run_ask] at hstatus
    cases hreply : (answer now [] (.status location true)
        (answer now [] (.move draft location) t).2).1 with
    | error why =>
      rw [hreply] at hstatus
      cases hstatus
    | ok s =>
      have hmid : u = (answer now [] (.move draft location) t).2 := (congrArg Prod.snd hstatus).symm
      obtain ⟨q, n, hshows, -⟩ := shows_of_status hreply
      rw [hmid]
      exact ⟨q, n, hshows⟩
  next =>
    rw [exec_bind_program] at h
    cases h

theorem shows_of_putInPlace (h : t.exec now (putInPlace p location data) = (.ok e, u)) :
    ∃ q n, u.Shows location q n := by
  obtain ⟨-, t₁, -, h⟩ := exec_bind_eq_ok h
  obtain ⟨token, t₂, -, h⟩ := exec_bind_eq_ok h
  obtain ⟨-, t₃, -, h⟩ := exec_bind_eq_ok h
  exact shows_of_moveDraft h

theorem fits_of_write (hroot : d.RootAt t ns root) (hplace : placeOf p = .ok (ns, segments))
    (h : t.exec now (d.write p data overwrite) = (.ok e, u)) :
    checkLocation (d.locationOf ns segments) = .ok () := by
  obtain ⟨r, hrefuse, -⟩ := refuseLinks_outcome now p
    (fun x hx => isPlain_of_placeOf hplace hx) hroot.leads_segments
  have hlinks := exec_locationWithoutLinks hplace hrefuse
  cases r with
  | error why =>
    rw [exec_write_of_links hlinks] at h
    cases h
  | ok _ =>
    by_cases htaken : Taken t (d.locationOf ns segments) overwrite
    · rw [exec_write_of_taken hlinks data htaken] at h
      cases h
    · rw [exec_write_of_free hlinks data htaken] at h
      obtain ⟨q, n, hshows⟩ := shows_of_putInPlace h
      exact hshows.fits

theorem rootAt_of_write (hwalked : ∃ files, t.walkFrom (d.root ns) = .ok files)
    (hplace : placeOf p = .ok (ns, segments)) (hne : segments ≠ [])
    (h : t.exec now (d.write p data overwrite) = (.ok e, u)) : ∃ root, d.RootAt t ns root := by
  obtain ⟨root, n, hshows⟩ := walkFrom_iff_shows.mp hwalked
  cases n with
  | dir => exact ⟨root, .of_shows hshows⟩
  | file content modified =>
    obtain ⟨why, hfailed⟩ := write_at_file now hshows hplace hne data overwrite
    rw [hfailed] at h
    cases h
  | link target => exact absurd hshows.node (resolve_ne_link t.get?_nil hshows.located target)

/-- A write that succeeds leaves its data in a file at the place of its path. -/
theorem fileAt_of_write (hroot : d.RootAt t ns root)
    (hplace : placeOf p = .ok (ns, segments)) (hfile : p.isDirLike = false)
    (hdots : ['.'] ∉ Text.segments p.text)
    (h : t.exec now (d.write p data overwrite) = (.ok e, u)) :
    t.KeepsKinds u ∧ d.FileAt u ns root segments data now := by
  have hfits := fits_of_write hroot hplace h
  obtain ⟨reply, u', hrun, hout⟩ := write_outcome now hroot hplace data overwrite
  rw [h] at hrun
  cases hrun
  have hnames : namesBelow segments = segments.map Utf8.encode := by
    rw [namesBelow, filter_of_no_dots hplace hdots]
  refine ⟨hout.keepsKinds hroot.leads.dir, ?_⟩
  cases hout with
  | written _ _ _ _ hwritten =>
    refine ⟨segments_ne_nil hplace hfile, ?_, hfits⟩
    rw [← hnames]
    exact (hwritten _).trans (if_pos rfl)

theorem Finds.root_prefix (h : d.Finds t grants ns e) : ns.root.text <+: e.path.text := by
  obtain ⟨-, files, -, f, -, hentry⟩ := h
  obtain ⟨-, hpath, -⟩ := entryOf?_eq_some.mp hentry
  obtain ⟨segments, -, htext⟩ := pathOf?_eq_some.mp hpath
  rw [htext]
  exact List.prefix_append ..

theorem Gathered.get?_of_listed (hi : d.Gathered t grants Namespace.all i)
    (hroot : d.RootAt t ns root) (h : d.Listed t grants ns root p segments content modified) :
    i.get? p = some ⟨p, some content.length, some modified⟩ := by
  have hfinds : d.Finds t grants ns ⟨p, some content.length, some modified⟩ :=
    hroot.finds_iff.mpr ⟨segments, content, modified, h, rfl, rfl⟩
  obtain ⟨e, he⟩ := Option.ne_none_iff_exists'.mp (hi.kept ns (by cases ns <;> decide) _ hfinds)
  obtain ⟨hpath, ns', -, hfound⟩ := hi.found p e he
  obtain rfl : ns' = ns := by
    apply Namespace.eq_of_roots hfound.root_prefix
    rw [hpath]
    exact hfinds.root_prefix
  obtain ⟨segments', content', modified', hlisted, hsize, hmodified⟩ :=
    hroot.finds_iff.mp hfound
  rw [hpath] at hlisted
  have hthere : d.Listed t grants ns' (Function.const Namespace root ns') p segments content
    modified := h
  obtain ⟨-, -, rfl, rfl⟩ := Listed.unique hthere hlisted
  rw [he]
  cases e
  cases hpath
  cases hsize
  cases hmodified
  rfl

/-- A snapshot that succeeded also succeeds when all entries are kept with their kinds. -/
theorem exists_snapshot_of_keepsKinds (hk : t.KeepsKinds u)
    (hi : d.Gathered t grants Namespace.all i) (later : Instant) :
    ∃ j, d.backend later (.snapshot grants) u = (.ok j, u) ∧
      d.Gathered u grants Namespace.all j := by
  obtain ⟨r, hrun, hgathered, hok⟩ := snapshot_outcome later d u grants
  obtain ⟨j, rfl⟩ := hok fun ns hns =>
    exists_walkFrom_of_keepsKinds hk (hi.walked ns (by cases ns <;> decide) hns)
  exact ⟨j, hrun, hgathered j rfl⟩

theorem name_of_text {before s : Text} (h : p.text = before ++ '/' :: s) (hs : '/' ∉ s) :
    p.name = s := by
  have hkept : ∀ c ∈ s.reverse, decide (c ≠ '/') = true := by
    intro c hc
    rw [decide_eq_true_eq]
    rintro rfl
    exact hs (List.mem_reverse.mp hc)
  rw [Path.name, h, List.reverse_append, List.reverse_cons, List.append_assoc,
    List.takeWhile_append_of_pos hkept]
  simp

theorem name_of_placeOf (hplace : placeOf p = .ok (ns, segments)) (hfile : p.isDirLike = false)
    {s : Text} (hs : segments.getLast? = some s) : p.name = s := by
  obtain ⟨init, rfl⟩ := List.getLast?_eq_some_iff.mp hs
  have hslash : '/' ∉ s := (isSegment_of_placeOf hplace (by simp)).2
  have htext := text_of_placeOf hplace hfile
  by_cases hinit : init = []
  · subst hinit
    obtain ⟨before, hroot⟩ : ∃ before, ns.root.text = before ++ ['/'] :=
      ⟨'/' :: ns.name, by cases ns <;> decide⟩
    have hbefore : p.text = before ++ '/' :: s := by
      rw [htext, pathText, hroot, List.append_assoc]
      simp [Text.joinWith, List.intercalate]
    exact name_of_text hbefore hslash
  · have hbefore : p.text = pathText ns init ++ '/' :: s := by
      rw [htext, pathText_append hinit (by simp)]
      simp [Text.joinWith, List.intercalate]
    exact name_of_text hbefore hslash

structure Readable (d : DiskStore) (u : OsTree) (h : Handle) (p : Path) (content : Bytes)
    (modified later : Instant) : Prop where
  shown : ∃ j, d.backend later (.snapshot h.grants) u = (.ok j, u) ∧
    j.get? p = some ⟨p, some content.length, some modified⟩
  read : u.exec later (d.read p) = (.ok content, u)

/-- A write that a handle has made leaves something that the handle can read. -/
theorem readable_of_write (hdots : ['.'] ∉ Text.segments p.text)
    (hname : ¬ draftStart <+: p.name) (hfile : p.isDirLike = false)
    (hpermits : h.permits p.text .write = true)
    (hsnapshot : t.exec now (d.snapshot h.grants) = (.ok i, t))
    (hwrite : t.exec now (d.write p data overwrite) = (.ok e, u)) (later : Instant) :
    d.Readable u h p data now later := by
  obtain ⟨r, hrun, hgathered, -⟩ := snapshot_outcome now d t h.grants
  rw [hsnapshot] at hrun
  cases hrun
  have hi := hgathered i rfl
  cases hplace : placeOf p with
  | error why =>
    rw [exec_write_of_links (exec_locationWithoutLinks_of_error hplace)] at hwrite
    cases hwrite
  | ok found =>
    obtain ⟨ns, segments⟩ := found
    have hvisible := visible_of_permits hpermits
    have hoverlap := overlaps_of_visible hvisible (placeOf_eq_ok.mp hplace).1
    have hwalked := hi.walked ns (by cases ns <;> decide) hoverlap
    obtain ⟨root, hroot⟩ := rootAt_of_write hwalked hplace (segments_ne_nil hplace hfile) hwrite
    obtain ⟨hk, hat⟩ := fileAt_of_write hroot hplace hfile hdots hwrite
    have hroot' := hroot.keeps hk.toKeeps
    have hlisted : d.Listed u h.grants ns root p segments data now := by
      refine ⟨hat, text_of_placeOf hplace hfile, ?_, hvisible⟩
      intro s hs
      rwa [← name_of_placeOf hplace hfile hs]
    obtain ⟨j, hlater, hj⟩ := exists_snapshot_of_keepsKinds hk hi later
    constructor
    · exact ⟨j, hlater, hj.get?_of_listed hroot' hlisted⟩
    · exact exec_read_of_shows (hat.location_eq hlisted.text) (hat.shows hroot')

theorem Readable.reply (hr : d.Readable u h p content modified later) (task : FileTask)
    (htask : (Request.file p.text task).isRead = true)
    (hpermits : h.permits p.text task.operation = true) (hargs : task.checkArguments = .ok ())
    (index : Snapshot) :
    ((h.fulfil (.file p.text task)).runWith (d.backend later) ⟨u, index⟩).1 =
      tells ⟨p, some content.length, some modified⟩ content task := by
  obtain ⟨j, hlater, hfound⟩ := hr.shown
  have hfile : task.isWrite = true → p.isDirLike = false := by
    intro hwrite
    cases task with
    | write data overwrite => cases htask
    | _ => cases hwrite
  have happroved := Handle.approve_of_permits hfile hpermits hargs
  rw [fulfil_reply, Handle.outcome, happroved, hlater]
  simp only [hfound, finish_of_read htask hr.read]

theorem Readable.listed (hr : d.Readable u h p content modified later) {start : Text}
    (hstart : start <+: p.text) (hpermits : h.permits start .list = true) (index : Snapshot) :
    ∃ entries, ((h.fulfil (.list (some start))).runWith (d.backend later) ⟨u, index⟩).1 =
        .ok entries ∧
      ⟨p, some content.length, some modified⟩ ∈ entries := by
  obtain ⟨j, hlater, hfound⟩ := hr.shown
  have hne : start ≠ [] := by
    rintro rfl
    obtain ⟨g, -, hcovers, -⟩ := permits_iff.mp hpermits
    exact g.root.text_ne_nil (List.prefix_nil.mp hcovers)
  obtain ⟨q, rfl⟩ : ∃ q : Path, q.text = start := ⟨⟨start, Path.flaw?_of_prefix hstart hne⟩, rfl⟩
  refine ⟨Handle.listed (some q) j, ?_, ?_⟩
  · rw [fulfil_reply, Handle.outcome, Handle.checkedStart_of_permits hpermits, hlater]
    rfl
  · apply List.mem_filter.mpr
    exact ⟨SortedMap.mem_values.mpr ⟨p, hfound⟩, List.isPrefixOf_iff_prefix.mpr hstart⟩

/-- A handle that has written a file can read it back: unless a segment of the path is a dot or the
last one begins like the name of a draft, the file is there with the data, and it is listed wherever
the handle may list. -/
theorem written_reads_back (hdots : ['.'] ∉ Text.segments p.text)
    (hname : ¬ draftStart <+: p.name) {index : Snapshot} {w : World OsTree}
    (hwritten : (h.fulfil (.file p.text (.write data overwrite))).runWith (d.backend now)
      ⟨t, index⟩ = (.ok e, w)) (later : Instant) (index' : Snapshot) :
    (h.permits p.text .inspect = true →
      ((h.fulfil (.file p.text .inspect)).runWith (d.backend later) ⟨w.store, index'⟩).1 =
        .ok ⟨p, some data.length, some now⟩) ∧
      (h.permits p.text .readBytes = true →
        ((h.fulfil (.file p.text .readBytes)).runWith (d.backend later) ⟨w.store, index'⟩).1 =
          .ok data) ∧
      ∀ start, start <+: p.text → h.permits start .list = true →
        ∃ entries, ((h.fulfil (.list (some start))).runWith (d.backend later)
            ⟨w.store, index'⟩).1 = .ok entries ∧
          ⟨p, some data.length, some now⟩ ∈ entries := by
  have hreply := fulfil_reply d now t h (.file p.text (.write data overwrite)) index
  have hstore := fulfil_store d now t h (.file p.text (.write data overwrite)) index
  rw [hwritten] at hreply hstore
  have hreadable : d.Readable w.store h p data now later := by
    rcases write_step d now h t p.text data overwrite with
      ⟨why, hout⟩ | ⟨p', i, hp, hpermits, hfile, hsnapshot, hout⟩
    · rw [hout] at hreply
      cases hreply
    · obtain rfl := Path.ext_text hp
      rw [hout] at hreply hstore
      exact readable_of_write hdots hname hfile hpermits hsnapshot
        (Prod.ext hreply.symm hstore.symm) later
  refine ⟨?_, ?_, ?_⟩
  · intro hpermits
    exact hreadable.reply .inspect rfl hpermits rfl index'
  · intro hpermits
    exact hreadable.reply .readBytes rfl hpermits rfl index'
  · intro start hstart hpermits
    exact hreadable.listed hstart hpermits index'

/-- A file that the workspace's own handle has written is read back. -/
theorem written_reads_back_in_workspace :
    let p : Path := ⟨"/workspace/a/b", by decide⟩
    let h : Handle := .ofNamespaces [.workspace]
    let run := (h.fulfil (.file p.text (.write [1, 2] false))).runWith (plainStore.backend ⟨0, 0⟩)
      ⟨plainTree, ∅⟩
    ['.'] ∉ Text.segments p.text ∧ ¬ draftStart <+: p.name ∧
      run.1 = .ok (.written p 2 ⟨0, 0⟩) ∧ h.permits "/work" .list = false ∧
      h.permits "/workspace/" .list = true ∧
      ((h.fulfil (.file p.text .readBytes)).runWith (plainStore.backend ⟨1, 0⟩)
        ⟨run.2.store, ∅⟩).1 = .ok [1, 2] ∧
      ∃ entries, ((h.fulfil (.list (some "/workspace/"))).runWith (plainStore.backend ⟨1, 0⟩)
          ⟨run.2.store, ∅⟩).1 = .ok entries ∧
        ⟨p, some 2, some ⟨0, 0⟩⟩ ∈ entries := by
  intro p h run
  have hdots : ['.'] ∉ Text.segments p.text := by decide
  have hname : ¬ draftStart <+: p.name := by decide
  have hwritten : run.1 = .ok (.written p 2 ⟨0, 0⟩) := by decide +kernel
  have hdenied : h.permits "/work" .list = false := by decide
  have hlist : h.permits "/workspace/" .list = true := by decide
  obtain ⟨-, hread, hlisted⟩ := written_reads_back hdots hname
    (Prod.ext hwritten rfl : run = (.ok (.written p 2 ⟨0, 0⟩), run.2)) ⟨1, 0⟩ ∅
  exact ⟨hdots, hname, hwritten, hdenied, hlist, hread (by decide),
    hlisted "/workspace/" (by decide) hlist⟩

/-- A write to the name of a draft is reported as done, and then nothing is found. -/
theorem written_draft_is_lost :
    let p : Path := ⟨"/workspace/.agentfs-tmp-x", by decide⟩
    let h : Handle := .ofNamespaces [.workspace]
    let run := (h.fulfil (.file p.text (.write [1] false))).runWith (plainStore.backend ⟨0, 0⟩)
      ⟨plainTree, ∅⟩
    plainTree.NoLinks ∧
      (∀ ns, plainStore.RootAt plainTree ns [Utf8.encode ns.name]) ∧
      h.permits p.text .write = true ∧ h.permits p.text .inspect = true ∧
      h.permits p.text .readBytes = true ∧ h.permits p.text .list = true ∧
      ['.'] ∉ Text.segments p.text ∧ run.1 = .ok (.written p 1 ⟨0, 0⟩) ∧
      ((h.fulfil (.file p.text .inspect)).runWith (plainStore.backend ⟨0, 0⟩)
        ⟨run.2.store, ∅⟩).1 = .error (.notFound p.text) ∧
      ((h.fulfil (.file p.text .readBytes)).runWith (plainStore.backend ⟨0, 0⟩)
        ⟨run.2.store, ∅⟩).1 = .error (.notFound p.text) ∧
      ((h.fulfil (.list (some p.text))).runWith (plainStore.backend ⟨0, 0⟩)
        ⟨run.2.store, ∅⟩).1 = .ok [] := by
  intro p h run
  have hlinks : plainTree.NoLinks := noLinks_of_entries (by decide)
  have hwritten : run.1 = .ok (.written p 1 ⟨0, 0⟩) := by decide +kernel
  have hinspect : ((h.fulfil (.file p.text .inspect)).runWith (plainStore.backend ⟨0, 0⟩)
      ⟨run.2.store, ∅⟩).1 = .error (.notFound p.text) := by
    decide +kernel
  have hread : ((h.fulfil (.file p.text .readBytes)).runWith (plainStore.backend ⟨0, 0⟩)
      ⟨run.2.store, ∅⟩).1 = .error (.notFound p.text) := by
    decide +kernel
  have hlist : ((h.fulfil (.list (some p.text))).runWith (plainStore.backend ⟨0, 0⟩)
      ⟨run.2.store, ∅⟩).1 = .ok [] := by
    decide +kernel
  exact ⟨hlinks, rootAt_plainTree, by decide, by decide, by decide, by decide,
    by decide, hwritten, hinspect, hread, hlist⟩

end GrantFs.DiskStore
