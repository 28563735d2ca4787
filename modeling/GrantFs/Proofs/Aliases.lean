import GrantFs.Proofs.DiskEffect
import GrantFs.Proofs.DiskReading
import GrantFs.Proofs.Mirror

/-! # Paths that share a place

A file lies where its segments lead, and a single dot leads nowhere, so the spellings of a path with
and without dots share one place. Main statement: below roots that lie beside one another nothing
else is shared, and a write changes nothing that any reader can see at any path other than its own
with the dots left out. -/
namespace GrantFs.DiskStore

open OsTree Os

variable {d : DiskStore} {now : Instant} {t u : OsTree} {root : Namespace → Place} {ns : Namespace}
  {p q : Path} {segments : List Text} {data : Bytes} {overwrite : Bool} {h : Handle}

def undotted (p : Path) : Text := ofComponents true (components p.text)

theorem segments_of_placeOf (hplace : placeOf p = .ok (ns, segments)) :
    Text.segments p.text = ns.name :: segments := by
  obtain ⟨⟨rest, hrest⟩, rfl⟩ := placeOf_eq_ok.mp hplace
  have htext : p.text = '/' :: ns.name ++ '/' :: rest := by
    rw [← hrest]
    cases ns <;> rfl
  have hname : Text.segments ('/' :: ns.name) = [ns.name] := by cases ns <;> decide
  rw [← hrest, List.drop_left, hrest, htext, Text.segments_append_slash, hname]
  rfl

theorem undotted_of_placeOf (hplace : placeOf p = .ok (ns, segments))
    (hne : segments.filter (· ≠ ['.']) ≠ []) :
    undotted p = pathText ns (segments.filter (· ≠ ['.'])) := by
  have hname : decide (ns.name ≠ ['.']) = true := by cases ns <;> decide
  have hcomponents : components p.text = ns.name :: segments.filter (· ≠ ['.']) := by
    rw [components, segments_of_placeOf hplace]
    exact List.filter_cons_of_pos hname
  have hroot : ns.root.text = '/' :: ns.name ++ ['/'] := by cases ns <;> rfl
  rw [undotted, hcomponents, ofComponents, Text.joinWith_slash_cons _ hne, pathText, hroot,
    List.append_assoc]
  rfl

theorem filter_of_no_dots (hplace : placeOf p = .ok (ns, segments))
    (hdots : ['.'] ∉ Text.segments p.text) : segments.filter (· ≠ ['.']) = segments := by
  rw [List.filter_eq_self]
  intro x hx
  rw [decide_eq_true_eq]
  rintro rfl
  apply hdots
  rw [segments_of_placeOf hplace]
  exact List.mem_cons_of_mem _ hx

/-- Without dots there is one spelling. -/
theorem undotted_eq (hfile : p.isDirLike = false) (hdots : ['.'] ∉ Text.segments p.text) :
    undotted p = p.text := by
  have hopen : p.text.getLast? ≠ some '/' := by simpa [Path.isDirLike] using hfile
  have hsound := Path.flaw?_append_slash p.sound hopen
  obtain ⟨rest, hrest⟩ : ∃ rest, p.text = '/' :: rest :=
    List.head?_eq_some_iff.mp (Path.flaw?_eq_none_iff.mp p.sound).1
  rw [hrest] at hsound hdots
  have hslashes : ¬ ['/', '/'] <:+: '/' :: (rest ++ ['/']) :=
    (Path.flaw?_eq_none_iff.mp hsound).2.2 ['/', '/'] (by decide)
  have hcomponents : components ('/' :: rest) = Text.segments rest := by
    rw [Text.segments_slash] at hdots
    rw [components, Text.segments_slash, List.filter_eq_self]
    intro s hs
    simpa using ne_of_mem_of_not_mem hs hdots
  rw [undotted, hrest, hcomponents, ofComponents, Text.joinWith_segments hslashes]
  rfl

theorem WriteOutcome.rootAt {reply : Except Fault Entry} {names : List Name}
    (hout : WriteOutcome now t (root ns) names p data overwrite reply u)
    (hroot : ∀ ns, d.RootAt t ns (root ns)) (ns' : Namespace) : d.RootAt u ns' (root ns') :=
  (hroot ns').keeps (hout.keepsKinds (hroot ns).leads.dir).toKeeps

theorem WriteOutcome.sameAt {reply : Except Fault Entry}
    (hout : WriteOutcome now t (root ns) (namesBelow segments) p data overwrite reply u)
    (hdir : t.get? (root ns) = some .dir) (hapart : Apart root)
    (hplace : placeOf p = .ok (ns, segments)) (hq : q.text ≠ undotted p) : SameAt root t u q := by
  intro ns' segments' content modified htext
  rcases hout.node_cases hdir (root ns' ++ segments'.map Utf8.encode) with
    hsame | ⟨hnone, hmade⟩ | ⟨heq, hne, -⟩
  · rw [hsame]
  · rw [hnone, hmade]
    simp
  · obtain ⟨rfl, hnames⟩ := hapart.of_eq heq
    rw [namesBelow] at hne hnames
    obtain rfl := List.map_injective_iff.mpr Utf8.encode_injective hnames
    apply absurd _ hq
    rw [htext, undotted_of_placeOf hplace]
    rintro hnil
    exact hne (by rw [hnil]; rfl)

/-- What a request to write may leave: a tree with the same roots, in which every path but the
undotted one has the same file. -/
structure Aside (d : DiskStore) (t : OsTree) (root : Namespace → Place) (p : Path) (u : OsTree) :
    Prop where
  roots : ∀ ns, d.RootAt u ns (root ns)
  others : ∀ q : Path, q.text ≠ undotted p → SameAt root t u q

theorem write_aside (hroot : ∀ ns, d.RootAt t ns (root ns)) (hapart : Apart root)
    (p : Path) (data : Bytes) (overwrite : Bool) (now : Instant) :
    d.Aside t root p (t.exec now (d.write p data overwrite)).2 := by
  cases hplace : placeOf p with
  | error why =>
    rw [exec_write_of_links (exec_locationWithoutLinks_of_error hplace)]
    exact ⟨hroot, fun q _ => .refl root t q⟩
  | ok place =>
    obtain ⟨ns, segments⟩ := place
    have hdir := (hroot ns).leads.dir
    obtain ⟨reply, u, hrun, hout⟩ := write_outcome now (hroot ns) hplace data overwrite
    rw [hrun]
    exact ⟨hout.rootAt hroot, fun q => hout.sameAt hdir hapart hplace⟩

theorem request_aside (hroot : ∀ ns, d.RootAt t ns (root ns)) (hapart : Apart root)
    (h : Handle) (p : Path) (data : Bytes) (overwrite : Bool) (now : Instant) (index : Snapshot) :
    d.Aside t root p ((h.fulfil (.file p.text (.write data overwrite))).runWith (d.backend now)
      ⟨t, index⟩).2.store := by
  rw [fulfil_store]
  rcases write_step d now h t p.text data overwrite with ⟨why, hout⟩ | ⟨p', i, hp, -, -, -, hout⟩
  · rw [hout]
    exact ⟨hroot, fun q _ => .refl root t q⟩
  · obtain rfl := Path.ext_text hp
    rw [hout]
    exact write_aside hroot hapart p' data overwrite now

theorem Aside.reply_eq (haside : d.Aside t root p u) (hroot : ∀ ns, d.RootAt t ns (root ns))
    (reader : Handle) (hq : q.text ≠ undotted p) {task : FileTask}
    (htask : (Request.file q.text task).isRead = true) (before after : Instant)
    (index₁ index₂ : Snapshot) :
    ((reader.fulfil (.file q.text task)).runWith (d.backend after) ⟨u, index₂⟩).1 =
      ((reader.fulfil (.file q.text task)).runWith (d.backend before) ⟨t, index₁⟩).1 :=
  ((haside.others q hq).reply_eq hroot haside.roots reader htask before after index₁ index₂).symm

/-- Below roots that lie beside one another, a request to write changes nothing that a reader with
any grants can see at a path, unless that is the path written to with its dots left out. -/
theorem write_keeps_other_paths (hroot : ∀ ns, d.RootAt t ns (root ns))
    (hapart : Apart root) (h : Handle) (p : Path) (data : Bytes) (overwrite : Bool) (now : Instant)
    (index : Snapshot) (reader : Handle) {q : Path} (hq : q.text ≠ undotted p) {task : FileTask}
    (htask : (Request.file q.text task).isRead = true) (before after : Instant)
    (index₁ index₂ : Snapshot) :
    let u := ((h.fulfil (.file p.text (.write data overwrite))).runWith (d.backend now)
      ⟨t, index⟩).2.store
    ((reader.fulfil (.file q.text task)).runWith (d.backend after) ⟨u, index₂⟩).1 =
      ((reader.fulfil (.file q.text task)).runWith (d.backend before) ⟨t, index₁⟩).1 := by
  intro u
  have haside : d.Aside t root p u := request_aside hroot hapart h p data overwrite now index
  exact haside.reply_eq hroot reader hq htask before after index₁ index₂

theorem apart_names : Apart fun ns : Namespace => [Utf8.encode ns.name] := by
  intro ns ns'
  cases ns <;> cases ns' <;> decide

/-- A write to a path with a dot, and a reader of the file beside it. -/
theorem write_keeps_other_paths_beside_dot :
    let root := fun ns : Namespace => [Utf8.encode ns.name]
    let p : Path := ⟨"/workspace/./a", by decide⟩
    let q : Path := ⟨"/workspace/b", by decide⟩
    let h : Handle := .ofNamespaces [.workspace]
    let u := ((h.fulfil (.file p.text (.write [1] true))).runWith (plainStore.backend ⟨0, 0⟩)
      ⟨plainTree, ∅⟩).2.store
    (∀ ns, plainStore.RootAt plainTree ns (root ns)) ∧ Apart root ∧
      q.text ≠ undotted p ∧ (Request.file q.text .readBytes).isRead = true ∧
      ((h.fulfil (.file q.text .readBytes)).runWith (plainStore.backend ⟨2, 0⟩) ⟨u, ∅⟩).1 =
        ((h.fulfil (.file q.text .readBytes)).runWith (plainStore.backend ⟨1, 0⟩)
          ⟨plainTree, ∅⟩).1 := by
  intro root p q h u
  have hq : q.text ≠ undotted p := by decide
  have hread : (Request.file q.text .readBytes).isRead = true := rfl
  exact ⟨rootAt_plainTree, apart_names, hq, hread,
    write_keeps_other_paths rootAt_plainTree apart_names h p [1] true ⟨0, 0⟩ ∅ h hq hread ⟨1, 0⟩
      ⟨2, 0⟩ ∅ ∅⟩

/-- Without a dot in the path, no path but the path itself is touched. -/
theorem write_without_dots_keeps_other_paths (hroot : ∀ ns, d.RootAt t ns (root ns))
    (hapart : Apart root) (h : Handle) (hfile : p.isDirLike = false)
    (hdots : ['.'] ∉ Text.segments p.text) (data : Bytes) (overwrite : Bool) (now : Instant)
    (index : Snapshot) (reader : Handle) (hq : q ≠ p) {task : FileTask}
    (htask : (Request.file q.text task).isRead = true) (before after : Instant)
    (index₁ index₂ : Snapshot) :
    let u := ((h.fulfil (.file p.text (.write data overwrite))).runWith (d.backend now)
      ⟨t, index⟩).2.store
    ((reader.fulfil (.file q.text task)).runWith (d.backend after) ⟨u, index₂⟩).1 =
      ((reader.fulfil (.file q.text task)).runWith (d.backend before) ⟨t, index₁⟩).1 := by
  intro u
  have haside : d.Aside t root p u := request_aside hroot hapart h p data overwrite now index
  have hother : q.text ≠ undotted p := by
    rw [undotted_eq hfile hdots]
    exact mt Path.ext_text hq
  exact haside.reply_eq hroot reader hother htask before after index₁ index₂

/-- A handle that may only write to paths with a dot changes a file that its grants do not cover. -/
theorem dotted_write_changes_undotted_path :
    let p : Path := ⟨"/workspace/./a", by decide⟩
    let q : Path := ⟨"/workspace/a", by decide⟩
    let h : Handle := ⟨[.ofOps ⟨"/workspace/./", by decide⟩ [.write]]⟩
    let reader : Handle := ⟨[.ofOps ⟨"/", by decide⟩ Operation.all]⟩
    let run := (h.fulfil (.file p.text (.write [1] false))).runWith (plainStore.backend ⟨0, 0⟩)
      ⟨plainTree, ∅⟩
    let reading := reader.fulfil (.file q.text .readBytes)
    plainTree.NoLinks ∧
      (∀ ns, plainStore.RootAt plainTree ns [Utf8.encode ns.name]) ∧
      Apart (fun ns => [Utf8.encode ns.name]) ∧ q ≠ p ∧ h.permits q.text .write = false ∧
      run.1 = .ok (.written p 1 ⟨0, 0⟩) ∧
      (reading.runWith (plainStore.backend ⟨0, 0⟩) ⟨plainTree, ∅⟩).1 =
        .error (.notFound q.text) ∧
      (reading.runWith (plainStore.backend ⟨0, 0⟩) ⟨run.2.store, ∅⟩).1 = .ok [1] := by
  intro p q h reader run reading
  have hlinks : plainTree.NoLinks := noLinks_of_entries (by decide)
  have hother : q ≠ p := by decide
  have hdenied : h.permits q.text .write = false := by decide
  have hwritten : run.1 = .ok (.written p 1 ⟨0, 0⟩) := by decide +kernel
  have hbefore : (reading.runWith (plainStore.backend ⟨0, 0⟩) ⟨plainTree, ∅⟩).1 =
      .error (.notFound q.text) := by
    decide +kernel
  have hafter : (reading.runWith (plainStore.backend ⟨0, 0⟩) ⟨run.2.store, ∅⟩).1 = .ok [1] := by
    decide +kernel
  exact ⟨hlinks, rootAt_plainTree, apart_names, hother, hdenied, hwritten, hbefore,
    hafter⟩

end GrantFs.DiskStore
