import GrantFs.Proofs.DiskPlace
import GrantFs.Proofs.OsWalk
import GrantFs.Proofs.Path

/-! # Snapshots of a disk

What a snapshot of the roots holds. Main statements: a snapshot changes nothing and holds exactly
the entries of the files that the walks find; a file below a root has one path, which leads back to
it; and a namespace that is passed over holds nothing visible. -/
namespace GrantFs.DiskStore

open OsTree Os

variable {d : DiskStore} {now : Instant} {t : OsTree} {grants : List Grant} {ns : Namespace}
  {root : Place} {p : Path} {e : Entry} {f : WalkedFile} {names : List Name} {segments : List Text}
  {content : Bytes} {modified : Instant} {done : List Namespace} {s : Snapshot}

/-- The text of the path of a file, by the segments below its root. -/
def pathText (ns : Namespace) (segments : List Text) : Text :=
  ns.root.text ++ Text.joinWith "/" segments

theorem namesText_eq_some : namesText names = some segments ↔ names = segments.map Utf8.encode := by
  induction names generalizing segments with
  | nil =>
    rw [namesText, Option.some.injEq]
    constructor
    · rintro rfl
      rfl
    · intro h
      exact (List.map_eq_nil_iff.mp h.symm).symm
  | cons name rest ih =>
    rw [namesText]
    constructor
    · intro h
      split at h
      next s ss hname hrest =>
        cases h
        rw [List.map_cons, ← Utf8.decode_eq_ok.mp hname, ← ih.mp hrest]
      next => cases h
    · intro h
      cases segments with
      | nil => cases h
      | cons s ss =>
        rw [List.map_cons, List.cons.injEq] at h
        rw [Utf8.decode_eq_ok.mpr h.1, ih.mpr h.2]

theorem pathOf?_eq_some : pathOf? ns names = some p ↔
    ∃ segments, names = segments.map Utf8.encode ∧ p.text = pathText ns segments := by
  constructor
  · intro h
    rw [pathOf?, Option.bind_eq_bind, Option.bind_eq_some_iff] at h
    obtain ⟨segments, hnames, hpath⟩ := h
    refine ⟨segments, namesText_eq_some.mp hnames, ?_⟩
    cases htext : Path.ofText (pathText ns segments) with
    | error why =>
      rw [pathText] at htext
      rw [htext] at hpath
      cases hpath
    | ok q =>
      rw [pathText] at htext
      rw [htext] at hpath
      cases hpath
      exact Path.ofText_eq_ok.mp htext
  · rintro ⟨segments, hnames, htext⟩
    rw [pathOf?, Option.bind_eq_bind, Option.bind_eq_some_iff]
    refine ⟨segments, namesText_eq_some.mpr hnames, ?_⟩
    rw [← pathText, ← htext, Path.ofText_text]
    rfl

theorem placeOf_of_text (hsegments : ∀ s ∈ segments, s.IsSegment)
    (h : p.text = pathText ns segments) : placeOf p = .ok (ns, segments) := by
  rw [placeOf_eq_ok, h, pathText, List.drop_left, Text.segments_joinWith hsegments]
  exact ⟨List.prefix_append .., rfl⟩

theorem isDraft_encode {s : Text} : isDraft (Utf8.encode s) = true ↔ draftStart <+: s := by
  rw [isDraft, Utf8.decodeLossy_encode, List.isPrefixOf_iff_prefix]

theorem entryOf?_eq_some {location : Text} : entryOf? location ns grants f = some e ↔
    isDraft (f.names.getLast?.getD (Utf8.encode ((components location).getLast?.getD []))) = false ∧
      pathOf? ns f.names = some e.path ∧ isVisible grants e.path.text = true ∧
        e.size = some f.size ∧ e.updatedAt = f.modified := by
  rw [entryOf?]
  split
  next hdraft => simp [hdraft]
  next hdraft =>
    rw [Bool.not_eq_true] at hdraft
    split
    next hnone => simp [hnone]
    next path hpath =>
      split
      next hvisible =>
        constructor
        · intro h
          cases h
          exact ⟨hdraft, hpath, hvisible, rfl, rfl⟩
        · rintro ⟨-, hp, -, hsize, hmodified⟩
          rw [hpath] at hp
          cases e
          cases hp
          cases hsize
          cases hmodified
          rfl
      next hhidden =>
        simp only [reduceCtorEq, false_iff, hpath, Option.some.injEq]
        rintro ⟨-, rfl, hvisible, -⟩
        exact hhidden hvisible

/-- A walk below the root of the namespace finds a visible file with this entry. -/
def Finds (d : DiskStore) (t : OsTree) (grants : List Grant) (ns : Namespace) (e : Entry) : Prop :=
  grants.any (·.overlaps ns.root.text) = true ∧ ∃ files, t.walkFrom (d.root ns) = .ok files ∧
    ∃ f ∈ files, entryOf? (d.root ns) ns grants f = some e

structure Gathered (d : DiskStore) (t : OsTree) (grants : List Grant) (done : List Namespace)
    (s : Snapshot) : Prop where
  found : ∀ p e, s.get? p = some e → e.path = p ∧ ∃ ns ∈ done, d.Finds t grants ns e
  kept : ∀ ns ∈ done, ∀ e, d.Finds t grants ns e → s.get? e.path ≠ none
  walked : ∀ ns ∈ done, grants.any (·.overlaps ns.root.text) = true →
    ∃ files, t.walkFrom (d.root ns) = .ok files

theorem get?_foldl_insert (entries : List Entry) (s : Snapshot) :
    (∀ p e, (entries.foldl (fun s e => s.insert e.path e) s).get? p = some e →
        e ∈ entries ∧ e.path = p ∨ s.get? p = some e) ∧
      ∀ p, (p ∈ entries.map (·.path) ∨ s.get? p ≠ none) →
        (entries.foldl (fun s e => s.insert e.path e) s).get? p ≠ none := by
  induction entries generalizing s with
  | nil => exact ⟨fun p e h => .inr h, fun p h => h.resolve_left (by simp)⟩
  | cons first rest ih =>
    obtain ⟨hfound, hkept⟩ := ih (s.insert first.path first)
    rw [List.foldl_cons]
    refine ⟨fun p e h => ?_, fun p h => hkept p ?_⟩
    · rcases hfound p e h with ⟨hmem, hpath⟩ | hold
      · exact .inl ⟨List.mem_cons_of_mem _ hmem, hpath⟩
      · rw [SortedMap.get?_insert] at hold
        split at hold
        next hp =>
          cases hold
          exact .inl ⟨List.mem_cons_self .., hp.symm⟩
        next => exact .inr hold
    · rw [SortedMap.get?_insert]
      by_cases hp : p = first.path
      · exact .inr (by simp [hp])
      · rw [if_neg hp]
        refine h.imp_left fun hmem => ?_
        rw [List.map_cons, List.mem_cons] at hmem
        exact hmem.resolve_left hp

theorem exec_addNamespace_of_no_overlap (h : ¬ grants.any (·.overlaps ns.root.text) = true)
    (s : Snapshot) : t.exec now (d.addNamespace grants s ns) = (.ok s, t) := by
  rw [addNamespace, if_neg h, exec_pure]

theorem exec_addNamespace_of_overlap (h : grants.any (·.overlaps ns.root.text) = true)
    (s : Snapshot) :
    t.exec now (d.addNamespace grants s ns) =
      (((t.walkFrom (d.root ns)).mapError .io).map fun files =>
        (files.filterMap (entryOf? (d.root ns) ns grants)).foldl (fun s e => s.insert e.path e) s,
        t) := by
  have hwalk : t.exec now (orFail (ask (.walk (d.root ns)))) =
      ((t.walkFrom (d.root ns)).mapError .io, t) := by
    rw [exec_orFail, run_ask]
    rfl
  rw [addNamespace, if_pos h]
  cases hfiles : t.walkFrom (d.root ns) with
  | error why =>
    rw [hfiles] at hwalk
    exact exec_bind_error hwalk _
  | ok files =>
    rw [hfiles] at hwalk
    exact exec_bind_ok hwalk _

theorem Gathered.pass (h : d.Gathered t grants done s)
    (hoverlap : ¬ grants.any (·.overlaps ns.root.text) = true) :
    d.Gathered t grants (done ++ [ns]) s where
  found := fun p e he => by
    obtain ⟨hpath, ns', hns', hfinds⟩ := h.found p e he
    exact ⟨hpath, ns', List.mem_append_left _ hns', hfinds⟩
  kept := fun ns' hns' e hfinds => by
    rcases List.mem_append.mp hns' with hbefore | hnow
    · exact h.kept ns' hbefore e hfinds
    · obtain rfl := List.mem_singleton.mp hnow
      exact absurd hfinds.1 hoverlap
  walked := fun ns' hns' hns => by
    rcases List.mem_append.mp hns' with hbefore | hnow
    · exact h.walked ns' hbefore hns
    · obtain rfl := List.mem_singleton.mp hnow
      exact absurd hns hoverlap

theorem Gathered.add (h : d.Gathered t grants done s)
    (hoverlap : grants.any (·.overlaps ns.root.text) = true) {files : List WalkedFile}
    (hfiles : t.walkFrom (d.root ns) = .ok files) :
    d.Gathered t grants (done ++ [ns])
      ((files.filterMap (entryOf? (d.root ns) ns grants)).foldl (fun s e => s.insert e.path e)
        s) := by
  obtain ⟨hfound, hkept⟩ := get?_foldl_insert (files.filterMap (entryOf? (d.root ns) ns grants)) s
  refine ⟨fun p e he => ?_, fun ns' hns' e hfinds => hkept e.path ?_, fun ns' hns' hns => ?_⟩
  · rcases hfound p e he with ⟨hmem, hpath⟩ | hold
    · obtain ⟨f, hf, hentry⟩ := List.mem_filterMap.mp hmem
      exact ⟨hpath, ns, by simp, hoverlap, files, hfiles, f, hf, hentry⟩
    · obtain ⟨hpath, ns', hns', hfinds⟩ := h.found p e hold
      exact ⟨hpath, ns', List.mem_append_left _ hns', hfinds⟩
  · rcases List.mem_append.mp hns' with hbefore | hnow
    · exact .inr (h.kept ns' hbefore e hfinds)
    · obtain rfl := List.mem_singleton.mp hnow
      obtain ⟨-, files', hfiles', f, hf, hentry⟩ := hfinds
      rw [hfiles] at hfiles'
      cases hfiles'
      exact .inl (List.mem_map_of_mem (List.mem_filterMap.mpr ⟨f, hf, hentry⟩))
  · rcases List.mem_append.mp hns' with hbefore | hnow
    · exact h.walked ns' hbefore hns
    · obtain rfl := List.mem_singleton.mp hnow
      exact ⟨files, hfiles⟩

theorem addNamespace_outcome (now : Instant) (ns : Namespace) (h : d.Gathered t grants done s) :
    ∃ r, t.exec now (d.addNamespace grants s ns) = (r, t) ∧
      (∀ s', r = .ok s' → d.Gathered t grants (done ++ [ns]) s') ∧
      ((grants.any (·.overlaps ns.root.text) = true →
        ∃ files, t.walkFrom (d.root ns) = .ok files) → ∃ s', r = .ok s') := by
  by_cases hoverlap : grants.any (·.overlaps ns.root.text) = true
  · refine ⟨_, exec_addNamespace_of_overlap hoverlap s, ?_⟩
    cases hfiles : t.walkFrom (d.root ns) with
    | error why =>
      refine ⟨nofun, fun hwalk => ?_⟩
      obtain ⟨files, hfound⟩ := hwalk hoverlap
      cases hfound
    | ok files =>
      refine ⟨?_, fun _ => ⟨_, rfl⟩⟩
      rintro s' ⟨⟩
      exact h.add hoverlap hfiles
  · refine ⟨.ok s, exec_addNamespace_of_no_overlap hoverlap s, ?_, fun _ => ⟨s, rfl⟩⟩
    rintro s' ⟨⟩
    exact h.pass hoverlap

/-- A snapshot changes nothing; it gathers what the walks find, or one of them fails. -/
theorem snapshot_outcome (now : Instant) (d : DiskStore) (t : OsTree) (grants : List Grant) :
    ∃ r, t.exec now (d.snapshot grants) = (r, t) ∧
      (∀ s, r = .ok s → d.Gathered t grants Namespace.all s) ∧
      ((∀ ns, grants.any (·.overlaps ns.root.text) = true →
        ∃ files, t.walkFrom (d.root ns) = .ok files) → ∃ s, r = .ok s) := by
  have hempty : d.Gathered t grants [] ∅ :=
    ⟨fun p e he => by simp at he, fun ns hns => by simp at hns, fun ns hns => by simp at hns⟩
  obtain ⟨r₁, hrun₁, hgathered₁, hok₁⟩ := addNamespace_outcome now .internal hempty
  cases r₁ with
  | error why =>
    refine ⟨.error why, exec_bind_error hrun₁ _, nofun, fun hwalks => ?_⟩
    obtain ⟨s, hs⟩ := hok₁ (hwalks .internal)
    cases hs
  | ok s₁ =>
    obtain ⟨r₂, hrun₂, hgathered₂, hok₂⟩ :=
      addNamespace_outcome now .userinput (hgathered₁ s₁ rfl)
    rw [snapshot, exec_bind_ok hrun₁]
    cases r₂ with
    | error why =>
      refine ⟨.error why, exec_bind_error hrun₂ _, nofun, fun hwalks => ?_⟩
      obtain ⟨s, hs⟩ := hok₂ (hwalks .userinput)
      cases hs
    | ok s₂ =>
      obtain ⟨r₃, hrun₃, hgathered₃, hok₃⟩ :=
        addNamespace_outcome now .workspace (hgathered₂ s₂ rfl)
      rw [exec_bind_ok hrun₂]
      exact ⟨r₃, hrun₃, hgathered₃, fun hwalks => hok₃ (hwalks .workspace)⟩

theorem backend_snapshot_store (now : Instant) (d : DiskStore) (grants : List Grant) (t : OsTree) :
    (d.backend now (.snapshot grants) t).2 = t := by
  obtain ⟨r, hrun, -⟩ := snapshot_outcome now d t grants
  exact congrArg Prod.snd hrun

structure FileAt (d : DiskStore) (t : OsTree) (ns : Namespace) (root : Place)
    (segments : List Text) (content : Bytes) (modified : Instant) : Prop where
  ne_nil : segments ≠ []
  node : t.get? (root ++ segments.map Utf8.encode) = some (.file content modified)
  fits : checkLocation (d.locationOf ns segments) = .ok ()

/-- A file that a path names and the grants let see. -/
structure Listed (d : DiskStore) (t : OsTree) (grants : List Grant) (ns : Namespace) (root : Place)
    (p : Path) (segments : List Text) (content : Bytes) (modified : Instant) : Prop
    extends FileAt d t ns root segments content modified where
  text : p.text = pathText ns segments
  noDraft : ∀ s, segments.getLast? = some s → ¬ draftStart <+: s
  visible : isVisible grants p.text = true

theorem overlaps_of_visible (hvisible : isVisible grants p.text = true)
    (hns : ns.root.text <+: p.text) : grants.any (·.overlaps ns.root.text) = true := by
  obtain ⟨g, hg, hcovers⟩ := isVisible_iff.mp hvisible
  exact List.any_eq_true.mpr ⟨g, hg, Grant.overlaps_iff.mpr ⟨p.text, hcovers, hns⟩⟩

theorem isPlain_of_node (hnode : t.get? (root ++ segments.map Utf8.encode) ≠ none)
    {x : Text} (hx : x ∈ segments) : x.IsPlain := by
  have hname := isName hnode (List.mem_map_of_mem hx)
  refine ⟨⟨?_, ?_⟩, ?_, ?_⟩
  · rintro rfl
    exact hname.ne_nil rfl
  · exact fun hslash => hname.noSlash (Utf8.mem_encode_slash.mpr hslash)
  · rintro rfl
    exact hname.ne_dot rfl
  · rintro rfl
    exact hname.ne_dotDot rfl

theorem namesBelow_of_plain (hplain : ∀ x ∈ segments, x.IsPlain) :
    namesBelow segments = segments.map Utf8.encode := by
  rw [namesBelow, List.filter_eq_self.mpr]
  intro x hx
  simpa using (hplain x hx).ne_dot

theorem FileAt.plain (h : d.FileAt t ns root segments content modified) {x : Text}
    (hx : x ∈ segments) : x.IsPlain :=
  isPlain_of_node (by rw [h.node]; simp) hx

theorem FileAt.placeOf_eq (h : d.FileAt t ns root segments content modified)
    (htext : p.text = pathText ns segments) : placeOf p = .ok (ns, segments) :=
  placeOf_of_text (fun _ hx => (h.plain hx).segment) htext

theorem FileAt.location_eq (h : d.FileAt t ns root segments content modified)
    (htext : p.text = pathText ns segments) : d.location p = .ok (d.locationOf ns segments) := by
  rw [location, h.placeOf_eq htext]
  rfl

theorem FileAt.shows (h : d.FileAt t ns root segments content modified)
    (hroot : d.RootAt t ns root) :
    t.Shows (d.locationOf ns segments) (root ++ segments.map Utf8.encode)
      (.file content modified) := by
  have hplain : ∀ x ∈ segments, x.IsPlain := fun x hx => h.plain hx
  have hfits := h.fits
  have hnode := h.node
  obtain ⟨init, s, rfl⟩ := (List.eq_nil_or_concat' segments).resolve_left h.ne_nil
  have hinit : namesBelow init = init.map Utf8.encode :=
    namesBelow_of_plain fun x hx => hplain x (List.mem_append_left _ hx)
  rw [List.map_append, List.map_singleton, ← List.append_assoc, ← hinit] at hnode ⊢
  exact hroot.shows_of_node (fun x hx => (hplain x hx).segment) hfits hnode (by simp)

theorem exec_read_of_shows {location : Text} {place : Place}
    (hlocation : d.location p = .ok location)
    (hshows : t.Shows location place (.file content modified)) :
    t.exec now (d.read p) = (.ok content, t) := by
  obtain ⟨seen, hrun, hseen⟩ := t.run_isFile now location
  rw [read, exec_bind_ok ((exec_check _).trans (by rw [hlocation]))]
  simp only
  rw [exec_bind_program, hrun, hseen.mpr ⟨place, content, modified, hshows⟩]
  show t.exec now (liftM (ask (.read location)) >>= _) = _
  rw [exec_bind_program, run_ask, read_of_shows hshows]
  rfl

theorem checkLocation_locationOf (hsegments : ∀ x ∈ segments, x.IsSegment) (hne : segments ≠ [])
    (hroot : d.root ns ≠ []) :
    checkLocation (d.locationOf ns segments) = .ok () ↔
      sizeBelow (d.root ns) (segments.map Utf8.encode) < locationLimit := by
  have hlocation : d.locationOf ns segments ≠ [] := by
    obtain ⟨init, s, rfl⟩ := (List.eq_nil_or_concat' segments).resolve_left hne
    rw [locationOf, List.foldl_append]
    exact join_ne_nil (hsegments s (by simp)) _
  rw [checkLocation_eq_ok, locationOf, byteSize_foldl_join hsegments hroot, if_neg hne]
  exact and_iff_right hlocation

theorem isDraft_last (hne : segments ≠ []) (last : Name) :
    isDraft ((segments.map Utf8.encode).getLast?.getD last) = false ↔
      ∀ s, segments.getLast? = some s → ¬ draftStart <+: s := by
  obtain ⟨init, s, rfl⟩ := (List.eq_nil_or_concat' segments).resolve_left hne
  rw [List.getLast?_map, List.getLast?_concat, Option.map_some, Option.getD_some,
    ← Bool.not_eq_true, isDraft_encode]
  simp

/-- What the walk below a root finds is what is listed there. -/
theorem RootAt.finds_iff (hroot : d.RootAt t ns root) :
    d.Finds t grants ns e ↔ ∃ segments content modified,
      d.Listed t grants ns root e.path segments content modified ∧
        e.size = some content.length ∧ e.updatedAt = some modified := by
  have hwalk := walkFrom_of_leads hroot.fits hroot.leads
  constructor
  · rintro ⟨-, files, hfiles, f, hf, hentry⟩
    rw [hwalk] at hfiles
    cases hfiles
    obtain ⟨hmem, hsize⟩ := List.mem_filter.mp hf
    obtain ⟨hne, content, modified, hnode, hfsize, hfmodified⟩ := mem_filesBelow.mp hmem
    obtain ⟨hdraft, hpath, hvisible, hesize, hemodified⟩ := entryOf?_eq_some.mp hentry
    obtain ⟨segments, hnames, htext⟩ := pathOf?_eq_some.mp hpath
    rw [hnames] at hne hnode hdraft hsize
    have hsegments : segments ≠ [] := fun hnil => hne (by rw [hnil]; rfl)
    have hfits := (checkLocation_locationOf
      (fun x hx => (isPlain_of_node (by rw [hnode]; simp) hx).segment) hsegments hroot.ne_nil).mpr
      (of_decide_eq_true hsize)
    exact ⟨segments, content, modified, ⟨⟨hsegments, hnode, hfits⟩, htext,
      (isDraft_last hsegments _).mp hdraft, hvisible⟩, by rw [hesize, hfsize],
      by rw [hemodified, hfmodified]⟩
  · rintro ⟨segments, content, modified, hlisted, hsize, hmodified⟩
    have hoverlap : grants.any (·.overlaps ns.root.text) = true := by
      refine overlaps_of_visible hlisted.visible ?_
      rw [hlisted.text]
      exact List.prefix_append ..
    have hshort := (checkLocation_locationOf (fun x hx => (hlisted.plain hx).segment)
      hlisted.ne_nil hroot.ne_nil).mp hlisted.fits
    have hmem : ⟨segments.map Utf8.encode, content.length, some modified⟩ ∈ t.filesBelow root :=
      mem_filesBelow.mpr
        ⟨by simpa using hlisted.ne_nil, content, modified, hlisted.node, rfl, rfl⟩
    exact ⟨hoverlap, _, hwalk, _, List.mem_filter.mpr ⟨hmem, decide_eq_true hshort⟩,
      entryOf?_eq_some.mpr ⟨(isDraft_last hlisted.ne_nil _).mpr hlisted.noDraft,
        pathOf?_eq_some.mpr ⟨segments, rfl, hlisted.text⟩, hlisted.visible, hsize, hmodified⟩⟩

theorem Listed.unique {root : Namespace → Place} {ns' : Namespace}
    {segments' : List Text} {content' : Bytes} {modified' : Instant}
    (h : d.Listed t grants ns (root ns) p segments content modified)
    (h' : d.Listed t grants ns' (root ns') p segments' content' modified') :
    ns = ns' ∧ segments = segments' ∧ content = content' ∧ modified = modified' := by
  have hplace := h.placeOf_eq h.text
  rw [h'.placeOf_eq h'.text] at hplace
  cases hplace
  have hnode := h.node
  rw [h'.node] at hnode
  cases hnode
  exact ⟨rfl, rfl, rfl, rfl⟩

/-- With all roots in place a snapshot succeeds, and its entries are those of the listed files. -/
theorem exists_snapshot {root : Namespace → Place} (now : Instant)
    (hroot : ∀ ns, d.RootAt t ns (root ns)) (grants : List Grant) :
    ∃ s, t.exec now (d.snapshot grants) = (.ok s, t) ∧
      ∀ p e, s.get? p = some e ↔ ∃ ns segments content modified,
        d.Listed t grants ns (root ns) p segments content modified ∧
          e = ⟨p, some content.length, some modified⟩ := by
  obtain ⟨r, hrun, hgathered, hok⟩ := snapshot_outcome now d t grants
  obtain ⟨s, rfl⟩ := hok fun ns _ => ⟨_, walkFrom_of_leads (hroot ns).fits (hroot ns).leads⟩
  have hs := hgathered s rfl
  have hentry : ∀ p e, s.get? p = some e → ∃ ns segments content modified,
      d.Listed t grants ns (root ns) p segments content modified ∧
        e = ⟨p, some content.length, some modified⟩ := by
    intro p e he
    obtain ⟨rfl, ns, -, hfinds⟩ := hs.found p e he
    obtain ⟨segments, content, modified, hlisted, hsize, hmodified⟩ :=
      ((hroot ns).finds_iff).mp hfinds
    refine ⟨ns, segments, content, modified, hlisted, ?_⟩
    cases e
    cases hsize
    cases hmodified
    rfl
  refine ⟨s, hrun, fun p e => ⟨hentry p e, ?_⟩⟩
  rintro ⟨ns, segments, content, modified, hlisted, rfl⟩
  have hfinds : d.Finds t grants ns ⟨p, some content.length, some modified⟩ :=
    ((hroot ns).finds_iff).mpr ⟨segments, content, modified, hlisted, rfl, rfl⟩
  obtain ⟨e, he⟩ := Option.ne_none_iff_exists'.mp (hs.kept ns (by cases ns <;> decide) _ hfinds)
  obtain ⟨ns', segments', content', modified', hlisted', rfl⟩ := hentry p e he
  obtain ⟨-, -, rfl, rfl⟩ := hlisted.unique hlisted'
  exact he

end GrantFs.DiskStore
