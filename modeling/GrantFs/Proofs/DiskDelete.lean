import GrantFs.Proofs.DiskWrite

/-! # Deleting from disk

What a delete does to the tree. Main statements: a delete that fails changes nothing; one that
succeeds takes away the file with the last of the directories on the way to it, up to one that still
holds something; and a file is deleted whose way is clear and whose location is not too long. -/
namespace GrantFs.DiskStore

open OsTree Os

variable {d : DiskStore} {now : Instant} {t u : OsTree} {ns : Namespace} {root : Place} {p : Path}
  {segments init : List Text} {s : Text} {content : Bytes} {modified : Instant}

inductive DeleteOutcome (d : DiskStore) (ns : Namespace) (t : OsTree) (root : Place)
    (names : List Name) : Except Fault Unit → OsTree → Prop where
  | refused (why : Fault) : DeleteOutcome d ns t root names (.error why) t
  | deleted {u : OsTree} {j : Nat} {content : Bytes} {modified : Instant} : t.Clear root names →
      j < names.length → t.get? (root ++ names) = some (.file content modified) →
      t.Cut u (root ++ names.take j) (root ++ names) →
      (d.RootAt u ns root →
        j = 0 ∨ ∃ more, more ≠ [] ∧ u.get? (root ++ names.take j ++ more) ≠ none) →
      DeleteOutcome d ns t root names (.ok ()) u

theorem dirsBetween_locationOf (d : DiskStore) (ns : Namespace)
    (hsegments : ∀ x ∈ segments, x.IsSegment) (hkept : segments.filter (· ≠ ['.']) = init ++ [s]) :
    parent (d.locationOf ns segments) =
        ofComponents (isAbsolute (d.root ns)) (components (d.root ns) ++ init) ∧
      dirsBetween (d.root ns) (d.locationOf ns segments) =
        (chain (isAbsolute (d.root ns)) (components (d.root ns) ++ init)).take init.length := by
  have hinit : ∀ x ∈ init, x ∈ segments ∧ x ≠ ['.'] := by
    intro x hx
    have hmem : x ∈ segments.filter (· ≠ ['.']) := by
      rw [hkept]
      exact List.mem_append_left _ hx
    simpa using List.mem_filter.mp hmem
  have hbase : ∀ x ∈ components (d.root ns) ++ init, x.IsSegment := by
    intro x hx
    rcases List.mem_append.mp hx with hx | hx
    · exact isSegment_of_mem_components hx
    · exact hsegments x (hinit x hx).1
  have hdots : ['.'] ∉ components (d.root ns) ++ init := by
    rw [List.mem_append, not_or]
    exact ⟨dot_not_mem_components _, fun hdot => (hinit _ hdot).2 rfl⟩
  have hparent : parent (d.locationOf ns segments) =
      ofComponents (isAbsolute (d.root ns)) (components (d.root ns) ++ init) := by
    rw [parent_locationOf d ns hsegments, hkept, ← List.append_assoc, List.dropLast_concat]
  refine ⟨hparent, ?_⟩
  rw [dirsBetween, hparent, components_ofComponents hbase hdots, List.length_append,
    Nat.add_sub_cancel_left]
  by_cases hne : init = []
  · rw [hne]
    rfl
  · rw [cons_ancestors hbase hdots (List.append_ne_nil_of_right_ne_nil _ hne)]

theorem prune_behind (now : Instant) (hroot : d.RootAt t ns root)
    (hplace : placeOf p = .ok (ns, init ++ [s])) (hs : s ≠ ['.'])
    (hfile : t.get? (root ++ namesBelow init ++ [Utf8.encode s]) = some (.file content modified))
    (hfits : checkLocation (d.locationOf ns (init ++ [s])) = .ok ()) :
    ∃ j ≤ (namesBelow init).length, ∃ v,
      (t.erase (root ++ namesBelow init ++ [Utf8.encode s])).run now
          (prune (dirsBetween (d.root ns) (d.locationOf ns (init ++ [s])))) = ((), v) ∧
        t.Cut v (root ++ (namesBelow init).take j) (root ++ namesBelow init ++ [Utf8.encode s]) ∧
        (d.RootAt v ns root →
          j = 0 ∨ ∃ more, more ≠ [] ∧
            v.get? (root ++ (namesBelow init).take j ++ more) ≠ none) := by
  have hsegments : ∀ x ∈ init ++ [s], x.IsSegment := fun x hx => isSegment_of_placeOf hplace hx
  have hbelow : ∀ x ∈ init.filter (· ≠ ['.']), Text.IsPlain x := by
    intro x hx
    refine isPlain_of_placeOf hplace ?_
    rw [List.filter_append]
    exact List.mem_append_left _ hx
  have hbase : ∀ x ∈ components (d.root ns), x.IsSegment :=
    fun x hx => isSegment_of_mem_components hx
  have hempty : ∀ q, root ++ namesBelow init ++ [Utf8.encode s] <+: q →
      q ≠ root ++ namesBelow init ++ [Utf8.encode s] → t.get? q = none := by
    intro q hq hne
    exact none_below (by rw [hfile]; simp) hq hne
  have hdir : (t.erase (root ++ namesBelow init ++ [Utf8.encode s])).get?
      (root ++ (init.filter (· ≠ ['.'])).map Utf8.encode) = some .dir := by
    rw [← namesBelow, get?_erase_of_bare (by simp) hempty, if_neg (by simp)]
    exact inDir (by rw [hfile]; simp)
  obtain ⟨j, hj, v, hrun, hcut, hstop⟩ := prune_outcome now (isAbsolute (d.root ns)) hbase
    hbelow hroot.leads_components (keeps_erase (by simp)) hdir
  refine ⟨j, by rwa [namesBelow, List.length_map], v, ?_, ?_, fun hthere => ?_⟩
  · have hkept : (init ++ [s]).filter (· ≠ ['.']) = init.filter (· ≠ ['.']) ++ [s] := by
      simp [hs]
    rw [(dirsBetween_locationOf d ns hsegments hkept).2]
    exact hrun
  · exact hcut.concat ((List.prefix_append_right_inj root).mpr (List.take_prefix ..)) hempty
  · by_cases hnil : init.filter (· ≠ ['.']) = []
    · rw [hnil] at hj
      exact .inl (Nat.le_zero.mp hj)
    · refine hstop ?_ hthere.leads_components
      have hnames : ∀ x ∈ components (d.root ns) ++ init.filter (· ≠ ['.']), x.IsSegment := by
        intro x hx
        rcases List.mem_append.mp hx with hx | hx
        · exact hbase x hx
        · exact (hbelow x hx).segment
      have hlocation : components (d.locationOf ns (init ++ [s])) =
          components (d.root ns) ++ init.filter (· ≠ ['.']) ++ [s] := by
        rw [locationOf, components_foldl_join hsegments]
        simp [hs]
      have habsolute : isAbsolute (d.locationOf ns (init ++ [s])) = isAbsolute (d.root ns) :=
        isAbsolute_foldl_join hsegments _
      have hwhole := checkLocation_ofComponents_components hfits (by simp [hlocation])
      rw [hlocation, habsolute] at hwhole
      exact checkLocation_ofComponents_of_append hnames
        (List.append_ne_nil_of_right_ne_nil _ hnil) hwhole

theorem exec_delete_of_links {why : Fault}
    (h : t.exec now (d.locationWithoutLinks p) = (.error why, t)) :
    t.exec now (d.delete p) = (.error why, t) := exec_bind_error h _

theorem exec_delete_of_no_file {location : Text}
    (h : t.exec now (d.locationWithoutLinks p) = (.ok (ns, location), t))
    (hnone : ∀ q content modified, ¬ t.Shows location q (.file content modified)) :
    t.exec now (d.delete p) = (.error (.notFound p.text), t) := by
  obtain ⟨seen, hrun, hseen⟩ := t.run_isFile now location
  have hfalse : seen = false := by
    rw [Bool.eq_false_iff]
    intro htrue
    obtain ⟨q, content, modified, hshows⟩ := hseen.mp htrue
    exact hnone q content modified hshows
  rw [delete, exec_bind_ok h]
  simp only
  rw [exec_bind_program, hrun, hfalse]
  rfl

theorem exec_delete_of_file {location : Text} {q : Place}
    (h : t.exec now (d.locationWithoutLinks p) = (.ok (ns, location), t))
    (hshows : t.Shows location q (.file content modified))
    (hremoved : answer now [] (.removeFile location) t = (.ok (), u)) :
    t.exec now (d.delete p) = u.exec now (liftM (prune (dirsBetween (d.root ns) location))) := by
  obtain ⟨seen, hrun, hseen⟩ := t.run_isFile now location
  rw [delete, exec_bind_ok h]
  simp only
  rw [exec_bind_program, hrun, hseen.mpr ⟨q, content, modified, hshows⟩]
  show t.exec now (liftM (ask (.removeFile location)) >>= _) = _
  rw [exec_bind_program, run_ask, hremoved]

theorem delete_of_shows (now : Instant) (hroot : d.RootAt t ns root)
    (hplace : placeOf p = .ok (ns, segments)) (hclear : t.Clear root (namesBelow segments))
    (hlinks : t.exec now (d.locationWithoutLinks p) = (.ok (ns, d.locationOf ns segments), t))
    {q : Place} (hshows : t.Shows (d.locationOf ns segments) q (.file content modified)) :
    ∃ u, t.exec now (d.delete p) = (.ok (), u) ∧
      DeleteOutcome d ns t root (namesBelow segments) (.ok ()) u := by
  have hsegments : ∀ x ∈ segments, x.IsSegment := fun x hx => isSegment_of_placeOf hplace hx
  obtain rfl := hroot.place_of_shows hsegments hclear hshows
  have hfile := hshows.node
  rcases List.eq_nil_or_concat' segments with rfl | ⟨init, s, rfl⟩
  · have hdir := hroot.leads.dir
    rw [namesBelow, List.filter_nil, List.map_nil, List.append_nil, hdir] at hfile
    cases hfile
  have hnames : namesOf (d.locationOf ns (init ++ [s])) =
      (Text.segments (d.root ns)).map Utf8.encode ++ (init ++ [s]).map Utf8.encode :=
    namesOf_locationOf hsegments (by simp)
  have hs : s ≠ ['.'] := by
    rintro rfl
    refine (resolve_past_file t.get?_nil hshows.located hfile).1 ?_
    rw [hnames, List.map_append, List.map_singleton, ← List.append_assoc, List.getLast?_concat]
    rfl
  rw [namesBelow_concat hs] at hclear hfile ⊢
  rw [← List.append_assoc] at hfile
  have hsome : t.get? (root ++ namesBelow init ++ [Utf8.encode s]) ≠ none := by
    rw [hfile]
    simp
  have hleads : t.Leads ((Text.segments (d.root ns)).map Utf8.encode ++ init.map Utf8.encode)
      (root ++ namesBelow init) := by
    have hdir := inDir hsome
    rw [← undot_eq_namesBelow] at hdir ⊢
    exact hroot.leads_segments.append hdir
  rw [List.map_append, List.map_singleton, ← List.append_assoc] at hnames
  have hremoved := answer_removeFile now hleads (named hsome).toOrdinary hnames
    hshows.fits hfile
  obtain ⟨j, hj, v, hrun, hcut, hstop⟩ :=
    prune_behind now hroot hplace hs hfile hshows.fits
  have htake : (namesBelow init ++ [Utf8.encode s]).take j = (namesBelow init).take j :=
    List.take_append_of_le_length hj
  refine ⟨v, ?_, .deleted (j := j) hclear ?_ (by rwa [← List.append_assoc]) ?_ ?_⟩
  · rw [exec_delete_of_file hlinks hshows hremoved, exec_program, hrun]
  · rw [List.length_append, List.length_singleton]
    omega
  · rwa [htake, ← List.append_assoc]
  · rwa [htake]

theorem delete_outcome (now : Instant) (hroot : d.RootAt t ns root)
    (hplace : placeOf p = .ok (ns, segments)) :
    ∃ r u, t.exec now (d.delete p) = (r, u) ∧
      DeleteOutcome d ns t root (namesBelow segments) r u := by
  have hplain : ∀ x ∈ segments.filter (· ≠ ['.']), Text.IsPlain x :=
    fun x hx => isPlain_of_placeOf hplace hx
  obtain ⟨r, hrefuse, hok, -⟩ := refuseLinks_outcome now p hplain hroot.leads_segments
  have hlinks := exec_locationWithoutLinks hplace hrefuse
  cases r with
  | error why => exact ⟨_, t, exec_delete_of_links hlinks, .refused why⟩
  | ok _ =>
    by_cases hfile : ∃ q content modified,
        t.Shows (d.locationOf ns segments) q (.file content modified)
    · obtain ⟨q, content, modified, hshows⟩ := hfile
      obtain ⟨u, hrun, hout⟩ := delete_of_shows now hroot hplace (hok rfl) hlinks hshows
      exact ⟨_, u, hrun, hout⟩
    · refine ⟨_, t, exec_delete_of_no_file hlinks ?_, .refused _⟩
      exact fun q content modified hshows => hfile ⟨q, content, modified, hshows⟩

/-- A file below a root is deleted by the path that names it. -/
theorem delete_of_file (now : Instant) (hroot : d.RootAt t ns root)
    (hplace : placeOf p = .ok (ns, init ++ [s])) (hdots : ['.'] ∉ init ++ [s])
    (hfits : checkLocation (d.locationOf ns (init ++ [s])) = .ok ())
    (hfile : t.get? (root ++ namesBelow (init ++ [s])) = some (.file content modified)) :
    ∃ u, t.exec now (d.delete p) = (.ok (), u) ∧
      DeleteOutcome d ns t root (namesBelow (init ++ [s])) (.ok ()) u := by
  have hs : s ≠ ['.'] := fun hs => hdots (by simp [hs])
  have hplain : ∀ x ∈ (init ++ [s]).filter (· ≠ ['.']), Text.IsPlain x :=
    fun x hx => isPlain_of_placeOf hplace hx
  have hfilter : (init ++ [s]).filter (· ≠ ['.']) = init ++ [s] := by
    rw [List.filter_eq_self]
    intro x hx
    simpa using ne_of_mem_of_not_mem hx hdots
  have hclear := clear_of_file hfile
  obtain ⟨r, hrefuse, -, hback⟩ := refuseLinks_outcome now p hplain hroot.leads_segments
  obtain rfl : r = .ok () := hback (by rw [hfilter]; exact hfits) hclear
  have hlinks := exec_locationWithoutLinks hplace hrefuse
  have hshows : t.Shows (d.locationOf ns (init ++ [s]))
      (root ++ namesBelow init ++ [Utf8.encode s]) (.file content modified) := by
    refine hroot.shows_of_node (fun x hx => isSegment_of_placeOf hplace hx) hfits ?_ (by simp)
    rwa [List.append_assoc, ← namesBelow_concat hs]
  exact delete_of_shows now hroot hplace hclear hlinks hshows

end GrantFs.DiskStore
