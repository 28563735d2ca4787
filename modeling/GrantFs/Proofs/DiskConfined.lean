import GrantFs.Proofs.DiskDelete
import GrantFs.Proofs.OsLinks

/-! # Writes and deletes stay below their roots

A root that is shown is a directory, or a file has taken its place. Main statements: whatever a
write or a delete does, it changes nothing but what lies on the way from the root to the place of
its path, and it meets no link there. -/
namespace GrantFs.DiskStore

open OsTree Os

variable {d : DiskStore} {now : Instant} {t u : OsTree} {ns : Namespace} {root : Place} {p : Path}
  {segments : List Text} {names : List Name} {data : Bytes} {overwrite : Bool} {content : Bytes}
  {modified : Instant}

theorem RootAt.of_shows (h : t.Shows (d.root ns) root .dir) : d.RootAt t ns root :=
  ⟨h.fits, h.located, h.node⟩

theorem WriteOutcome.confined {r : Except Fault Entry}
    (h : WriteOutcome now t root names p data overwrite r u)
    (hdir : t.get? root = some .dir) : t.Confined u root names := by
  cases h with
  | refused => exact t.confined_self root names
  | failed why hclear hk hpaved =>
    refine hclear.confined hdir fun q hq => ?_
    obtain ⟨j, -, -, rfl, -, hafter⟩ := (paved_cases hdir hclear hk hpaved q).resolve_left hq
    refine ⟨List.prefix_append ..,
      (List.prefix_append_right_inj root).mpr (List.take_prefix ..), ?_⟩
    simp [hafter]
  | written hclear _ _ _ hwritten =>
    refine hclear.confined hdir fun q hq => ?_
    rw [hwritten] at hq ⊢
    split at hq
    next heq =>
      subst heq
      refine ⟨List.prefix_append .., List.prefix_refl _, ?_⟩
      simp
    next hne =>
      split at hq
      next hle =>
        refine ⟨?_, hle, by simp [hne, hle]⟩
        rcases List.prefix_or_prefix_of_prefix hle (List.prefix_append root names) with
          habove | hbelow
        · by_cases heq : q = root
          · exact heq ▸ List.prefix_refl _
          · exact absurd (dir_on_way habove heq (by simp [hdir])).symm hq
        · exact hbelow
      next => exact absurd rfl hq

theorem DeleteOutcome.confined {r : Except Fault Unit} (h : DeleteOutcome d ns t root names r u)
    (hdir : t.get? root = some .dir) : t.Confined u root names := by
  cases h with
  | refused => exact t.confined_self root names
  | deleted hclear _ _ hcut _ =>
    refine hclear.confined hdir fun q hq => ?_
    rw [hcut] at hq ⊢
    split at hq
    next hbetween =>
      refine ⟨(List.prefix_append ..).trans hbetween.1, hbetween.2.2, ?_⟩
      simp [hbetween]
    next => exact absurd rfl hq

theorem namesOf_of_file (h : t.Shows (d.root ns) root (.file content modified)) :
    namesOf (d.root ns) = (Text.segments (d.root ns)).map Utf8.encode := by
  have hlast := (resolve_past_file t.get?_nil h.located h.node).1
  refine namesOf_of_getLast? fun hslash => hlast ?_
  rw [namesOf, if_pos hslash, List.getLast?_concat]

theorem locate_past_file (h : t.Shows (d.root ns) root (.file content modified))
    (follow : Bool) {rest : List Name} (hrest : rest ≠ []) :
    t.locate follow ((Text.segments (d.root ns)).map Utf8.encode ++ rest) =
      .error .notDirectory := by
  rw [← namesOf_of_file h]
  exact (resolve_past_file t.get?_nil h.located h.node).2 follow rest hrest

theorem leads_parent_of_file (h : t.Shows (d.root ns) root (.file content modified)) :
    ∃ dir, t.Leads ((components (d.root ns)).dropLast.map Utf8.encode) dir := by
  have hlast := (resolve_past_file t.get?_nil h.located h.node).1
  have hlocated := h.located
  rw [namesOf_of_file h] at hlast hlocated
  rcases List.eq_nil_or_concat' (Text.segments (d.root ns)) with hnil | ⟨init, last, hconcat⟩
  · rw [hnil] at hlocated
    have htop : t.get? root = some .dir := by
      cases hlocated
      exact t.get?_nil
    rw [h.node] at htop
    cases htop
  · rw [hconcat, List.map_append, List.map_singleton, List.getLast?_concat] at hlast
    rw [hconcat, List.map_append, List.map_singleton] at hlocated
    obtain ⟨dir, hleads⟩ := leads_init hlocated
    have hdot : last ≠ ['.'] := by
      rintro rfl
      exact hlast rfl
    refine ⟨dir, hleads.of_undot_eq ?_⟩
    have hcomponents : components (d.root ns) = init.filter (· ≠ ['.']) ++ [last] := by
      rw [components, hconcat]
      simp [hdot]
    rw [hcomponents, List.dropLast_concat, undot_map_encode, undot_map_encode, List.filter_filter]
    simp

theorem exec_refuseLinks_at_file (now : Instant)
    (h : t.Shows (d.root ns) root (.file content modified)) (p : Path) {name : Text}
    (hname : name.IsSegment) (names : List Text) :
    ∃ why, t.exec now (refuseLinks p (d.root ns) (name :: names)) = (.error (.io why), t) := by
  refine exec_refuseLinks_lost now p hname (by simp : OsError.notDirectory ≠ .noEntry)
    (fun _ => ?_) names
  rw [namesOf_join hname, locate_past_file h false (by simp)]

/-- A write to a path with segments fails where a file has taken the place of the root. -/
theorem write_at_file (now : Instant) (h : t.Shows (d.root ns) root (.file content modified))
    (hplace : placeOf p = .ok (ns, segments)) (hne : segments ≠ []) (data : Bytes)
    (overwrite : Bool) :
    ∃ why, t.exec now (d.write p data overwrite) = (.error why, t) := by
  have hsegments : ∀ x ∈ segments, x.IsSegment := fun x hx => isSegment_of_placeOf hplace hx
  cases hnames : segments.filter (· ≠ ['.']) with
  | cons name rest =>
    have hname : Text.IsSegment name := by
      refine hsegments name (List.mem_filter.mp (?_ : name ∈ segments.filter (· ≠ ['.']))).1
      rw [hnames]
      exact List.mem_cons_self ..
    obtain ⟨why, hrefuse⟩ := exec_refuseLinks_at_file now h p hname rest
    rw [← hnames] at hrefuse
    exact ⟨_, exec_write_of_links (exec_locationWithoutLinks hplace hrefuse) data overwrite⟩
  | nil =>
    have hrefuse : t.exec now (refuseLinks p (d.root ns) (segments.filter (· ≠ ['.']))) =
        (.ok (), t) := by
      rw [hnames]
      rfl
    have hlinks := exec_locationWithoutLinks hplace hrefuse
    have hnothing : ∀ q n, ¬ t.Shows (d.locationOf ns segments) q n := by
      intro q n hshows
      have hlocated := hshows.located
      rw [namesOf_locationOf hsegments hne, locate_past_file h true (by simp [hne])] at hlocated
      cases hlocated
    have hfree : ¬ Taken t (d.locationOf ns segments) overwrite := by
      rintro (⟨q, hshows⟩ | ⟨-, q, n, hshows⟩)
      · exact hnothing q _ hshows
      · exact hnothing q n hshows
    obtain ⟨init, s, rfl⟩ := (List.eq_nil_or_concat' segments).resolve_left hne
    obtain ⟨hinit, hs⟩ : init.filter (· ≠ ['.']) = [] ∧ s = ['.'] := by
      rw [List.filter_append, List.append_eq_nil_iff] at hnames
      exact ⟨hnames.1, by simpa using hnames.2⟩
    subst hs
    obtain ⟨dir, hleads⟩ := leads_parent_of_file h
    obtain ⟨why, hrun⟩ := putInPlace_at_root now hleads hsegments hinit p data
    rw [exec_write_of_free hlinks data hfree]
    exact ⟨_, hrun⟩

/-- A file that has taken the place of the root is itself deleted by the path of the root. -/
theorem delete_at_file (now : Instant) (h : t.Shows (d.root ns) root (.file content modified))
    (hentry : t.locate false (namesOf (d.root ns)) = .ok root)
    (hplace : placeOf p = .ok (ns, [])) :
    t.exec now (d.delete p) = (.ok (), t.erase root) := by
  have hlinks : t.exec now (d.locationWithoutLinks p) = (.ok (ns, d.root ns), t) :=
    exec_locationWithoutLinks (r := .ok ()) hplace rfl
  obtain ⟨init, mid, name, hnames, hleads, hname, rfl⟩ :=
    exists_name_of_file h.located hentry h.node
  have hremoved := answer_removeFile now hleads hname hnames h.fits h.node
  rw [exec_delete_of_file hlinks h hremoved, exec_program]
  have hnone : dirsBetween (d.root ns) (d.root ns) = [] := by
    have hdots : ['.'] ∉ (components (d.root ns)).dropLast :=
      fun hdot => dot_not_mem_components _ (List.dropLast_subset _ hdot)
    have hsegments : ∀ x ∈ (components (d.root ns)).dropLast, x.IsSegment :=
      fun x hx => isSegment_of_mem_components (List.dropLast_subset _ hx)
    rw [dirsBetween, parent, components_ofComponents hsegments hdots, List.length_dropLast]
    simp
  rw [hnone]
  rfl

theorem confined_erase (hfile : t.get? root = some (.file content modified)) :
    t.Confined (t.erase root) root [] := by
  have hne : root ≠ [] := by
    rintro rfl
    rw [t.get?_nil] at hfile
    cases hfile
  intro q hq
  rw [get?_erase_of_bare hne fun q' => none_below (by simp [hfile])] at hq ⊢
  split at hq
  next heq =>
    subst heq
    refine ⟨List.prefix_refl _, by simp, by simp, fun q' hle hge => ?_⟩
    obtain rfl := hle.eq_of_length_le hge.length_le
    simp [hfile]
  next => exact absurd rfl hq

end GrantFs.DiskStore
