import GrantFs.Proofs.Directories
import GrantFs.Proofs.Grant

/-! # Where paths lie

A path lies at the place of its namespace's root followed by its segments, single dots left out.
Main statements: the way from the root to there holds no link if the check for links is passed, and
the check is passed by every clear way that is not too long. -/
namespace GrantFs

namespace DiskStore

open OsTree Os

variable {d : DiskStore} {now : Instant} {t u : OsTree} {p path : Path} {ns : Namespace}
  {segments names : List Text} {place : Place} {at_ : Text}

theorem placeOf_eq_ok : placeOf p = .ok (ns, segments) ↔
    ns.root.text <+: p.text ∧ segments = Text.segments (p.text.drop ns.root.text.length) := by
  rw [placeOf, ← Namespace.of?_eq_some]
  cases Namespace.of? p.text with
  | none => simp
  | some found =>
    constructor
    · intro h
      cases h
      exact ⟨rfl, rfl⟩
    · rintro ⟨hns, rfl⟩
      cases hns
      rfl

theorem isSegment_of_placeOf (h : placeOf p = .ok (ns, segments)) {s : Text} (hs : s ∈ segments) :
    s.IsSegment := by
  rw [(placeOf_eq_ok.mp h).2] at hs
  exact Text.isSegment_of_mem_segments hs

/-- No path has two dots in a row, so no segment leads up. -/
theorem isPlain_of_placeOf (h : placeOf p = .ok (ns, segments)) {s : Text}
    (hs : s ∈ segments.filter (· ≠ ['.'])) : s.IsPlain := by
  obtain ⟨hmem, hdot⟩ := List.mem_filter.mp hs
  refine ⟨isSegment_of_placeOf h hmem, by simpa using hdot, ?_⟩
  rintro rfl
  rw [(placeOf_eq_ok.mp h).2, Text.segments, List.mem_filter] at hmem
  have hinfix := (Text.infix_of_mem_split hmem.1).trans (List.drop_suffix ..).isInfix
  exact (Path.flaw?_eq_none_iff.mp p.sound).2.2 ".." (by decide) hinfix

theorem segments_ne_nil (h : placeOf p = .ok (ns, segments)) (hfile : p.isDirLike = false) :
    segments ≠ [] := by
  obtain ⟨⟨rest, hrest⟩, rfl⟩ := placeOf_eq_ok.mp h
  rw [← hrest, List.drop_left]
  have hlast : (ns.root.text ++ rest).getLast? ≠ some '/' := by
    rw [hrest]
    simpa [Path.isDirLike] using hfile
  rcases List.eq_nil_or_concat' rest with rfl | ⟨init, c, rfl⟩
  · refine absurd ?_ hlast
    rw [List.append_nil]
    cases ns <;> decide
  · rw [← List.append_assoc, List.getLast?_concat] at hlast
    exact Text.segments_concat_ne_nil (by simpa using hlast) init

def namesBelow (segments : List Text) : List Name :=
  (segments.filter (· ≠ ['.'])).map Utf8.encode

theorem undot_eq_namesBelow (segments : List Text) :
    undot (segments.map Utf8.encode) = namesBelow segments := undot_map_encode segments

theorem namesBelow_concat_dot (segments : List Text) :
    namesBelow (segments ++ [['.']]) = namesBelow segments := by
  simp [namesBelow]

theorem namesBelow_concat {s : Text} (hs : s ≠ ['.']) (segments : List Text) :
    namesBelow (segments ++ [s]) = namesBelow segments ++ [Utf8.encode s] := by
  simp [namesBelow, hs]

structure RootAt (d : DiskStore) (t : OsTree) (ns : Namespace) (place : Place) : Prop where
  fits : checkLocation (d.root ns) = .ok ()
  leads : t.Leads (namesOf (d.root ns)) place

theorem RootAt.keeps (h : d.RootAt t ns place) (hk : t.Keeps u) : d.RootAt u ns place :=
  ⟨h.fits, h.leads.keeps hk⟩

theorem undot_namesOf (location : Text) :
    undot (namesOf location) = (components location).map Utf8.encode := by
  rw [namesOf, undot_append, undot_map_encode, components]
  split
  · exact List.append_nil _
  · exact List.append_nil _

theorem segments_lead {location : Text} (h : t.Leads (namesOf location) place) :
    t.Leads ((Text.segments location).map Utf8.encode) place := by
  apply h.of_undot_eq
  rw [undot_namesOf, undot_map_encode, components]

theorem components_lead {location : Text} (h : t.Leads (namesOf location) place) :
    t.Leads ((components location).map Utf8.encode) place := by
  apply h.of_undot_eq
  rw [undot_namesOf, undot_map_encode]
  congr 1
  rw [List.filter_eq_self]
  intro s hs
  exact (List.mem_filter.mp hs).2

theorem RootAt.leads_segments (h : d.RootAt t ns place) :
    t.Leads ((Text.segments (d.root ns)).map Utf8.encode) place :=
  segments_lead h.leads

theorem RootAt.leads_components (h : d.RootAt t ns place) :
    t.Leads ((components (d.root ns)).map Utf8.encode) place :=
  components_lead h.leads

theorem RootAt.ne_nil (h : d.RootAt t ns place) : d.root ns ≠ [] :=
  (checkLocation_eq_ok.mp h.fits).1

theorem RootAt.leads_parent (h : d.RootAt t ns place) :
    ∃ dir, t.Leads ((components (d.root ns)).dropLast.map Utf8.encode) dir := by
  have hleads := h.leads_components
  rcases List.eq_nil_or_concat' (components (d.root ns)) with hnil | ⟨init, last, hconcat⟩
  · rw [hnil] at hleads ⊢
    exact ⟨place, hleads⟩
  · rw [hconcat, List.map_append, List.map_singleton] at hleads
    rw [hconcat, List.dropLast_concat]
    exact leads_init hleads.located

theorem namesOf_locationOf (hsegments : ∀ s ∈ segments, s.IsSegment) (hne : segments ≠ []) :
    namesOf (d.locationOf ns segments) =
      (Text.segments (d.root ns)).map Utf8.encode ++ segments.map Utf8.encode :=
  namesOf_foldl_join hsegments hne _

theorem RootAt.place_of_shows (h : d.RootAt t ns place) (hsegments : ∀ s ∈ segments, s.IsSegment)
    (hclear : t.Clear place (namesBelow segments)) {q : Place} {n : Node}
    (hshows : t.Shows (d.locationOf ns segments) q n) : q = place ++ namesBelow segments := by
  have hlocated := hshows.located
  by_cases hne : segments = []
  · subst hne
    have hroot : t.locate true (namesOf (d.root ns)) = .ok q := hlocated
    rw [h.leads.located] at hroot
    cases hroot
    exact (List.append_nil _).symm
  · rw [namesOf_locationOf hsegments hne] at hlocated
    rw [← undot_eq_namesBelow] at hclear ⊢
    rcases hclear.go_cases true with hgo | ⟨why, hgo⟩
    · rw [h.leads_segments.locate_of_arrived (.inr rfl) hgo] at hlocated
      cases hlocated
      rfl
    · rw [h.leads_segments.locate_of_failed (.inr rfl) hgo] at hlocated
      cases hlocated

/-- What lies at a path's place is shown at its location, if that is not too long and does not end
in a dot. -/
theorem RootAt.shows_of_node (h : d.RootAt t ns place) {init : List Text} {s : Text}
    (hsegments : ∀ x ∈ init ++ [s], x.IsSegment)
    (hfits : checkLocation (d.locationOf ns (init ++ [s])) = .ok ()) {n : Node}
    (hnode : t.get? (place ++ namesBelow init ++ [Utf8.encode s]) = some n)
    (hlink : ∀ target, n ≠ .link target) :
    t.Shows (d.locationOf ns (init ++ [s])) (place ++ namesBelow init ++ [Utf8.encode s]) n := by
  have hsome : t.get? (place ++ namesBelow init ++ [Utf8.encode s]) ≠ none := by
    rw [hnode]
    simp
  have hdir := inDir hsome
  rw [← undot_eq_namesBelow] at hdir
  have hleads := h.leads_segments.append hdir
  refine ⟨hfits, ?_, hnode⟩
  rw [namesOf_locationOf hsegments (by simp), List.map_append, List.map_singleton,
    ← List.append_assoc]
  rw [undot_eq_namesBelow] at hleads
  refine hleads.locate_name (named hsome).toOrdinary fun _ target => ?_
  rw [hnode]
  simpa using hlink target

def plainStore : DiskStore := ⟨"/internal", "/userinput", "/workspace"⟩

def plainTree : OsTree :=
  Namespace.all.foldl (fun t ns => t.put [Utf8.encode ns.name] .dir) .empty

theorem rootAt_plainTree (ns : Namespace) :
    plainStore.RootAt plainTree ns [Utf8.encode ns.name] := by
  cases ns <;> exact ⟨by decide, by decide, by decide⟩

theorem answer_status (now : Instant) (follow : Bool) {location : Text}
    (hfits : checkLocation location = .ok ())
    (hlocated : t.locate follow (namesOf location) = .ok place) :
    answer now [] (.status location follow) t =
      (match t.get? place with
        | some n => .ok (statusOf n)
        | none => .error .noEntry, t) := by
  have hstatus : t.status (namesOf location) follow = match t.get? place with
      | some n => .ok (statusOf n)
      | none => .error .noEntry := by
    rw [status, hlocated]
    change (match t.get? place with
      | some n => pure (statusOf n)
      | none => throw OsError.noEntry) = _
    cases t.get? place <;> rfl
  show (_, t) = _
  rw [hfits]
  exact congrArg (·, t) hstatus

theorem answer_status_error {follow : Bool} {location : Text} {why : OsError}
    (h : (do checkLocation location; t.status (namesOf location) follow) = .error why) :
    answer now [] (.status location follow) t = (.error why, t) :=
  congrArg (·, t) h

theorem byteSize_join_le {name : Text} (hname : name.IsSegment) (at_ : Text) :
    Text.byteSize at_ ≤ Text.byteSize (join at_ name) := by
  by_cases hnil : at_ = []
  · subst hnil
    exact Nat.zero_le _
  · rw [join_eq hname hnil]
    split
    · rw [Text.byteSize_append]
      omega
    · rw [Text.byteSize_append]
      omega

theorem byteSize_foldl_join_le (hnames : ∀ s ∈ names, s.IsSegment) (at_ : Text) :
    Text.byteSize at_ ≤ Text.byteSize (names.foldl join at_) := by
  induction names generalizing at_ with
  | nil => exact le_rfl
  | cons name rest ih =>
    refine (byteSize_join_le (hnames name (by simp)) at_).trans ?_
    exact ih (fun s hs => hnames s (by simp [hs])) _

theorem join_ne_nil {name : Text} (hname : name.IsSegment) (at_ : Text) : join at_ name ≠ [] := by
  by_cases hnil : at_ = []
  · rw [hnil, join_empty]
    exact hname.1
  · rw [join_eq hname hnil]
    split
    · simp [hnil]
    · simp

theorem exec_refuseLinks_present (path : Path) (names : List Text) {name : Text} {s : Status}
    (h : answer now [] (.status (join at_ name) false) t = (.ok s, t)) :
    t.exec now (refuseLinks path at_ (name :: names)) =
      if s.kind = .link then (.error (.invalidPath path.text .symbolicLink), t)
      else t.exec now (refuseLinks path (join at_ name) names) := by
  rw [refuseLinks, exec_bind_program, run_ask, h]
  simp only
  split <;> rfl

theorem exec_refuseLinks_missing (path : Path) (names : List Text) {name : Text}
    (h : answer now [] (.status (join at_ name) false) t = (.error .noEntry, t)) :
    t.exec now (refuseLinks path at_ (name :: names)) = (.ok (), t) := by
  rw [refuseLinks, exec_bind_program, run_ask, h]
  rfl

theorem exec_refuseLinks_failed (path : Path) (names : List Text) {name : Text} {why : OsError}
    (h : answer now [] (.status (join at_ name) false) t = (.error why, t))
    (hwhy : why ≠ .noEntry) :
    t.exec now (refuseLinks path at_ (name :: names)) = (.error (.io why), t) := by
  rw [refuseLinks, exec_bind_program, run_ask, h]
  cases why with
  | noEntry => exact absurd rfl hwhy
  | _ => rfl

theorem exec_refuseLinks_lost (now : Instant) (path : Path) {name : Text} (hname : name.IsSegment)
    {why : OsError} (hwhy : why ≠ .noEntry)
    (h : checkLocation (join at_ name) = .ok () →
      t.locate false (namesOf (join at_ name)) = .error why) (names : List Text) :
    ∃ why, t.exec now (refuseLinks path at_ (name :: names)) = (.error (.io why), t) := by
  by_cases hfits : checkLocation (join at_ name) = .ok ()
  · refine ⟨why, exec_refuseLinks_failed path names (answer_status_error ?_) hwhy⟩
    rw [hfits]
    show t.status _ false = _
    rw [status, h hfits]
    rfl
  · refine ⟨.nameTooLong, exec_refuseLinks_failed path names (answer_status_error ?_) (by simp)⟩
    rw [checkLocation_long (join_ne_nil hname at_) hfits]
    rfl

theorem checkLocation_of_foldl_join {name : Text} (hname : name.IsSegment)
    (hnames : ∀ s ∈ names, s.IsSegment)
    (h : checkLocation (names.foldl join (join at_ name)) = .ok ()) :
    checkLocation (join at_ name) = .ok () := by
  rw [checkLocation_eq_ok] at h ⊢
  have hle := byteSize_foldl_join_le hnames (join at_ name)
  exact ⟨join_ne_nil hname at_, by omega⟩

theorem exec_refuseLinks_past_file (now : Instant) (path : Path)
    (hleads : t.Leads ((Text.segments at_).map Utf8.encode) place) {name next : Text}
    (hname : name.IsPlain) (hshort : (Utf8.encode name).length ≤ nameLimit) (hnext : next.IsPlain)
    {content : Bytes} {modified : Instant}
    (hfile : t.get? (place ++ [Utf8.encode name]) = some (.file content modified))
    (names : List Text) :
    ∃ why, t.exec now (refuseLinks path (join at_ name) (next :: names)) =
      (.error (.io why), t) := by
  have hgo : go t false place ([Utf8.encode name] ++ [Utf8.encode next]) =
      .failed .notDirectory := by
    rw [List.singleton_append, (isName_encode hname hshort).toOrdinary.go, hfile]
    rfl
  refine exec_refuseLinks_lost now path hnext.segment (by simp : OsError.notDirectory ≠ .noEntry)
    (fun _ => ?_) names
  rw [namesOf_join hnext.segment, segments_join hname.segment, List.map_append,
    List.append_assoc, List.map_singleton, hleads.locate_of_failed (.inl (by simp)) hgo]

/-- Looking for links changes nothing and finds the way clear, if it is and is not too long. -/
theorem refuseLinks_outcome (now : Instant) (path : Path) (hnames : ∀ s ∈ names, s.IsPlain)
    (hleads : t.Leads ((Text.segments at_).map Utf8.encode) place) :
    ∃ r, t.exec now (refuseLinks path at_ names) = (r, t) ∧
      (r = .ok () → t.Clear place (names.map Utf8.encode)) ∧
      (checkLocation (names.foldl join at_) = .ok () → t.Clear place (names.map Utf8.encode) →
        r = .ok ()) := by
  induction names generalizing at_ place with
  | nil => exact ⟨.ok (), rfl, fun _ => .here place, fun _ _ => rfl⟩
  | cons name rest ih =>
    have hname : name.IsPlain := hnames name (by simp)
    have hrest : ∀ s ∈ rest, s.IsPlain := fun s hs => hnames s (by simp [hs])
    rw [List.map_cons, List.foldl_cons]
    by_cases hlong : checkLocation (join at_ name) = .ok () →
        nameLimit < (Utf8.encode name).length
    · obtain ⟨why, hrun⟩ := exec_refuseLinks_lost now path hname.segment
        (by simp : OsError.nameTooLong ≠ .noEntry)
        (fun hfits => by rw [namesOf_join hname.segment, hleads.locate_long (hlong hfits)]) rest
      refine ⟨_, hrun, by simp, fun hsize hclear => ?_⟩
      have hfits := checkLocation_of_foldl_join hname.segment (fun s hs => (hrest s hs).segment)
        hsize
      exact absurd hclear.ordinary.short (Nat.not_le.mpr (hlong hfits))
    · obtain ⟨hfits, hnot⟩ := Classical.not_imp.mp hlong
      have hshort := Nat.le_of_not_lt hnot
      have hordinary := (isName_encode hname hshort).toOrdinary
      have hlocated : t.locate false (namesOf (join at_ name)) =
          .ok (place ++ [Utf8.encode name]) := by
        rw [namesOf_join hname.segment]
        exact hleads.locate_name hordinary (by simp)
      have hanswer := answer_status now false hfits hlocated
      rw [clear_cons]
      cases hnode : t.get? (place ++ [Utf8.encode name]) with
      | none =>
        rw [hnode] at hanswer
        exact ⟨.ok (), exec_refuseLinks_missing path rest hanswer, fun _ => ⟨hordinary, trivial⟩,
          fun _ _ => rfl⟩
      | some n =>
        rw [hnode] at hanswer
        rw [exec_refuseLinks_present path rest hanswer]
        cases n with
        | link target => exact ⟨_, rfl, by simp, fun _ hclear => hclear.2.elim⟩
        | dir =>
          have hnext : t.Leads ((Text.segments (join at_ name)).map Utf8.encode)
              (place ++ [Utf8.encode name]) := by
            rw [segments_join hname.segment]
            exact hleads.below (by simpa using hname) hnode
          obtain ⟨r, hrun, hok, hback⟩ := ih hrest hnext
          exact ⟨r, hrun, fun hr => ⟨hordinary, hok hr⟩,
            fun hsize hclear => hback hsize hclear.2⟩
        | file content modified =>
          cases rest with
          | nil => exact ⟨.ok (), rfl, fun _ => ⟨hordinary, rfl⟩, fun _ _ => rfl⟩
          | cons next rest =>
            obtain ⟨why, hrun⟩ := exec_refuseLinks_past_file now path hleads hname hshort
              (hrest next (by simp)) hnode rest
            refine ⟨_, hrun, by simp, fun _ hclear => ?_⟩
            cases hclear.2

end DiskStore
end GrantFs
