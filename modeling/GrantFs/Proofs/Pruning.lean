import GrantFs.Proofs.Isolation

/-! # What a delete takes away

A delete removes a file, then climbs from there and removes directories up to the root or to the
first one that is not empty. Main statement: if no way to a root leads through the inside of one, a
delete that succeeds takes away its file and just those directories below the root that led to
nothing else, every root stays where it is, and a delete that fails changes nothing. -/
namespace GrantFs

namespace Os

variable {root location dir : Text} {dirs : List Text}

structure LiesBelow (root location : Text) : Prop where
  start : isAbsolute location = isAbsolute root
  inside : components root <+: components location
  ne : components location ≠ components root

inductive Climbs (root : Text) : Text → List Text → Prop where
  | stop {dir : Text} : ¬ LiesBelow root dir → Climbs root dir []
  | step {dir : Text} {dirs : List Text} : LiesBelow root dir → Climbs root (parent dir) dirs →
      Climbs root dir (dir :: dirs)

theorem climbs_chain (root : Text) {below : List Text} (hbelow : ∀ s ∈ below, s.IsSegment)
    (hdots : ['.'] ∉ below) :
    Climbs root (ofComponents (isAbsolute root) (components root ++ below))
      ((chain (isAbsolute root) (components root ++ below)).take below.length) := by
  induction below using List.reverseRecOn with
  | nil =>
    rw [List.append_nil]
    refine .stop fun hlies => hlies.ne ?_
    exact components_ofComponents (fun _ => isSegment_of_mem_components)
      (dot_not_mem_components root) _
  | append_singleton init s ih =>
    have hall : ∀ x ∈ components root ++ (init ++ [s]), x.IsSegment := by
      intro x hx
      exact (List.mem_append.mp hx).elim isSegment_of_mem_components (hbelow x)
    have hplain : ['.'] ∉ components root ++ (init ++ [s]) := by
      rw [List.mem_append, not_or]
      exact ⟨dot_not_mem_components root, hdots⟩
    have hcomponents := components_ofComponents hall hplain (isAbsolute root)
    have hlies :
        LiesBelow root (ofComponents (isAbsolute root) (components root ++ (init ++ [s]))) :=
      ⟨isAbsolute_ofComponents hall _, by rw [hcomponents]; exact List.prefix_append ..,
        by rw [hcomponents]; simp⟩
    have hparent : parent (ofComponents (isAbsolute root) (components root ++ (init ++ [s]))) =
        ofComponents (isAbsolute root) (components root ++ init) := by
      rw [parent, isAbsolute_ofComponents hall, hcomponents, ← List.append_assoc,
        List.dropLast_concat]
    have habove := ih (fun x hx => hbelow x (List.mem_append_left _ hx))
      (fun hdot => hdots (List.mem_append_left _ hdot))
    have hlength : (init ++ [s]).length = init.length + 1 := by simp
    rw [← hparent] at habove
    rw [hlength, ← List.append_assoc, chain_concat, List.take_succ_cons, List.append_assoc]
    exact .step hlies habove

end Os

namespace OsTree

variable {t u : OsTree} {root file q : Place} {n : Node}

/-- A directory strictly between a root and a file that holds nothing but the way to the file. -/
structure OnlyWay (t : OsTree) (root file q : Place) : Prop where
  below : root <+: q
  inside : q ≠ root
  above : q <+: file
  proper : q ≠ file
  alone : ∀ r, q <+: r → t.get? r ≠ none → r <+: file

theorem onlyWay_iff : t.OnlyWay root file q ↔ root <+: q ∧ q ≠ root ∧ q <+: file ∧ q ≠ file ∧
    ∀ e ∈ t.nodes.entries, q <+: e.1 → e.1 <+: file := by
  constructor
  · intro h
    refine ⟨h.below, h.inside, h.above, h.proper, fun e he hle => ?_⟩
    by_cases hnil : e.1 = []
    · rw [hnil]
      exact List.nil_prefix
    · refine h.alone e.1 hle ?_
      rw [(get?_eq_some_of_ne_nil hnil).mpr he]
      simp
  · rintro ⟨hbelow, hinside, habove, hproper, halone⟩
    refine ⟨hbelow, hinside, habove, hproper, fun r hle hsome => ?_⟩
    by_cases hnil : r = []
    · rw [hnil]
      exact List.nil_prefix
    · obtain ⟨n, hn⟩ := Option.ne_none_iff_exists'.mp hsome
      exact halone (r, n) ((get?_eq_some_of_ne_nil hnil).mp hn) hle

instance (t : OsTree) (root file q : Place) : Decidable (t.OnlyWay root file q) :=
  decidable_of_iff _ onlyWay_iff.symm

variable {names : List Name} {j : Nat}

/-- Cutting the way to a file below a directory that holds something else, or below the root, takes
away just what led to nothing else. -/
theorem Cut.onlyWay_iff (hcut : t.Cut u (root ++ names.take j) (root ++ names))
    (hj : j < names.length)
    (hstop : j = 0 ∨ ∃ more, more ≠ [] ∧ u.get? (root ++ names.take j ++ more) ≠ none)
    (hne : q ≠ root ++ names) :
    t.OnlyWay root (root ++ names) q ↔
      root ++ names.take j <+: q ∧ q ≠ root ++ names.take j ∧ q <+: root ++ names := by
  constructor
  · intro h
    obtain ⟨more, rfl⟩ := h.below
    have hmore : more <+: names := (List.prefix_append_right_inj root).mp h.above
    have hlong : j < more.length := by
      by_contra hshort
      rcases hstop with rfl | ⟨rest, hrest, hsome⟩
      · exact h.inside (by simpa using hshort)
      · -- What the last directory still holds lies below `more` and off the way to the file.
        have hle : root ++ more <+: root ++ names.take j ++ rest := by
          rw [List.append_assoc, List.prefix_append_right_inj]
          refine List.IsPrefix.trans ?_ (List.prefix_append ..)
          rw [List.prefix_take_iff]
          exact ⟨hmore, by omega⟩
        have hgone := hcut (root ++ names.take j ++ rest)
        by_cases hway : root ++ names.take j ++ rest <+: root ++ names
        · rw [if_pos ⟨List.prefix_append .., by simpa using hrest, hway⟩] at hgone
          exact hsome hgone
        · refine hway (h.alone _ hle ?_)
          rwa [hgone, if_neg (fun hall => hway hall.2.2)] at hsome
    refine ⟨(List.prefix_append_right_inj root).mpr ?_, ?_, h.above⟩
    · rw [List.prefix_iff_eq_take.mp hmore]
      exact List.take_prefix_take_left (by omega)
    · intro heq
      have hlength := congrArg List.length heq
      simp only [List.length_append, List.length_take] at hlength
      omega
  · rintro ⟨hbelow, hinside, habove⟩
    refine ⟨(List.prefix_append ..).trans hbelow, ?_, habove, hne, fun r hle hsome => ?_⟩
    · rintro rfl
      exact hinside (hbelow.eq_of_length_le (by simp)).symm
    · by_contra hoff
      -- Off the way nothing is cut, and what is still there lies in directories.
      have hkept : u.get? r = t.get? r := by
        rw [hcut, if_neg (fun hall => hoff hall.2.2)]
      have hgone : u.get? q = none := by
        rw [hcut, if_pos ⟨hbelow, hinside, habove⟩]
      rw [← hkept] at hsome
      have hother : q ≠ r := by
        rintro rfl
        exact hsome hgone
      rw [dir_on_way hle hother hsome] at hgone
      cases hgone

theorem Cut.get?_eq_some (hcut : t.Cut u (root ++ names.take j) (root ++ names))
    (hj : j < names.length)
    (hstop : j = 0 ∨ ∃ more, more ≠ [] ∧ u.get? (root ++ names.take j ++ more) ≠ none) (q : Place)
    (n : Node) :
    u.get? q = some n ↔
      t.get? q = some n ∧ q ≠ root ++ names ∧ ¬ t.OnlyWay root (root ++ names) q := by
  by_cases hfile : q = root ++ names
  · have hstart : root ++ names ≠ root ++ names.take j := by
      intro heq
      have hlength := congrArg List.length heq
      simp only [List.length_append, List.length_take] at hlength
      omega
    have hgone : u.get? (root ++ names) = none := by
      rw [hcut, if_pos]
      exact ⟨(List.prefix_append_right_inj root).mpr (List.take_prefix ..), hstart,
        List.prefix_refl _⟩
    simp [hfile, hgone]
  · rw [hcut.onlyWay_iff hj hstop hfile, hcut q]
    split
    next hgone => simp [hgone]
    next hkept => simp [hfile, hkept]

end OsTree

namespace DiskStore

open OsTree Os

variable {d : DiskStore} {now : Instant} {t u : OsTree} {root : Namespace → Place} {ns : Namespace}
  {p : Path} {segments : List Text}

theorem climbs_dirsBetween (d : DiskStore) (ns : Namespace)
    (hsegments : ∀ s ∈ segments, s.IsSegment) (hne : namesBelow segments ≠ []) :
    Climbs (d.root ns) (parent (d.locationOf ns segments))
        (dirsBetween (d.root ns) (d.locationOf ns segments)) ∧
      (dirsBetween (d.root ns) (d.locationOf ns segments)).length <
        (namesBelow segments).length := by
  obtain ⟨init, s, hconcat⟩ : ∃ init s, segments.filter (· ≠ ['.']) = init ++ [s] := by
    refine (List.eq_nil_or_concat' _).resolve_left fun hnil => hne ?_
    rw [namesBelow, hnil, List.map_nil]
  have hmem : ∀ x ∈ init, x ∈ segments.filter (· ≠ ['.']) := by
    intro x hx
    rw [hconcat]
    exact List.mem_append_left _ hx
  have hinit : ∀ x ∈ init, Text.IsSegment x :=
    fun x hx => hsegments x (List.mem_of_mem_filter (hmem x hx))
  have hdots : ['.'] ∉ init := fun hdot => by simpa using (List.mem_filter.mp (hmem _ hdot)).2
  obtain ⟨hparent, hdirs⟩ := dirsBetween_locationOf d ns hsegments hconcat
  rw [hdirs, hparent]
  refine ⟨climbs_chain _ hinit hdots, ?_⟩
  rw [namesBelow, hconcat, List.length_take, List.length_map, List.length_append,
    List.length_singleton]
  omega

/-- Each root is a directory at its place, whatever lies inside of a root. -/
def RootsFirm (d : DiskStore) (t : OsTree) (root : Namespace → Place) : Prop :=
  ∀ ns ns' u, SameBut (root ns) t u → d.RootAt u ns' (root ns')

theorem RootsFirm.rootAt (h : d.RootsFirm t root) (ns : Namespace) : d.RootAt t ns (root ns) :=
  h ns ns t (.refl _ t)

theorem Settled.rootsFirm (hs : d.Settled t) (hbeside : d.Beside) : d.RootsFirm t d.rootPlace :=
  fun _ ns' _ hsame => hs.rootAt_of_sameBut hbeside hsame ns'

theorem shows_of_delete (hroot : d.RootAt t ns (root ns))
    (hplace : placeOf p = .ok (ns, segments)) (hok : t.exec now (d.delete p) = (.ok (), u)) :
    ∃ content modified, t.Shows (d.locationOf ns segments) (root ns ++ namesBelow segments)
      (.file content modified) := by
  have hplain : ∀ x ∈ segments.filter (· ≠ ['.']), Text.IsPlain x :=
    fun x hx => isPlain_of_placeOf hplace hx
  obtain ⟨r, hrefuse, hclear, -⟩ := refuseLinks_outcome now p hplain hroot.leads_segments
  have hlinks := exec_locationWithoutLinks hplace hrefuse
  cases r with
  | error why =>
    rw [exec_delete_of_links hlinks] at hok
    cases hok
  | ok _ =>
    by_cases hfile : ∃ q content modified,
        t.Shows (d.locationOf ns segments) q (.file content modified)
    · obtain ⟨q, content, modified, hshows⟩ := hfile
      obtain rfl := hroot.place_of_shows (fun x hx => isSegment_of_placeOf hplace hx) (hclear rfl)
        hshows
      exact ⟨content, modified, hshows⟩
    · rw [exec_delete_of_no_file hlinks
        fun q content modified hshows => hfile ⟨q, content, modified, hshows⟩] at hok
      cases hok

/-- What a delete of the path leaves when it succeeds. -/
structure Deletes (d : DiskStore) (root : Namespace → Place) (t : OsTree) (p : Path)
    (ns : Namespace) (segments : List Text) (u : OsTree) : Prop where
  place : placeOf p = .ok (ns, segments)
  file : ∃ content modified, t.Shows (d.locationOf ns segments) (root ns ++ namesBelow segments)
    (.file content modified)
  nodes : ∀ q n, u.get? q = some n ↔ t.get? q = some n ∧ q ≠ root ns ++ namesBelow segments ∧
    ¬ t.OnlyWay (root ns) (root ns ++ namesBelow segments) q
  roots : ∀ ns', d.RootAt u ns' (root ns')
  climbs : Climbs (d.root ns) (parent (d.locationOf ns segments))
    (dirsBetween (d.root ns) (d.locationOf ns segments))
  ends : (dirsBetween (d.root ns) (d.locationOf ns segments)).length < (namesBelow segments).length

theorem exec_delete_of_no_namespace (hns : Namespace.of? p.text = none) :
    t.exec now (d.delete p) = (.error (.notFound p.text), t) := by
  apply exec_delete_of_links
  apply exec_locationWithoutLinks_of_error
  rw [placeOf, hns]

/-- Whatever lies on the disk and whatever is to be deleted: a delete that fails changes nothing,
and one that succeeds takes away the file of the path with the directories that led to nothing
else. -/
theorem delete_takes_file_and_emptied (hfirm : d.RootsFirm t root) (p : Path) (now : Instant) :
    ∃ r u, t.exec now (d.delete p) = (r, u) ∧ (∀ why, r = .error why → u = t) ∧
      (r = .ok () → ∃ ns segments, d.Deletes root t p ns segments u) := by
  cases hns : Namespace.of? p.text with
  | none =>
    refine ⟨_, t, exec_delete_of_no_namespace hns, fun _ _ => rfl, ?_⟩
    intro hok
    cases hok
  | some ns =>
    have hplace := placeOf_eq_ok.mpr ⟨Namespace.of?_eq_some.mp hns, rfl⟩
    obtain ⟨r, u, hrun, hout⟩ := delete_outcome now (hfirm.rootAt ns) hplace
    refine ⟨r, u, hrun, ?_, ?_⟩
    · rintro why rfl
      cases hout
      rfl
    · rintro rfl
      have hroots : ∀ ns', d.RootAt u ns' (root ns') := fun ns' => hfirm ns ns' u hout.sameBut
      have hfile := shows_of_delete (hfirm.rootAt ns) hplace hrun
      cases hout with
      | deleted _ hj _ hcut hstop =>
        have hne : namesBelow _ ≠ [] := List.ne_nil_of_length_pos (Nat.zero_lt_of_lt hj)
        obtain ⟨hclimbs, hends⟩ :=
          climbs_dirsBetween d ns (fun _ hs => isSegment_of_placeOf hplace hs) hne
        exact ⟨ns, _, hplace, hfile, hcut.get?_eq_some hj (hstop (hroots ns)), hroots, hclimbs,
          hends⟩

/-- The file with the one directory that holds nothing else. -/
theorem delete_takes_file_and_emptied_of_nested :
    let p : Path := ⟨"/workspace/a/b/f", by decide⟩
    let beside : Path := ⟨"/workspace/a/g", by decide⟩
    let mid := (openedTree.exec ⟨1, 0⟩ (plainStore.write p [1] true)).2
    let t := (mid.exec ⟨2, 0⟩ (plainStore.write beside [2] true)).2
    let at_ (names : List Text) : Place := plainStore.rootPlace .workspace ++ names.map Utf8.encode
    plainStore.RootsFirm t plainStore.rootPlace ∧
      ∃ u, t.exec ⟨3, 0⟩ (plainStore.delete p) = (.ok (), u) ∧
        (∃ ns segments, plainStore.Deletes plainStore.rootPlace t p ns segments u) ∧
        u.get? (at_ ["a", "b"]) = none ∧ u.get? (at_ ["a"]) = some .dir := by
  intro p beside mid t at_
  have hlinks : plainTree.NoLinks := noLinks_of_entries (by decide)
  have hopened := settled_of_open hlinks beside_plainStore exec_open_plainTree
  have hnested : Namespace.of? p.text = some .workspace := by decide
  have hbeside : Namespace.of? beside.text = some .workspace := by decide
  have hmid : plainStore.Settled mid :=
    (hopened.write_changes beside_plainStore hnested [1] true ⟨1, 0⟩).1
  have hs : plainStore.Settled t :=
    (hmid.write_changes beside_plainStore hbeside [2] true ⟨2, 0⟩).1
  have hfirm := hs.rootsFirm beside_plainStore
  obtain ⟨r, u, hrun, -, hdeletes⟩ := delete_takes_file_and_emptied hfirm p ⟨3, 0⟩
  have hr : (t.exec ⟨3, 0⟩ (plainStore.delete p)).1 = .ok () := by decide +kernel
  have hgone : (t.exec ⟨3, 0⟩ (plainStore.delete p)).2.get? (at_ ["a", "b"]) = none := by
    decide +kernel
  have hkept : (t.exec ⟨3, 0⟩ (plainStore.delete p)).2.get? (at_ ["a"]) = some .dir := by
    decide +kernel
  rw [hrun] at hr hgone hkept
  obtain rfl : r = .ok () := hr
  exact ⟨hfirm, u, hrun, hdeletes rfl, hgone, hkept⟩

/-- The way to the root of the workspace leads through a directory of the workspace. A delete
empties that directory, and behind it the directory above is left, though empty, and no way leads to
the root any more. -/
theorem delete_loses_way_through_workspace :
    let c : DiskConfig := { baseDir := "/", workspace := some "/workspace/a/b/../.." }
    let d : DiskStore := ⟨"/internal", "/userinput", "/workspace/a/b/../.."⟩
    let place (ns : Namespace) : Place := [Utf8.encode ns.name]
    let at_ (names : List Text) : Place := place .workspace ++ names.map Utf8.encode
    let p : Path := ⟨"/workspace/a/b/f", by decide⟩
    let opened := OsTree.empty.exec ⟨0, 0⟩ (DiskStore.open c)
    let t := (opened.2.exec ⟨1, 0⟩ (d.write p [1] true)).2
    let u := (t.exec ⟨2, 0⟩ (d.delete p)).2
    opened.1 = .ok d ∧ t.NoLinks ∧ Apart place ∧
      (∀ ns, d.RootAt t ns (place ns)) ∧ (t.exec ⟨2, 0⟩ (d.delete p)).1 = .ok () ∧
      t.OnlyWay (place .workspace) (at_ ["a", "b", "f"]) (at_ ["a"]) ∧
      u.get? (at_ ["a"]) = some .dir ∧ ∀ root, ¬ d.RootAt u .workspace root := by
  intro c d place at_ p opened t u
  have hopened : opened.1 = .ok d := by decide +kernel
  have hlinks : t.NoLinks := noLinks_of_entries (by decide +kernel)
  have hroots : ∀ ns, d.RootAt t ns (place ns) := by
    intro ns
    refine ⟨?_, ?_, ?_⟩ <;> cases ns <;> decide +kernel
  have hdeleted : (t.exec ⟨2, 0⟩ (d.delete p)).1 = .ok () := by decide +kernel
  have honly : t.OnlyWay (place .workspace) (at_ ["a", "b", "f"]) (at_ ["a"]) := by decide +kernel
  have hleft : u.get? (at_ ["a"]) = some .dir := by decide +kernel
  have hlost : u.locate true (namesOf (d.root .workspace)) = .error .noEntry := by decide +kernel
  refine ⟨hopened, hlinks, ?_, hroots, hdeleted, honly, hleft, ?_⟩
  · intro ns ns'
    cases ns <;> cases ns' <;> decide
  · intro root hroot
    have hlocated := hroot.leads.located
    rw [hlost] at hlocated
    cases hlocated

end DiskStore
end GrantFs
