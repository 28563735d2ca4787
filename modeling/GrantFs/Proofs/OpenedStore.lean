import GrantFs.Proofs.DiskEffect
import GrantFs.Proofs.Minting
import GrantFs.Proofs.Reopening

/-! # An opened store in use

A store is opened with its roots in one directory that held nothing. What is then asked of it
through a handle for namespaces may be stored below any root, but is deleted below that of the
workspace alone. Main statement: so if the root of the workspace has been left empty, whatever is
asked, all that was there before and all that opening has made stays, and opening again changes
nothing. -/
namespace GrantFs

namespace Handle

variable {namespaces : List Namespace} {path : Text}

theorem workspace_of_delete (h : (ofNamespaces namespaces).permits path .delete = true) :
    Namespace.of? path = some .workspace := by
  obtain ⟨ns, hpath, -, hdelete⟩ := permits_ofNamespaces.mp h
  cases ns with
  | internal => exact absurd hdelete (by decide)
  | userinput => exact absurd hdelete (by decide)
  | workspace => exact hpath

end Handle

namespace OsTree

variable {t : OsTree} {dir place : Place} {names left : List Name}

theorem Passes.prefix_of_no_dotDot (h : t.Passes dir names place left) (hdots : dotDot ∉ names) :
    dir <+: place := by
  induction h with
  | stop dir names => exact List.prefix_refl dir
  | dot _ ih => exact ih fun hmem => hdots (List.mem_cons_of_mem _ hmem)
  | up _ _ => exact absurd List.mem_cons_self hdots
  | enter _ _ _ ih =>
    exact (List.prefix_append ..).trans (ih fun hmem => hdots (List.mem_cons_of_mem _ hmem))

theorem resolve_prefix_of_no_dotDot {links : Nat} (h : resolve t true links dir names = .ok place)
    (hdir : t.get? place = some .dir) (hdots : dotDot ∉ names)
    (hlinks : ∀ more target, more ≠ [] → t.get? (dir ++ more) ≠ some (.link target)) :
    dir <+: place := by
  cases resolves h with
  | dir hpasses => exact hpasses.prefix_of_no_dotDot hdots
  | entry _ _ hend => exact absurd hdir (ne_dir_of_end hend)
  | link hpasses _ hlink _ =>
    obtain ⟨more, rfl⟩ := hpasses.prefix_of_no_dotDot hdots
    rw [List.append_assoc] at hlink
    exact absurd hlink (hlinks _ _ (by simp))

end OsTree

namespace DiskStore

open OsTree Os

variable {d : DiskStore} {base : Text} {t₀ u t : OsTree} {place : Place} {now : Instant}

/-- The store has been opened in `t₀` with all roots in one directory that held nothing, and the
workspace is empty in the tree `u` that this has left. -/
structure Founded (d : DiskStore) (base : Text) (t₀ u : OsTree) (place : Place) : Prop where
  located : ∀ ns, d.root ns = join base ns.name
  roots : ∀ ns : Namespace, d.RootAt u ns (place ++ [Utf8.encode ns.name])
  marked : ∃ q n, u.Shows (join d.internal marker) q n
  before : ∀ names, names ≠ [] → t₀.get? (place ++ names) = none
  workspace : ∀ names, names ≠ [] →
    u.get? (place ++ [Utf8.encode Namespace.workspace.name] ++ names) = none

/-- All that was there before is as it was, and all that opening has made is there. -/
structure Kept (t₀ u t : OsTree) : Prop where
  nodes : ∀ q n, t₀.get? q = some n → t.get? q = some n
  kinds : u.KeepsKinds t

theorem isSegment_name (ns : Namespace) : ns.name.IsSegment := by
  cases ns <;> constructor <;> decide

theorem isName_name (ns : Namespace) : IsName (Utf8.encode ns.name) := by
  cases ns <;> decide

theorem not_link_of_open {c : DiskConfig}
    (h : t.exec now (DiskStore.open c) = (.ok d, u)) {q : Place} (hnone : t.get? q = none)
    (target : LinkTarget) : u.get? q ≠ some (.link target) := by
  obtain ⟨v, hextends, -, hwrite, -⟩ := open_opened h
  intro hlink
  have hlinked : v.get? q = some (.link target) := by
    rcases writeMarker_cases hwrite with ⟨rfl, -⟩ | ⟨p, -, -, hvacant, rfl⟩
    · exact hlink
    · exact (get?_put_cases hlink).resolve_right (by simp)
  obtain ⟨hdir, -⟩ := hextends.dirs q _ hnone hlinked
  cases hdir

theorem RootAt.place_eq {ns : Namespace} {q : Place} (h : d.RootAt u ns q)
    (hroot : d.root ns = join base ns.name) (hplace : u.Leads (namesOf base) place)
    (hlink : ∀ target, u.get? (place ++ [Utf8.encode ns.name]) ≠ some (.link target)) :
    q = place ++ [Utf8.encode ns.name] := by
  have hlocated : u.locate true _ = _ :=
    (segments_lead hplace).locate_name (isName_name ns).toOrdinary fun _ => hlink
  have hleads := h.leads.located
  rw [hroot, namesOf_join (isSegment_name ns), hlocated] at hleads
  exact (Except.ok.inj hleads).symm

section Opening

variable (hopen : t₀.exec now (DiskStore.open (.persistent base)) = (.ok d, u))
  (hplace : u.Leads (namesOf base) place)
  (hbefore : ∀ names, names ≠ [] → t₀.get? (place ++ names) = none)

include hopen

theorem located_of_open (ns : Namespace) : d.root ns = join base ns.name := by
  obtain ⟨session, -, hsession, hroots, -⟩ := open_cases hopen
  rw [hroots, hsession rfl]
  cases ns <;> rfl

include hplace hbefore

theorem rootAt_of_open (ns : Namespace) : d.RootAt u ns (place ++ [Utf8.encode ns.name]) := by
  obtain ⟨-, -, -, -, -, hopened⟩ := open_opened hopen
  have hlocated := located_of_open hopen ns
  have hne : d.root ns ≠ [] := by
    rw [hlocated]
    exact join_ne_nil (isSegment_name ns) base
  obtain ⟨q, hq⟩ := hopened.stand ns hne
  have heq := hq.place_eq hlocated hplace
    (not_link_of_open hopen (hbefore _ (List.cons_ne_nil _ _)))
  rwa [← heq]

theorem markerAt_of_open {q : Place} (hq : d.MarkerAt u q) :
    q = place ++ [Utf8.encode Namespace.internal.name, Utf8.encode marker] := by
  obtain ⟨dir, hleads, rfl⟩ := hq
  obtain rfl := hleads.unique (rootAt_of_open hopen hplace hbefore .internal).leads
  exact List.append_assoc ..

theorem conserves_of_open : d.Conserves now t₀ u := by
  apply open_conserves hopen
  rintro q hq ⟨⟨target, hlink⟩, -⟩
  rw [markerAt_of_open hopen hplace hbefore hq, hbefore _ (by simp)] at hlink
  cases hlink

omit hopen hplace hbefore in
theorem namesOf_of_mem_ancestors {location : Text} {ns : Namespace}
    (h : location ∈ ancestors (join base ns.name)) :
    ∃ k, namesOf location = ((components base).take k).map Utf8.encode := by
  have hcomponents : components (join base ns.name) = components base ++ [ns.name] := by
    have hsegments : ∀ x ∈ [ns.name], x.IsSegment := by simp [isSegment_name ns]
    have hdot : ns.name ≠ ['.'] := by cases ns <;> decide
    simpa [hdot] using components_foldl_join hsegments base
  rw [ancestors, hcomponents] at h
  obtain ⟨k, hk, rfl⟩ := List.mem_map.mp h
  have hlength : k < (components base).length := by simpa using hk
  have htake : (components base ++ [ns.name]).take (k + 1) = (components base).take (k + 1) :=
    List.take_append_of_le_length hlength
  refine ⟨k + 1, ?_⟩
  rw [htake]
  apply namesOf_ofComponents
  · exact fun x hx => isSegment_of_mem_components (List.mem_of_mem_take hx)
  · rw [← List.length_pos_iff, List.length_take]
    omega

/-- A root without two dots in its location lies above all that is made on the way to it. -/
theorem workspace_empty_of_no_dotDot (hdots : dotDot ∉ namesOf base) {names : List Name}
    (hne : names ≠ []) :
    u.get? (place ++ [Utf8.encode Namespace.workspace.name] ++ names) = none := by
  by_contra hsome
  obtain ⟨n, hn⟩ := Option.ne_none_iff_exists'.mp hsome
  have hconserves := conserves_of_open hopen hplace hbefore
  have hnew := hconserves.new _ n (by rw [List.append_assoc]; exact hbefore _ (by simp)) hn
  rcases hnew with ⟨-, location, ⟨ns, hmem⟩, hshows⟩ | ⟨-, hmarker⟩
  · rcases List.mem_cons.mp hmem with rfl | habove
    · have hsame := (rootAt_of_open hopen hplace hbefore ns).leads.unique
        ⟨hshows.located, hshows.node⟩
      have hlength := congrArg List.length hsame
      have hpositive := List.length_pos_iff.mpr hne
      simp only [List.length_append, List.length_singleton] at hlength
      omega
    · rw [located_of_open hopen] at habove
      obtain ⟨k, hnames⟩ := namesOf_of_mem_ancestors habove
      have hbase := components_lead hplace
      rw [← List.take_append_drop k (components base), List.map_append, ← hnames] at hbase
      obtain ⟨links, hlinks⟩ := (Leads.mk hshows.located hshows.node).locate_append
      have hrest := hbase.located
      rw [hlinks true _ (.inr rfl)] at hrest
      have hprefix : place ++ [Utf8.encode Namespace.workspace.name] ++ names <+: place := by
        apply resolve_prefix_of_no_dotDot hrest hplace.dir
        · intro hmem
          obtain ⟨x, hx, hname⟩ := List.mem_map.mp hmem
          have hsegment := (List.mem_filter.mp (List.mem_of_mem_drop hx)).1
          apply hdots
          rw [← hname]
          exact List.mem_append_left _ (List.mem_map_of_mem hsegment)
        · intro more target _
          rw [List.append_assoc, List.append_assoc]
          exact not_link_of_open hopen (hbefore _ (by simp)) target
      have hlength := hprefix.length_le
      simp only [List.length_append, List.length_singleton] at hlength
      omega
  · have hplaces := markerAt_of_open hopen hplace hbefore hmarker
    rw [List.append_assoc] at hplaces
    have hnames := List.append_cancel_left hplaces
    exact absurd (List.cons.inj hnames).1 (by decide)

theorem founded_of_open (hworkspace : ∀ names, names ≠ [] →
      u.get? (place ++ [Utf8.encode Namespace.workspace.name] ++ names) = none) :
    d.Founded base t₀ u place ∧ Kept t₀ u u := by
  obtain ⟨-, -, -, -, -, hopened⟩ := open_opened hopen
  have hconserves := conserves_of_open hopen hplace hbefore
  exact ⟨⟨located_of_open hopen, rootAt_of_open hopen hplace hbefore, hopened.marked, hbefore,
    hworkspace⟩, hconserves.nodes, .refl u⟩

end Opening

/-- Opening again finds everything in place. -/
theorem Founded.exec_open (hf : d.Founded base t₀ u place) (hk : Kept t₀ u t) (now : Instant) :
    t.exec now (DiskStore.open (.persistent base)) = (.ok d, t) := by
  have hlocated : ∀ ns, d.root ns =
      ((DiskConfig.persistent base).rootOf? ns).getD (join base ns.name) := by
    intro ns
    rw [hf.located]
    cases ns <;> rfl
  have hstand : d.RootsStand t := fun ns _ => ⟨_, (hf.roots ns).keeps hk.kinds.toKeeps⟩
  obtain ⟨q, n, hshows⟩ := hf.marked
  obtain ⟨n', hmarked⟩ := hshows.keepsKinds hk.kinds
  exact exec_open_again rfl hlocated hstand hmarked now

variable {p : Path} {namespaces : List Namespace}

/-- What changes below a place does not touch the entries of a tree that has none there. -/
theorem SameBut.get?_eq {v w : OsTree} {n : Node} {q : Place} (h : SameBut place t v)
    (hempty : ∀ names, names ≠ [] → w.get? (place ++ names) = none) (hn : w.get? q = some n) :
    v.get? q = t.get? q := by
  apply (h q).resolve_right
  rintro ⟨names, hne, rfl⟩
  rw [hempty names hne] at hn
  cases hn

theorem Founded.nothing_below (hf : d.Founded base t₀ u place) (ns : Namespace) :
    ∀ names, names ≠ [] → t₀.get? (place ++ [Utf8.encode ns.name] ++ names) = none := by
  intro names _
  rw [List.append_assoc]
  exact hf.before _ (by simp)

theorem Founded.write (hf : d.Founded base t₀ u place) (hk : Kept t₀ u t) (now : Instant)
    (p : Path) (data : Bytes) (overwrite : Bool) :
    Kept t₀ u (t.exec now (d.write p data overwrite)).2 := by
  cases hplace : placeOf p with
  | error why =>
    rw [exec_write_of_links (exec_locationWithoutLinks_of_error hplace)]
    exact hk
  | ok found =>
    obtain ⟨ns, segments⟩ := found
    have hroot := (hf.roots ns).keeps hk.kinds.toKeeps
    obtain ⟨reply, v, hrun, hout⟩ := write_outcome now hroot hplace data overwrite
    have hsame := hout.sameBut hroot.leads.dir
    rw [hrun]
    constructor
    · intro q n hn
      rw [hsame.get?_eq (hf.nothing_below ns) hn]
      exact hk.nodes q n hn
    · exact hk.kinds.trans (hout.keepsKinds hroot.leads.dir)

theorem Founded.delete (hf : d.Founded base t₀ u place) (hk : Kept t₀ u t) (now : Instant)
    (hns : Namespace.of? p.text = some .workspace) :
    Kept t₀ u (t.exec now (d.delete p)).2 := by
  have hplace := placeOf_eq_ok.mpr ⟨Namespace.of?_eq_some.mp hns, rfl⟩
  have hroot := (hf.roots .workspace).keeps hk.kinds.toKeeps
  obtain ⟨reply, v, hrun, hout⟩ := delete_outcome now hroot hplace
  have hsame := hout.sameBut
  rw [hrun]
  refine ⟨?_, ⟨?_, ?_⟩, ?_⟩
  · intro q n hn
    rw [hsame.get?_eq (hf.nothing_below .workspace) hn]
    exact hk.nodes q n hn
  · intro q hn
    rw [hsame.get?_eq hf.workspace hn]
    exact hk.kinds.dirs q hn
  · intro q target hn
    rw [hsame.get?_eq hf.workspace hn]
    exact hk.kinds.links q target hn
  · intro q content modified hn
    rw [hsame.get?_eq hf.workspace hn]
    exact hk.kinds.files q content modified hn

/-- One call: whatever a handle for namespaces may ask, all stays that was there before or that
opening has made. -/
theorem Founded.call (hf : d.Founded base t₀ u place) (hk : Kept t₀ u t) (now : Instant) {c : Call}
    (hc : (Handle.ofNamespaces namespaces).MayDo c) : Kept t₀ u (d.backend now c t).2 := by
  obtain ⟨r, hr⟩ := hc
  cases c with
  | snapshot grants =>
    rw [backend_snapshot_store]
    exact hk
  | readBytes path =>
    show Kept t₀ u (t.exec now (d.read path)).2
    rw [exec_read_store]
    exact hk
  | readText path index count =>
    show Kept t₀ u (t.exec now (d.perform (.readText path index count))).2
    rw [perform, exec_read_check_store]
    exact hk
  | readMatches path pattern overlap =>
    show Kept t₀ u (t.exec now (d.perform (.readMatches path pattern overlap))).2
    rw [perform, exec_read_check_store]
    exact hk
  | write path data overwrite => exact hf.write hk now path data overwrite
  | delete path => exact hf.delete hk now (Handle.workspace_of_delete hr.of_delete.2)

theorem Founded.action {α : Type} (hf : d.Founded base t₀ u place) (hk : Kept t₀ u t)
    (now : Instant) (index : Snapshot) {x : Action α}
    (hx : x.Asks (Access.Within (Handle.ofNamespaces namespaces).MayDo)) :
    Kept t₀ u (x.runWith (d.backend now) ⟨t, index⟩).2.store :=
  hx.store_preserved (I := Kept t₀ u) (fun _ _ hc hs => hf.call hs now hc) hk

end DiskStore
end GrantFs
