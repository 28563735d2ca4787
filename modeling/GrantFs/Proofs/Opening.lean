import GrantFs.Proofs.Mirror

/-! # Opening a disk

What opening does where the roots are directories with nothing below them: nothing but to put the
marker below the internal root. Main statement: the disk is fresh then. -/
namespace GrantFs

/-- The directory of the roots that have no location of their own. -/
def DiskConfig.session (c : DiskConfig) (now : Instant) : Text :=
  if c.freshSession then Os.join c.baseDir now.stampText else c.baseDir

namespace DiskStore

open OsTree Os

variable {c : DiskConfig} {d : DiskStore} {now : Instant} {t : OsTree} {ns : Namespace}
  {root : Namespace → Place} {place : Place}

theorem exec_makeDirs_of_rootAt (now : Instant) (h : d.RootAt t ns place) :
    t.exec now (makeDirs (d.root ns)) = (.ok (), t) := by
  have hsome : (d.root ns).isEmpty = false := by simpa using h.ne_nil
  rw [makeDirs, hsome]
  exact exec_makeDirsAmong_of_dir h.leads_segments ⟨h.fits, h.leads.located, h.leads.dir⟩ _

theorem exec_openRoot (h : d.RootAt t ns place) {session : Text}
    (hroot : (c.rootOf? ns).getD (join session ns.name) = d.root ns) :
    t.exec now (openRoot c session ns) = (.ok (d.root ns), t) := by
  rw [openRoot, hroot]
  exact exec_bind_ok (exec_makeDirs_of_rootAt now h) _

theorem isName_marker : IsName (Utf8.encode marker) := by decide

theorem exec_writeMarker (h : d.RootAt t .internal place)
    (hfits : checkLocation (d.locationOf .internal [marker]) = .ok ())
    (hnone : t.get? (place ++ [Utf8.encode marker]) = none) :
    t.exec now d.writeMarker =
      (.ok (), t.put (place ++ [Utf8.encode marker])
        (.file (Utf8.encode now.offsetText) now)) := by
  have hmarker : marker.IsSegment := by
    constructor <;> decide
  have hnames : namesOf (join d.internal marker) =
      (Text.segments d.internal).map Utf8.encode ++ [Utf8.encode marker] :=
    namesOf_join hmarker _
  have hlocated : t.locate true (namesOf (join d.internal marker)) =
      .ok (place ++ [Utf8.encode marker]) := by
    rw [hnames]
    exact h.leads_segments.locate_name isName_marker.toOrdinary (by simp [hnone])
  obtain ⟨seen, hrun, hseen⟩ := t.run_isPresent now (join d.internal marker)
  have habsent : seen = false := by
    rw [Bool.eq_false_iff]
    intro hthere
    obtain ⟨q, n, hshows⟩ := hseen.mp hthere
    have hplace := hshows.located
    rw [hlocated] at hplace
    cases hplace
    have hnode := hshows.node
    rw [hnone] at hnode
    cases hnode
  have hwrite := answer_write_new now h.leads_segments isName_marker.toOrdinary hnames hfits hnone
    (Utf8.encode now.offsetText)
  rw [writeMarker]
  show t.exec now (liftM (isPresent (join d.internal marker)) >>= _) = _
  rw [exec_bind_program, hrun, habsent]
  show t.exec now (liftM (ask .now) >>= fun now => orFail (ask (.write (join d.internal marker)
    (Utf8.encode now.offsetText)))) = _
  rw [exec_bind_program, run_ask]
  show t.exec now (orFail (ask (.write (join d.internal marker) (Utf8.encode now.offsetText)))) = _
  rw [exec_orFail, run_ask, hwrite]
  rfl

theorem exec_session (c : DiskConfig) (now : Instant) (t : OsTree) :
    t.exec now (if c.freshSession then do
        let now ← (ask .now : OsProgram Instant)
        pure (join c.baseDir now.stampText)
      else pure c.baseDir : OsAction Text) = (.ok (c.session now), t) := by
  rw [DiskConfig.session]
  split <;> rfl

theorem exec_open (hroots : ∀ ns, d.RootAt t ns (root ns))
    (hnone : t.get? (root .internal ++ [Utf8.encode marker]) = none)
    (hconfig : ∀ ns, (c.rootOf? ns).getD (join (c.session now) ns.name) = d.root ns)
    (hfits : checkLocation (d.locationOf .internal [marker]) = .ok ()) :
    t.exec now (DiskStore.open c) =
      (.ok d, t.put (root .internal ++ [Utf8.encode marker])
        (.file (Utf8.encode now.offsetText) now)) := by
  rw [DiskStore.open, exec_bind_ok (exec_session c now t),
    exec_bind_ok (exec_openRoot (hroots .internal) (hconfig .internal)),
    exec_bind_ok (exec_openRoot (hroots .userinput) (hconfig .userinput)),
    exec_bind_ok (exec_openRoot (hroots .workspace) (hconfig .workspace))]
  exact exec_bind_ok (exec_writeMarker (hroots .internal) hfits hnone) _

/-- A disk is fresh when it has been opened on roots that lie beside one another, with nothing below
them. -/
theorem fresh_open (hroots : ∀ ns, d.RootAt t ns (root ns)) (hapart : Apart root)
    (hempty : ∀ ns names, names ≠ [] → t.get? (root ns ++ names) = none)
    (hconfig : ∀ ns, (c.rootOf? ns).getD (join (c.session now) ns.name) = d.root ns)
    (hfits : checkLocation (d.locationOf .internal [marker]) = .ok ()) :
    (t.exec now (DiskStore.open c)).1 = .ok d ∧
      d.Fresh (t.exec now (DiskStore.open c)).2 root (Utf8.encode now.offsetText) := by
  have hnone := hempty .internal [Utf8.encode marker] (by simp)
  have hput := fits_of_vacant isName_marker (hroots .internal).leads.dir hnone
    (.file (Utf8.encode now.offsetText) now)
  rw [exec_open hroots hnone hconfig hfits]
  refine ⟨rfl, fun ns => (hroots ns).keeps (keeps_put hnone _), hapart, ⟨now, by simp, ?_, hfits⟩,
    fun ns names hne hsome => ?_⟩
  · rw [List.map_singleton, get?_put hput, if_pos rfl]
  · rw [get?_put hput] at hsome
    split at hsome
    next heq => exact hapart.of_eq heq
    next => exact absurd (hempty ns names hne) hsome

/-- The tree that opening the plain roots leaves. -/
def openedTree : OsTree := (plainTree.exec ⟨0, 0⟩ (DiskStore.open (.persistent "/"))).2

theorem opened_plainTree :
    (plainTree.exec ⟨0, 0⟩ (DiskStore.open (.persistent "/"))).1 = .ok plainStore ∧
      plainStore.Fresh openedTree (fun ns => [Utf8.encode ns.name])
        (Utf8.encode (⟨0, 0⟩ : Instant).offsetText) := by
  refine fresh_open rootAt_plainTree (fun ns ns' => ?_) (fun ns => ?_) (fun ns => ?_) (by decide)
  · cases ns <;> cases ns' <;> decide
  · rw [← below_eq_nil]
    cases ns <;> decide
  · cases ns <;> decide

theorem exec_open_plainTree :
    plainTree.exec ⟨0, 0⟩ (DiskStore.open (.persistent "/")) = (.ok plainStore, openedTree) :=
  Prod.ext opened_plainTree.1 rfl

theorem fresh_openedTree :
    plainStore.Fresh openedTree (fun ns => [Utf8.encode ns.name])
      (Utf8.encode (⟨0, 0⟩ : Instant).offsetText) :=
  opened_plainTree.2

end DiskStore
end GrantFs
