import GrantFs.Proofs.DiskConfined
import GrantFs.Proofs.OpenRoots
import GrantFs.Proofs.Opening
import GrantFs.Proofs.OsShown

/-! # Opening again

A persistent configuration is opened on whatever earlier runs and other programs have left. Main
statement: unless a link that leads to nothing lies where the marker belongs, opening keeps every
entry as it is, adds only missing directories on the way to the roots and the marker, and changes
nothing when it is done once more. -/
namespace GrantFs

namespace OsTree

open Os

variable {t u : OsTree} {location : Text} {place q q' : Place} {names names' rest : List Name}

def Dangling (t : OsTree) (place : Place) : Prop :=
  (∃ target, t.get? place = some (.link target)) ∧
    ∀ q, t.locate true place = .ok q → t.get? q = none

theorem exists_of_not_dangling {target : LinkTarget} (h : ¬ t.Dangling place)
    (hlink : t.get? place = some (.link target)) :
    ∃ q, t.locate true place = .ok q ∧ t.get? q ≠ none := by
  by_contra hnone
  apply h
  refine ⟨⟨target, hlink⟩, ?_⟩
  intro q hq
  by_contra hsome
  exact hnone ⟨q, hq, hsome⟩

theorem keepsKinds_put (hnone : t.get? place = none) (n : Node) :
    t.KeepsKinds (t.put place n) :=
  keepsKinds_of_nodes fun _ _ hn => get?_put_of_vacant hnone hn n

/-- Adding directories leaves no link dangling that did not dangle before. -/
theorem Extends.not_dangling {meant : Text → Prop} (h : t.Extends u meant)
    (hdangling : ¬ t.Dangling q) : ¬ u.Dangling q := by
  rintro ⟨⟨target, hlink⟩, hlost⟩
  have hbefore : t.get? q = some (.link target) := by
    cases hn : t.get? q with
    | none =>
      obtain ⟨hdir, -⟩ := h.dirs q _ hn hlink
      cases hdir
    | some n => rw [← hlink, h.nodes q n hn]
  obtain ⟨p, hp, hsome⟩ := exists_of_not_dangling hdangling hbefore
  have hkinds := keepsKinds_of_nodes h.nodes
  exact hkinds.exists_node hsome (hlost p (resolve_keepsKinds hkinds hp hsome))

theorem Leads.append_unique (h : t.Leads names place) (h' : t.Leads names' place)
    (hrest : rest ≠ []) (hq : t.locate true (names ++ rest) = .ok q)
    (hq' : t.locate true (names' ++ rest) = .ok q') : q' = q := by
  obtain ⟨links, hlinks⟩ := h.locate_append
  obtain ⟨links', hlinks'⟩ := h'.locate_append
  rw [hlinks true rest (.inl hrest)] at hq
  rw [hlinks' true rest (.inl hrest)] at hq'
  exact resolve_unique hq hq'

end OsTree

namespace DiskStore

open OsTree Os

variable {c : DiskConfig} {d : DiskStore} {now : Instant} {t u v : OsTree} {ns : Namespace}
  {place q : Place}

/-- The place of the marker: its name in the directory that the internal root leads to. -/
def MarkerAt (d : DiskStore) (t : OsTree) (q : Place) : Prop :=
  ∃ place, t.Leads (namesOf d.internal) place ∧ q = place ++ [Utf8.encode marker]

theorem MarkerAt.keeps (h : d.MarkerAt t q) (hk : t.Keeps u) : d.MarkerAt u q := by
  obtain ⟨place, hleads, rfl⟩ := h
  exact ⟨place, hleads.keeps hk, rfl⟩

theorem namesOf_marker (d : DiskStore) :
    namesOf (join d.internal marker) =
      (Text.segments d.internal).map Utf8.encode ++ [Utf8.encode marker] :=
  namesOf_join (by constructor <;> decide) _

/-- What the location of the marker leads to is the marker, unless that is a link. -/
theorem MarkerAt.locate_eq (h : d.MarkerAt t q) (hlink : ∀ target, t.get? q ≠ some (.link target)) :
    t.locate true (namesOf (join d.internal marker)) = .ok q := by
  obtain ⟨place, hleads, rfl⟩ := h
  rw [namesOf_marker]
  exact (segments_lead hleads).locate_name isName_marker.toOrdinary fun _ => hlink

/-- Behind a link at the place of the marker, its location leads to where the link does. -/
theorem MarkerAt.locate_link (h : d.MarkerAt t q) {p p' : Place}
    (hp : t.locate true (namesOf (join d.internal marker)) = .ok p)
    (hp' : t.locate true q = .ok p') : p' = p := by
  obtain ⟨place, hleads, rfl⟩ := h
  have hplace : t.Leads place place := by
    have hpasses : t.Passes [] place place [] := passes_of_dir hleads.dir
    exact hpasses.leads hleads.dir
  rw [namesOf_marker] at hp
  exact (segments_lead hleads).append_unique hplace (by simp) hp hp'

theorem MarkerAt.node_of_shows (h : d.MarkerAt t q) {p : Place} {n : Node}
    (hshows : t.Shows (join d.internal marker) p n) : t.get? q ≠ none := by
  intro hnone
  have hlocated := h.locate_eq (by simp [hnone])
  rw [hshows.located] at hlocated
  cases hlocated
  rw [hshows.node] at hnone
  cases hnone

def RootsStand (d : DiskStore) (t : OsTree) : Prop :=
  ∀ ns, d.root ns ≠ [] → ∃ place, d.RootAt t ns place

theorem RootsStand.keeps (h : d.RootsStand t) (hk : t.Keeps u) : d.RootsStand u := by
  intro ns hne
  obtain ⟨place, hroot⟩ := h ns hne
  exact ⟨place, hroot.keeps hk⟩

theorem RootsStand.markerAt (h : d.RootsStand t) : ∃ q, d.MarkerAt t q := by
  by_cases hnil : d.internal = []
  · refine ⟨_, [], ?_, rfl⟩
    rw [hnil]
    exact ⟨rfl, t.get?_nil⟩
  · obtain ⟨place, hroot⟩ := h .internal hnil
    exact ⟨_, place, hroot.leads, rfl⟩

theorem RootsStand.exec_openRoot (h : d.RootsStand t) {session : Text}
    (hroot : d.root ns = (c.rootOf? ns).getD (join session ns.name)) :
    t.exec now (openRoot c session ns) = (.ok (d.root ns), t) := by
  by_cases hnil : d.root ns = []
  · rw [openRoot, ← hroot, hnil]
    rfl
  · obtain ⟨place, hplace⟩ := h ns hnil
    exact DiskStore.exec_openRoot hplace hroot.symm

theorem exec_writeMarker_of_shows {n : Node} (h : t.Shows (join d.internal marker) place n) :
    t.exec now d.writeMarker = (.ok (), t) := by
  obtain ⟨seen, hrun, hseen⟩ := t.run_isPresent now (join d.internal marker)
  have hthere : seen = true := hseen.mpr ⟨place, n, h⟩
  rw [writeMarker]
  show t.exec now (liftM (isPresent (join d.internal marker)) >>= _) = _
  rw [exec_bind_program, hrun, hthere]
  rfl

/-- Where all roots stand and the marker is found, opening changes nothing. -/
theorem exec_open_again (hc : c.freshSession = false)
    (hroots : ∀ ns, d.root ns = (c.rootOf? ns).getD (join c.baseDir ns.name))
    (hstand : d.RootsStand t) {n : Node} (hmarker : t.Shows (join d.internal marker) place n)
    (now : Instant) : t.exec now (DiskStore.open c) = (.ok d, t) := by
  have hsession : c.session now = c.baseDir := by
    rw [DiskConfig.session, hc]
    rfl
  rw [← hsession] at hroots
  rw [DiskStore.open, exec_bind_ok (exec_session c now t),
    exec_bind_ok (hstand.exec_openRoot (hroots .internal)),
    exec_bind_ok (hstand.exec_openRoot (hroots .userinput)),
    exec_bind_ok (hstand.exec_openRoot (hroots .workspace))]
  exact exec_bind_ok (exec_writeMarker_of_shows hmarker) _

/-- All entries are kept, and what is new are directories on the way to the roots and the marker. -/
structure Conserves (d : DiskStore) (now : Instant) (t u : OsTree) : Prop where
  nodes : ∀ q n, t.get? q = some n → u.get? q = some n
  new : ∀ q n, t.get? q = none → u.get? q = some n →
    (n = .dir ∧ ∃ location, d.OnRootPath location ∧ u.Shows location q .dir) ∨
      n = .file (Utf8.encode now.offsetText) now ∧ d.MarkerAt u q

structure Opened (d : DiskStore) (u : OsTree) : Prop where
  stand : d.RootsStand u
  marked : ∃ place n, u.Shows (join d.internal marker) place n

theorem writeMarker_opened (hstand : d.RootsStand t)
    (h : t.exec now d.writeMarker = (.ok (), u)) : t.KeepsKinds u ∧ d.Opened u := by
  rcases writeMarker_cases h with ⟨rfl, hshows⟩ | ⟨q, hfits, hlocated, hnone, rfl⟩
  · exact ⟨.refl _, hstand, hshows⟩
  · have hkinds := keepsKinds_put hnone (.file (Utf8.encode now.offsetText) now)
    have hwritten : (t.put q (.file (Utf8.encode now.offsetText) now)).get? q =
        some (.file (Utf8.encode now.offsetText) now) := by
      rw [get?_put (fits_of_locate (fun _ => isPiece_of_mem_namesOf) hlocated (by simp [hnone]) _),
        if_pos rfl]
    obtain ⟨-, hkept⟩ := resolve_vacant t.get?_nil hlocated hnone
    exact ⟨hkinds, hstand.keeps hkinds.toKeeps, q, _, hfits,
      hkept _ _ hkinds.toKeeps hwritten (by simp), hwritten⟩

/-- Without a dangling link there, the marker is the only file that is new. -/
theorem writeMarker_new (hstand : d.RootsStand v) (hmarker : ∀ q, d.MarkerAt v q → ¬ v.Dangling q)
    (h : v.exec now d.writeMarker = (.ok (), u)) :
    u = v ∨ ∃ q, d.MarkerAt v q ∧ v.get? q = none ∧
      u = v.put q (.file (Utf8.encode now.offsetText) now) := by
  rcases writeMarker_cases h with ⟨rfl, -⟩ | ⟨q, -, hlocated, hnone, rfl⟩
  · exact .inl rfl
  · right
    obtain ⟨p, hp⟩ := hstand.markerAt
    have hnolink : ∀ target, v.get? p ≠ some (.link target) := by
      intro target hlink
      obtain ⟨q', hq', hsome⟩ := exists_of_not_dangling (hmarker p hp) hlink
      obtain rfl := hp.locate_link hlocated hq'
      exact hsome hnone
    have hplace := hp.locate_eq hnolink
    rw [hlocated] at hplace
    cases hplace
    exact ⟨q, hp, hnone, rfl⟩

theorem open_opened (h : t.exec now (DiskStore.open c) = (.ok d, u)) :
    ∃ v, t.Extends v d.OnRootPath ∧ d.RootsStand v ∧ v.exec now d.writeMarker = (.ok (), u) ∧
      v.KeepsKinds u ∧ d.Opened u := by
  obtain ⟨session, v, -, -, hextends, hshows, hwrite⟩ := open_cases h
  have hstand : d.RootsStand v := by
    intro ns hne
    obtain ⟨place, hplace⟩ := hshows ns hne
    exact ⟨place, .of_shows hplace⟩
  exact ⟨v, hextends, hstand, hwrite, writeMarker_opened hstand hwrite⟩

/-- Where no dangling link lies at the marker's place, opening that succeeds adds no more than it
has to. -/
theorem open_conserves (h : t.exec now (DiskStore.open c) = (.ok d, u))
    (hmarker : ∀ q, d.MarkerAt u q → ¬ t.Dangling q) : d.Conserves now t u := by
  obtain ⟨v, hextends, hstand, hwrite, hkinds, -⟩ := open_opened h
  have hnotDangling : ∀ q, d.MarkerAt v q → ¬ v.Dangling q := by
    intro q hq
    exact hextends.not_dangling (hmarker q (hq.keeps hkinds.toKeeps))
  have hdirs : ∀ q n, t.get? q = none → v.get? q = some n →
      n = .dir ∧ ∃ location, d.OnRootPath location ∧ u.Shows location q .dir := by
    intro q n hnone hn
    obtain ⟨hdir, location, hon, hlocation⟩ := hextends.dirs q n hnone hn
    exact ⟨hdir, location, hon, hlocation.kept hkinds.toKeeps⟩
  rcases writeMarker_new hstand hnotDangling hwrite with
    rfl | ⟨p, hp, hvacant, rfl⟩
  · exact ⟨hextends.nodes, fun q n hnone hn => .inl (hdirs q n hnone hn)⟩
  · obtain ⟨dir, hleads, rfl⟩ := hp
    constructor
    · intro q n hn
      exact get?_put_of_vacant hvacant (hextends.nodes q n hn) _
    · intro q n hnone hn
      rcases get?_put_cases hn with hmade | ⟨rfl, rfl⟩
      · exact .inl (hdirs q n hnone hmade)
      · exact .inr ⟨rfl, dir, hleads.keeps hkinds.toKeeps, rfl⟩

/-- Opening a persistent configuration that succeeds, on any tree in which no dangling link lies
where the marker belongs: no entry is lost or changed, the only new ones are directories on the way
to the roots and the marker in the internal root, all roots stand and something is at the marker's
place, and opening once more, at any time, changes nothing. -/
theorem reopening_conserves (hc : c.freshSession = false)
    (h : t.exec now (DiskStore.open c) = (.ok d, u))
    (hmarker : ∀ q, d.MarkerAt u q → ¬ t.Dangling q) :
    (∀ ns, d.root ns = (c.rootOf? ns).getD (join c.baseDir ns.name)) ∧
      d.Conserves now t u ∧ d.RootsStand u ∧ (∃ q, d.MarkerAt u q ∧ u.get? q ≠ none) ∧
      ∀ later, u.exec later (DiskStore.open c) = (.ok d, u) := by
  obtain ⟨session, -, hsession, hroots, -⟩ := open_cases h
  rw [hsession hc] at hroots
  obtain ⟨-, -, -, -, -, hopened⟩ := open_opened h
  obtain ⟨place, n, hplace⟩ := hopened.marked
  obtain ⟨q, hq⟩ := hopened.stand.markerAt
  exact ⟨hroots, open_conserves h hmarker, hopened.stand, ⟨q, hq, hq.node_of_shows hplace⟩,
    exec_open_again hc hroots hopened.stand hplace⟩

/-- A root that is a link, one that holds a dangling link, and one that is missing: opening makes
the third one with the marker in it, and leaves both links alone. -/
theorem reopening_conserves_links :
    let data : Node := .link ⟨true, [Utf8.encode "data"], by decide⟩
    let nowhere : Node := .link ⟨true, [Utf8.encode "nowhere"], by decide⟩
    let t := (((OsTree.empty.put [Utf8.encode "data"] .dir).put [Utf8.encode "userinput"]
      data).put [Utf8.encode "workspace"] .dir).put
        [Utf8.encode "workspace", Utf8.encode "out"] nowhere
    let opened := t.exec ⟨0, 0⟩ (DiskStore.open (.persistent "/"))
    opened.1 = .ok plainStore ∧ plainStore.Conserves ⟨0, 0⟩ t opened.2 ∧
      opened.2.get? [Utf8.encode "internal", Utf8.encode marker] =
        some (.file (Utf8.encode (⟨0, 0⟩ : Instant).offsetText) ⟨0, 0⟩) ∧
      opened.2.exec ⟨1, 0⟩ (DiskStore.open (.persistent "/")) = (.ok plainStore, opened.2) := by
  intro data nowhere t opened
  have hopened : opened.1 = .ok plainStore := by decide +kernel
  have hrun : t.exec ⟨0, 0⟩ (DiskStore.open (.persistent "/")) = (.ok plainStore, opened.2) := by
    rw [← hopened]
  have hnone : t.get? [Utf8.encode "internal", Utf8.encode marker] = none := by decide +kernel
  have hinternal : opened.2.Leads (namesOf plainStore.internal) [Utf8.encode "internal"] := by
    constructor <;> decide +kernel
  have hwritten : opened.2.get? [Utf8.encode "internal", Utf8.encode marker] =
      some (.file (Utf8.encode (⟨0, 0⟩ : Instant).offsetText) ⟨0, 0⟩) := by decide +kernel
  clear_value opened
  have hmarker : ∀ q, plainStore.MarkerAt opened.2 q → ¬ t.Dangling q := by
    rintro q ⟨place, hleads, rfl⟩ ⟨⟨target, hlink⟩, -⟩
    obtain rfl := hinternal.unique hleads
    exact absurd (hnone.symm.trans hlink) (by simp)
  obtain ⟨-, hconserves, -, -, hagain⟩ := reopening_conserves rfl hrun hmarker
  exact ⟨hopened, hconserves, hwritten, hagain ⟨1, 0⟩⟩

/-- A dangling link at the place of the marker is followed: opening makes a file where the link
leads, outside of all roots, while an entry has been at the marker's place all along. -/
theorem reopening_follows_dangling_marker :
    let t := (OsTree.empty.put [Utf8.encode "internal"] .dir).put
      [Utf8.encode "internal", Utf8.encode marker]
      (.link ⟨true, [Utf8.encode "outside"], by decide⟩)
    let opened := t.exec ⟨0, 0⟩ (DiskStore.open (.persistent "/"))
    opened.1 = .ok plainStore ∧
      plainStore.MarkerAt opened.2 [Utf8.encode "internal", Utf8.encode marker] ∧
      t.get? [Utf8.encode "internal", Utf8.encode marker] ≠ none ∧
      t.get? [Utf8.encode "outside"] = none ∧
      opened.2.get? [Utf8.encode "outside"] =
        some (.file (Utf8.encode (⟨0, 0⟩ : Instant).offsetText) ⟨0, 0⟩) ∧
      ¬ plainStore.Conserves ⟨0, 0⟩ t opened.2 := by
  intro t opened
  have hmarker : plainStore.MarkerAt opened.2 [Utf8.encode "internal", Utf8.encode marker] := by
    refine ⟨[Utf8.encode "internal"], ?_, rfl⟩
    constructor <;> decide +kernel
  have hnone : t.get? [Utf8.encode "outside"] = none := by decide +kernel
  have hfile : opened.2.get? [Utf8.encode "outside"] =
      some (.file (Utf8.encode (⟨0, 0⟩ : Instant).offsetText) ⟨0, 0⟩) := by
    decide +kernel
  refine ⟨by decide +kernel, hmarker, by decide +kernel, hnone, hfile, ?_⟩
  intro hconserves
  rcases hconserves.new _ _ hnone hfile with ⟨hdir, -⟩ | ⟨-, place, -, hplace⟩
  · cases hdir
  · have hlast := congrArg List.getLast? hplace
    rw [List.getLast?_concat] at hlast
    exact absurd hlast (by decide)

end DiskStore
end GrantFs
