import GrantFs.Proofs.Location
import GrantFs.Proofs.OsWalk

/-! # What stays shown

A tree that keeps all entries, each with its kind, shows something wherever something was shown.
Main statement: a walk succeeds exactly where something is shown, so it succeeds in such a tree
wherever it did before. -/
namespace GrantFs.OsTree

open Os

variable {t u v : OsTree} {dir place : Place} {names : List Name} {n : Node} {location : Text}

structure KeepsKinds (t u : OsTree) : Prop extends Keeps t u where
  files : ∀ q content modified, t.get? q = some (.file content modified) →
    ∃ content' modified', u.get? q = some (.file content' modified')

theorem keepsKinds_of_nodes (h : ∀ q n, t.get? q = some n → u.get? q = some n) : t.KeepsKinds u :=
  ⟨⟨fun q => h q .dir, fun q target => h q (.link target)⟩,
    fun q content modified hq => ⟨content, modified, h q _ hq⟩⟩

theorem KeepsKinds.refl (t : OsTree) : t.KeepsKinds t := keepsKinds_of_nodes fun _ _ h => h

theorem KeepsKinds.trans (h : t.KeepsKinds u) (h' : u.KeepsKinds v) : t.KeepsKinds v := by
  refine ⟨h.toKeeps.trans h'.toKeeps, ?_⟩
  intro q content modified hq
  obtain ⟨content', modified', hmid⟩ := h.files q content modified hq
  exact h'.files q content' modified' hmid

theorem KeepsKinds.exists_node (hk : t.KeepsKinds u) (h : t.get? place ≠ none) :
    u.get? place ≠ none := by
  obtain ⟨n, hn⟩ := Option.ne_none_iff_exists'.mp h
  cases n with
  | dir => simp [hk.dirs _ hn]
  | link target => simp [hk.links _ _ hn]
  | file content modified =>
    obtain ⟨content', modified', hfile⟩ := hk.files _ _ _ hn
    simp [hfile]

/-- Names that lead to an entry lead to the same place in a tree that keeps the kinds. -/
theorem resolve_keepsKinds (hk : t.KeepsKinds u) {links : Nat}
    (h : resolve t true links dir names = .ok place) (hnode : t.get? place ≠ none) :
    resolve u true links dir names = .ok place := by
  refine resolve_keeps_place hk.toKeeps h fun hend => ?_
  obtain ⟨content, modified, hfile⟩ := hend.resolve_left hnode
  exact hk.files _ _ _ hfile

theorem write_eq_ok {now : Instant} {data : Bytes} (h : t.write now names data = .ok u) :
    ∃ place, t.locate true names = .ok place ∧ t.get? place ≠ some .dir ∧
      u = t.put place (.file data now) := by
  cases hlocated : t.locate true names with
  | error why =>
    rw [OsTree.write, hlocated] at h
    cases h
  | ok place =>
    rw [OsTree.write, hlocated] at h
    change (do
      if t.get? place = some .dir then throw OsError.isDirectory
      pure (t.put place (.file data now))) = Except.ok u at h
    by_cases hdir : t.get? place = some .dir
    · rw [if_pos hdir] at h
      cases h
    · rw [if_neg hdir] at h
      cases h
      exact ⟨place, rfl, hdir, rfl⟩

theorem shows_of_write {now : Instant} {input data : Bytes}
    (h : answer now input (.write location data) t = (.ok (), u)) :
    ∃ place, u.Shows location place (.file data now) := by
  change t.update (do checkLocation location; t.write now (namesOf location) data) = _ at h
  cases hfits : checkLocation location with
  | error why =>
    rw [hfits] at h
    cases h
  | ok _ =>
    rw [hfits] at h
    cases hwrite : t.write now (namesOf location) data with
    | error why =>
      change t.update (t.write now (namesOf location) data) = _ at h
      rw [hwrite] at h
      cases h
    | ok v =>
      change t.update (t.write now (namesOf location) data) = _ at h
      rw [hwrite] at h
      obtain rfl : v = u := (Prod.mk.inj h).2
      obtain ⟨place, hlocated, hdir, rfl⟩ := write_eq_ok hwrite
      have hentry : t.Fits place (.file data now) :=
        fits_of_locate (fun _ hname => isPiece_of_mem_namesOf hname) hlocated hdir _
      have hfile : (t.put place (.file data now)).get? place = some (.file data now) := by
        rw [get?_put hentry, if_pos rfl]
      have hlink := resolve_ne_link rfl hlocated
      have hkeeps := keeps_put_of_not_dir hdir hlink (.file data now)
      exact ⟨place, hfits, resolve_keeps_place hkeeps hlocated fun _ => ⟨_, _, hfile⟩, hfile⟩

theorem Shows.keepsKinds (h : t.Shows location place n) (hk : t.KeepsKinds u) :
    ∃ n', u.Shows location place n' := by
  have hsome : t.get? place ≠ none := by simp [h.node]
  obtain ⟨n', hn'⟩ := Option.ne_none_iff_exists'.mp (hk.exists_node hsome)
  exact ⟨n', h.fits, resolve_keepsKinds hk h.located hsome, hn'⟩

theorem read_of_nodes (h : ∀ q n, t.get? q = some n → u.get? q = some n) {content : Bytes}
    (hread : t.read names = .ok content) : u.read names = .ok content := by
  cases hlocated : t.locate true names with
  | error why =>
    rw [OsTree.read, hlocated] at hread
    cases hread
  | ok place =>
    simp only [OsTree.read, bind, Except.bind, hlocated] at hread
    split at hread
    next modified hfile =>
      have hlocated' : u.locate true names = .ok place :=
        resolve_keepsKinds (keepsKinds_of_nodes h) hlocated (by simp [hfile])
      simp only [OsTree.read, bind, Except.bind, hlocated', h place _ hfile]
      exact hread
    next => cases hread
    next => cases hread

theorem Shows.walk (h : t.Shows location place n) :
    ∃ files, t.walk (namesOf location) = .ok files := by
  obtain ⟨entry, hentry, hsome⟩ := exists_entry_of_resolve h.located (by simp [h.node])
  change t.locate false (namesOf location) = .ok entry at hentry
  cases hnode : t.get? entry with
  | none => exact absurd hnode hsome
  | some found =>
    cases found with
    | dir =>
      simp only [OsTree.walk, bind, Except.bind, hentry, hnode]
      exact ⟨_, rfl⟩
    | file content modified =>
      simp only [OsTree.walk, bind, Except.bind, hentry, hnode]
      exact ⟨_, rfl⟩
    | link target =>
      simp only [OsTree.walk, bind, Except.bind, hentry, hnode, h.located, h.node]
      cases n with
      | dir => exact ⟨_, rfl⟩
      | file content modified => exact ⟨_, rfl⟩
      | link target => exact ⟨_, rfl⟩

/-- A walk succeeds exactly where something is shown. -/
theorem walkFrom_iff_shows :
    (∃ files, t.walkFrom location = .ok files) ↔ ∃ place n, t.Shows location place n := by
  constructor
  · rintro ⟨files, hfiles⟩
    obtain ⟨place, n, hshows, -⟩ := mem_walkFrom hfiles
    exact ⟨place, n, hshows⟩
  · rintro ⟨place, n, hshows⟩
    obtain ⟨files, hfiles⟩ := hshows.walk
    simp only [walkFrom, bind, Except.bind, hshows.fits, hfiles]
    exact ⟨_, rfl⟩

theorem exists_walkFrom_of_keepsKinds (hk : t.KeepsKinds u)
    (h : ∃ files, t.walkFrom location = .ok files) : ∃ files, u.walkFrom location = .ok files := by
  obtain ⟨place, n, hshows⟩ := walkFrom_iff_shows.mp h
  obtain ⟨n', hshows'⟩ := hshows.keepsKinds hk
  exact walkFrom_iff_shows.mpr ⟨place, n', hshows'⟩

end GrantFs.OsTree
