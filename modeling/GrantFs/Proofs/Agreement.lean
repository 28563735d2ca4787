import GrantFs.Proofs.HandleRun
import GrantFs.Proofs.Opening

/-! # Disk and memory agree

The same requests are made of a disk that was opened on empty roots and of a store in memory that
holds its marker. Main statement: as long as every write is to a target that no stored file is in
the way of, all replies are the same on both, times aside. -/
namespace GrantFs

def FileTask.untimed : (task : FileTask) → task.Reply → task.Reply
  | .inspect, e => Entry.untimed e
  | .write _ _, e => Entry.untimed e
  | .readBytes, data => data
  | .readText _ _, t => t
  | .readMatches _ _, found => found
  | .delete, u => u

def Request.untimed : (r : Request) → r.Reply → r.Reply
  | .list _, entries => entries.map Entry.untimed
  | .file _ task, reply => task.untimed reply

theorem Handle.map_untimed_listed (limit : Option Path) {i j : Snapshot}
    (h : ∀ p, (i.get? p).map Entry.untimed = (j.get? p).map Entry.untimed) :
    (Handle.listed limit i).map Entry.untimed = (Handle.listed limit j).map Entry.untimed := by
  have hvalues := SortedMap.map_values_eq Entry.untimed h
  cases limit with
  | none => exact hvalues
  | some start =>
    have hfilter : ∀ k : Snapshot, (k.values.filter (·.path.startsWith start.text)).map
        Entry.untimed = (k.values.map Entry.untimed).filter (·.path.startsWith start.text) := by
      intro k
      rw [List.filter_map]
      rfl
    rw [Handle.listed, Handle.listed, hfilter, hfilter, hvalues]

namespace DiskStore

open OsTree

variable {d : DiskStore} {now now' : Instant} {t t₀ : OsTree} {s : MemoryStore}
  {root : Namespace → Place} {marked : Bytes} {p : Path} {h : Handle} {r : Request}

/-- The same has come of both: the same reply, times aside, and a disk that mirrors the store. -/
structure Alike (d : DiskStore) (t₀ : OsTree) (root : Namespace → Place) {α : Type}
    (untimed : α → α) (out : Except Fault α × OsTree) (out' : Except Fault α × MemoryStore) :
    Prop where
  reply : out.1.map untimed = out'.1.map untimed
  mirrors : d.Mirrors t₀ root out.2 out'.2

def Admits (d : DiskStore) (now : Instant) (t : OsTree) (s : MemoryStore) : Request → Prop
  | .file path (.write _ _) =>
    ∀ p : Path, p.text = path → ∃ ns segments, d.Target now t s p ns segments
  | _ => True

variable {data : Bytes} {overwrite : Bool}

/-- A write that may take place puts the same file on the disk and into the store. -/
theorem Mirrors.write_alike (hm : d.Mirrors t₀ root t s) (hfresh : d.Fresh t₀ root marked)
    (hadmits : d.Admits now t s (.file p.text (.write data overwrite)))
    (hfile : p.isDirLike = false) (hvacant : overwrite = false → s.content.get? p = none)
    (now' : Instant) :
    d.Alike t₀ root Entry.untimed (d.backend now (.write p data overwrite) t)
      (MemoryStore.backend now' (.write p data overwrite) s) := by
  obtain ⟨ns, segments, htarget⟩ := hadmits p rfl
  obtain ⟨u, hrun, hu⟩ := hm.exec_write hfresh htarget hfile hvacant data now'
  show d.Alike t₀ root Entry.untimed (t.exec now (d.write p data overwrite))
    (s.write now' p data overwrite)
  rw [hrun, MemoryStore.write_of_vacant hvacant]
  exact ⟨rfl, hu⟩

theorem Mirrors.finish_alike_of_absent (hm : d.Mirrors t₀ root t s)
    (hfresh : d.Fresh t₀ root marked) {task : FileTask}
    (hfile : task.isWrite = true → p.isDirLike = false)
    (hadmits : d.Admits now t s (.file p.text task)) (hdata : s.content.get? p = none)
    (now' : Instant) :
    d.Alike t₀ root task.untimed (task.finish (d.backend now) p none t)
      (task.finish (MemoryStore.backend now') p none s) := by
  cases task with
  | write data overwrite =>
    have hnew : ¬ (overwrite = false ∧ (none : Option Entry).isSome = true) := by simp
    rw [FileTask.finish, FileTask.finish, if_neg hnew, if_neg hnew]
    exact hm.write_alike hfresh hadmits (hfile rfl) (fun _ => hdata) now'
  | _ => exact ⟨rfl, hm⟩

theorem Mirrors.finish_alike_of_stored (hm : d.Mirrors t₀ root t s)
    (hfresh : d.Fresh t₀ root marked) {task : FileTask}
    (hfile : task.isWrite = true → p.isDirLike = false)
    (hadmits : d.Admits now t s (.file p.text task)) (hdata : s.content.get? p = some data)
    {e e' : Entry} (he : e.untimed = e'.untimed) (now' : Instant) :
    d.Alike t₀ root task.untimed (task.finish (d.backend now) p (some e) t)
      (task.finish (MemoryStore.backend now') p (some e') s) := by
  have hread := hm.exec_read hfresh now hdata
  have hread' : s.read p = .ok data := by rw [MemoryStore.read, hdata]
  cases task with
  | inspect => exact ⟨congrArg Except.ok he, hm⟩
  | readBytes =>
    show d.Alike t₀ root _ (t.exec now (d.read p)) (s.read p, s)
    rw [hread, hread']
    exact ⟨rfl, hm⟩
  | readText index count =>
    have hlines : d.backend now (.readText p index count) t =
        (sliceLines (Utf8.decodeLossy data) index count, t) :=
      (exec_bind_ok hread _).trans (exec_check _)
    show d.Alike t₀ root _ (d.backend now (.readText p index count) t)
      ((s.read p).bind fun data => sliceLines (Utf8.decodeLossy data) index count, s)
    rw [hlines, hread']
    exact ⟨rfl, hm⟩
  | readMatches pattern overlap =>
    have hmatches : d.backend now (.readMatches p pattern overlap) t =
        (Regex.scan pattern overlap (Utf8.decodeLossy data), t) :=
      (exec_bind_ok hread _).trans (exec_check _)
    show d.Alike t₀ root _ (d.backend now (.readMatches p pattern overlap) t)
      ((s.read p).bind fun data => Regex.scan pattern overlap (Utf8.decodeLossy data), s)
    rw [hmatches, hread']
    exact ⟨rfl, hm⟩
  | write bytes overwrite =>
    by_cases hkeep : overwrite = false
    · rw [FileTask.finish, FileTask.finish, if_pos ⟨hkeep, rfl⟩, if_pos ⟨hkeep, rfl⟩]
      exact ⟨rfl, hm⟩
    · have hreplaced : ∀ found : Option Entry, ¬ (overwrite = false ∧ found.isSome = true) :=
        fun _ hboth => hkeep hboth.1
      rw [FileTask.finish, FileTask.finish, if_neg (hreplaced _), if_neg (hreplaced _)]
      exact hm.write_alike hfresh hadmits (hfile rfl) (fun hno => absurd hno hkeep) now'
  | delete =>
    obtain ⟨u, hrun, hu⟩ := hm.exec_delete hfresh now hdata
    show d.Alike t₀ root _ (t.exec now (d.delete p)) (s.delete p)
    rw [hrun, MemoryStore.delete_of_stored (by rw [hdata]; simp)]
    exact ⟨rfl, hu⟩

/-- What a snapshot shows at a path that the grants let see is all that a task needs of it. -/
theorem Mirrors.finish_alike (hm : d.Mirrors t₀ root t s) (hfresh : d.Fresh t₀ root marked)
    {task : FileTask} (hfile : task.isWrite = true → p.isDirLike = false)
    (hadmits : d.Admits now t s (.file p.text task)) {grants : List Grant}
    (hvisible : isVisible grants p.text = true) {found found' : Option Entry}
    (hfound : found.map Entry.untimed = s.seen? grants p)
    (hfound' : found'.map Entry.untimed = s.seen? grants p) (now' : Instant) :
    d.Alike t₀ root task.untimed (task.finish (d.backend now) p found t)
      (task.finish (MemoryStore.backend now') p found' s) := by
  rw [MemoryStore.seen?, if_pos hvisible] at hfound hfound'
  cases hdata : s.content.get? p with
  | none =>
    rw [hdata, Option.map_none, Option.map_eq_none_iff] at hfound hfound'
    subst hfound hfound'
    exact hm.finish_alike_of_absent hfresh hfile hadmits hdata now'
  | some data =>
    rw [hdata, Option.map_some, Option.map_eq_some_iff] at hfound hfound'
    obtain ⟨e, rfl, he⟩ := hfound
    obtain ⟨e', rfl, he'⟩ := hfound'
    exact hm.finish_alike_of_stored hfresh hfile hadmits hdata (he.trans he'.symm) now'

/-- A request to a handle comes to the same on a disk and on the store that it mirrors. -/
theorem Mirrors.outcome_alike (hm : d.Mirrors t₀ root t s) (hfresh : d.Fresh t₀ root marked)
    (h : Handle) {r : Request} (hadmits : d.Admits now t s r) (now' : Instant) :
    d.Alike t₀ root r.untimed (h.outcome (d.backend now) t r)
      (h.outcome (MemoryStore.backend now') s r) := by
  obtain ⟨i, hsnapshot, hi⟩ := hm.exists_snapshot hfresh now h.grants
  have hcall : d.backend now (.snapshot h.grants) t = (.ok i, t) := hsnapshot
  have hj := hm.represents.untimed_snapshot h.grants
  cases r with
  | list start =>
    rw [Handle.outcome, Handle.outcome, hcall]
    cases h.checkedStart start with
    | error why => exact ⟨rfl, hm⟩
    | ok limit =>
      have hlisted := Handle.map_untimed_listed limit fun p => (hi p).trans (hj p).symm
      exact ⟨congrArg Except.ok hlisted, hm⟩
  | file path task =>
    rw [Handle.outcome, Handle.outcome, hcall]
    cases happroved : h.approve path task with
    | error why => exact ⟨rfl, hm⟩
    | ok p =>
      obtain ⟨rfl, hpermits, hfile, -⟩ := Handle.approve_eq_ok happroved
      exact hm.finish_alike hfresh hfile hadmits (visible_of_permits hpermits) (hi p) (hj p) now'

/-- The disk and the store behind the same requests, made of both at their own times by handles with
the same grants, each write to a target. -/
inductive Paired (d : DiskStore) (t₀ : OsTree) (marked : Bytes) : OsTree → MemoryStore → Prop where
  | start (now : Instant) : Paired d t₀ marked t₀ (MemoryStore.empty.put now markerPath marked)
  | request {t : OsTree} {s : MemoryStore} (h : Handle) (r : Request) (now now' : Instant)
      (index index' : Snapshot) : Paired d t₀ marked t s → d.Admits now t s r →
      Paired d t₀ marked ((h.fulfil r).runWith (d.backend now) ⟨t, index⟩).2.store
        ((h.fulfil r).runWith (MemoryStore.backend now') ⟨s, index'⟩).2.store

theorem runWith_alike (hm : d.Mirrors t₀ root t s) (hfresh : d.Fresh t₀ root marked)
    (h : Handle) {r : Request} (hadmits : d.Admits now t s r) (now' : Instant)
    (index index' : Snapshot) :
    ((h.fulfil r).runWith (d.backend now) ⟨t, index⟩).1.map r.untimed =
        ((h.fulfil r).runWith (MemoryStore.backend now') ⟨s, index'⟩).1.map r.untimed ∧
      d.Mirrors t₀ root ((h.fulfil r).runWith (d.backend now) ⟨t, index⟩).2.store
        ((h.fulfil r).runWith (MemoryStore.backend now') ⟨s, index'⟩).2.store := by
  obtain ⟨_, hrun⟩ := Handle.fulfil_runWith (backend_snapshot_store now d h.grants t) r index
  have hs : (MemoryStore.backend now' (.snapshot h.grants) s).2 = s := rfl
  obtain ⟨_, hrun'⟩ := Handle.fulfil_runWith hs r index'
  have halike := hm.outcome_alike hfresh h hadmits now'
  rw [hrun, hrun']
  exact ⟨halike.reply, halike.mirrors⟩

theorem Paired.mirrors (hpaired : d.Paired t₀ marked t s) (hfresh : d.Fresh t₀ root marked) :
    d.Mirrors t₀ root t s := by
  induction hpaired with
  | start now => exact hfresh.mirrors now
  | request h r now now' index index' _ hadmits ih =>
    exact (runWith_alike ih hfresh h hadmits now' index index').2

/-- Behind any requests, the next one has the same reply on the disk and in memory, times aside. -/
theorem backends_agree (hfresh : d.Fresh t₀ root marked) (hpaired : d.Paired t₀ marked t s)
    (h : Handle) {r : Request} (hadmits : d.Admits now t s r) (now' : Instant)
    (index index' : Snapshot) :
    ((h.fulfil r).runWith (d.backend now) ⟨t, index⟩).1.map r.untimed =
      ((h.fulfil r).runWith (MemoryStore.backend now') ⟨s, index'⟩).1.map r.untimed :=
  (runWith_alike (hpaired.mirrors hfresh) hfresh h hadmits now' index index').1

/-- The store that goes with the plain roots when they have been opened. -/
def openedStore : MemoryStore :=
  MemoryStore.empty.put ⟨0, 0⟩ markerPath (Utf8.encode (⟨0, 0⟩ : Instant).offsetText)

theorem eq_of_openedStore (h : openedStore.content.get? p ≠ none) : p = markerPath := by
  by_contra hne
  refine h ?_
  show (SortedMap.insert ∅ markerPath _).get? p = none
  rw [SortedMap.get?_insert, if_neg hne]
  rfl

/-- After a write, listing everything tells the same. -/
theorem backends_agree_after_write :
    let h : Handle := .ofNamespaces [.internal, .workspace]
    let w : Request := .file "/workspace/a/b" (.write [1] false)
    let r : Request := .list none
    let root := fun ns : Namespace => [Utf8.encode ns.name]
    let marked := Utf8.encode (⟨0, 0⟩ : Instant).offsetText
    let t := ((h.fulfil w).runWith (plainStore.backend ⟨1, 0⟩) ⟨openedTree, ∅⟩).2.store
    let s := ((h.fulfil w).runWith (MemoryStore.backend ⟨2, 0⟩) ⟨openedStore, ∅⟩).2.store
    plainStore.Fresh openedTree root marked ∧ plainStore.Paired openedTree marked t s ∧
      plainStore.Admits ⟨3, 0⟩ t s r ∧
      ((h.fulfil r).runWith (plainStore.backend ⟨3, 0⟩) ⟨t, ∅⟩).1.map r.untimed =
        ((h.fulfil r).runWith (MemoryStore.backend ⟨4, 0⟩) ⟨s, ∅⟩).1.map r.untimed := by
  intro h w r root marked t s
  have hadmits : plainStore.Admits ⟨1, 0⟩ openedTree openedStore w := by
    intro p hp
    obtain rfl : p = ⟨"/workspace/a/b", by decide⟩ := Path.ext_text hp
    refine ⟨.workspace, ["a", "b"], ⟨by decide, by decide, fun x hx => ?_, by decide, by decide,
      fun q hq => ?_, fun q hq => ?_⟩, by decide +kernel, by decide +kernel⟩
    · cases hx
      decide
    · rw [eq_of_openedStore hq]
      show ¬ _ <+: _
      decide
    · rw [eq_of_openedStore hq]
      show ¬ _ <+: _
      decide
  have hpaired : plainStore.Paired openedTree marked t s :=
    .request h w ⟨1, 0⟩ ⟨2, 0⟩ ∅ ∅ (.start ⟨0, 0⟩) hadmits
  have hnext : plainStore.Admits ⟨3, 0⟩ t s r := trivial
  exact ⟨fresh_openedTree, hpaired, hnext,
    backends_agree fresh_openedTree hpaired h hnext ⟨4, 0⟩ ∅ ∅⟩

def deepFile : List Text :=
  List.replicate 16 (List.replicate 250 'c') ++ [List.replicate 30 'c', ['x']]

/-- The location of a file is not too long, but that of its draft is, so the file is put into memory
and not on the disk. -/
theorem backends_disagree_on_long_draft :
    let p : Path := ⟨pathText .workspace deepFile, by decide +kernel⟩
    let h : Handle := .ofNamespaces [.workspace]
    let r : Request := .file p.text (.write [1] false)
    let marked := Utf8.encode (⟨0, 0⟩ : Instant).offsetText
    plainStore.Fresh openedTree (fun ns => [Utf8.encode ns.name]) marked ∧
      plainStore.Paired openedTree marked openedTree openedStore ∧
      plainStore.Aim openedStore p .workspace deepFile ∧
      ((h.fulfil r).runWith (plainStore.backend ⟨0, 0⟩) ⟨openedTree, ∅⟩).1 =
        .error (.io .nameTooLong) ∧
      ((h.fulfil r).runWith (MemoryStore.backend ⟨0, 0⟩) ⟨openedStore, ∅⟩).1 =
        .ok (.written p 1 ⟨0, 0⟩) := by
  intro p h r marked
  have haim : plainStore.Aim openedStore p .workspace deepFile := by
    refine ⟨by decide +kernel, by decide +kernel, fun x hx => ?_, by decide +kernel,
      by decide +kernel, fun q hq => ?_, fun q hq => ?_⟩
    · have hlast : deepFile.getLast? = some ['x'] := by decide +kernel
      rw [hlast] at hx
      cases hx
      decide
    · rw [eq_of_openedStore hq]
      show ¬ _ <+: _
      decide +kernel
    · rw [eq_of_openedStore hq]
      show ¬ _ <+: _
      decide +kernel
  have hdisk : ((h.fulfil r).runWith (plainStore.backend ⟨0, 0⟩) ⟨openedTree, ∅⟩).1 =
      .error (.io .nameTooLong) := by
    decide +kernel
  have hmemory : ((h.fulfil r).runWith (MemoryStore.backend ⟨0, 0⟩) ⟨openedStore, ∅⟩).1 =
      .ok (.written p 1 ⟨0, 0⟩) := by
    decide +kernel
  exact ⟨fresh_openedTree, .start _, haim, hdisk, hmemory⟩

end DiskStore
end GrantFs
