import GrantFs.Proofs.Grant
import GrantFs.Proofs.Request
import GrantFs.Proofs.SortedMap
import GrantFs.Store.Memory

/-! # The store in memory

What a call can do to a store, path by path. Main statements: a call leaves the store as it is, or
puts a file at the path it names, or removes the file there; and in every store that handles can
reach the two maps stand for one map of contents. -/
namespace GrantFs

abbrev Contents := SortedMap Path Bytes

namespace MemoryStore

def cell (s : MemoryStore) (p : Path) : Option Bytes × Option Entry :=
  (s.content.get? p, s.entries.get? p)

def put (s : MemoryStore) (now : Instant) (p : Path) (data : Bytes) : MemoryStore :=
  ⟨s.content.insert p data, s.entries.insert p (.written p data.length now)⟩

def remove (s : MemoryStore) (p : Path) : MemoryStore := ⟨s.content.erase p, s.entries.erase p⟩

variable {s : MemoryStore} {now : Instant} {p q : Path} {data : Bytes}

theorem cell_put (s : MemoryStore) (now : Instant) (p q : Path) (data : Bytes) :
    (s.put now p data).cell q =
      if q = p then (some data, some (.written p data.length now)) else s.cell q := by
  simp only [cell, put, SortedMap.get?_insert]
  split <;> rfl

theorem cell_remove (s : MemoryStore) (p q : Path) :
    (s.remove p).cell q = if q = p then (none, none) else s.cell q := by
  simp only [cell, remove, SortedMap.get?_erase]
  split <;> rfl

inductive Effect (now : Instant) (s : MemoryStore) : Call → MemoryStore → Prop where
  | unchanged (c : Call) : Effect now s c s
  | put {p : Path} {data : Bytes} {overwrite : Bool} :
      (overwrite = false → s.content.get? p = none) →
      Effect now s (.write p data overwrite) (s.put now p data)
  | remove {p : Path} : s.content.get? p ≠ none → Effect now s (.delete p) (s.remove p)

theorem write_of_vacant {overwrite : Bool} (h : overwrite = false → s.content.get? p = none) :
    s.write now p data overwrite = (.ok (.written p data.length now), s.put now p data) := by
  cases overwrite with
  | true => rfl
  | false => simp [write, SortedMap.contains_eq, h rfl, put]

theorem write_of_taken (h : s.content.get? p ≠ none) :
    s.write now p data false = (.error (.conflict p.text), s) := by
  simp [write, SortedMap.contains_eq, Option.isSome_iff_ne_none, h]

theorem write_cases (s : MemoryStore) (now : Instant) (p : Path) (data : Bytes)
    (overwrite : Bool) :
    s.write now p data overwrite = (.error (.conflict p.text), s) ∨
      s.write now p data overwrite = (.ok (.written p data.length now), s.put now p data) := by
  by_cases h : overwrite = false ∧ s.content.get? p ≠ none
  · obtain ⟨rfl, htaken⟩ := h
    exact .inl (write_of_taken htaken)
  · exact .inr (write_of_vacant (by simpa using h))

theorem delete_of_stored (h : s.content.get? p ≠ none) : s.delete p = (.ok (), s.remove p) := by
  simp [delete, SortedMap.contains_eq, Option.isSome_iff_ne_none, h, remove]

theorem delete_of_absent (h : s.content.get? p = none) :
    s.delete p = (.error (.notFound p.text), s) := by
  simp [delete, SortedMap.contains_eq, h]

theorem backend_effect (now : Instant) (c : Call) (s : MemoryStore) :
    Effect now s c (backend now c s).2 := by
  cases c with
  | write p data overwrite =>
    by_cases h : overwrite = false ∧ s.content.get? p ≠ none
    · obtain ⟨rfl, hp⟩ := h
      simp only [backend, write_of_taken hp]
      exact .unchanged _
    · have hvacant : overwrite = false → s.content.get? p = none := by simpa using h
      simp only [backend, write_of_vacant hvacant]
      exact .put hvacant
  | delete p =>
    by_cases h : s.content.get? p = none
    · simp only [backend, delete_of_absent h]
      exact .unchanged _
    · simp only [backend, delete_of_stored h]
      exact .remove h
  | _ => exact .unchanged _

theorem Effect.cell_eq {c : Call} {t : MemoryStore} (h : Effect now s c t)
    (hwrite : ∀ data overwrite, c ≠ .write p data overwrite) (hdelete : c ≠ .delete p) :
    t.cell p = s.cell p := by
  cases h with
  | unchanged => rfl
  | @put q data overwrite _ =>
    rw [cell_put, if_neg]
    rintro rfl
    exact hwrite data overwrite rfl
  | @remove q _ =>
    rw [cell_remove, if_neg]
    rintro rfl
    exact hdelete rfl

theorem get?_snapshot (s : MemoryStore) (grants : List Grant) (p : Path) :
    (s.snapshot grants).get? p = if isVisible grants p.text then s.entries.get? p else none := by
  rw [snapshot, SortedMap.get?_filter]
  cases s.entries.get? p with
  | none => exact (ite_self none).symm
  | some e => rfl

theorem get?_snapshot_of_permits {grants : List Grant} {op : Operation} (s : MemoryStore)
    (h : permits grants p.text op = true) : (s.snapshot grants).get? p = s.entries.get? p := by
  rw [get?_snapshot, if_pos (visible_of_permits h)]

/-- The contents are those of `m`, and the entries describe exactly its files. -/
structure Represents (s : MemoryStore) (m : Contents) : Prop where
  content : s.content = m
  listed : ∀ p, s.entries.get? p = none ↔ m.get? p = none
  described : ∀ p e data, s.entries.get? p = some e → m.get? p = some data →
    e.path = p ∧ e.size = some data.length

theorem represents_empty : Represents .empty ∅ := by
  refine ⟨rfl, fun p => by simp [empty], fun p e data he _ => ?_⟩
  simp [empty] at he

theorem Represents.put {m : Contents} (h : Represents s m) (now : Instant) (p : Path)
    (data : Bytes) : Represents (s.put now p data) (m.insert p data) := by
  refine ⟨by rw [MemoryStore.put, h.content], fun q => ?_, fun q e bytes he hbytes => ?_⟩
  · rw [MemoryStore.put, SortedMap.get?_insert, SortedMap.get?_insert]
    by_cases hq : q = p
    · simp [hq]
    · simpa [hq] using h.listed q
  · rw [MemoryStore.put, SortedMap.get?_insert] at he
    rw [SortedMap.get?_insert] at hbytes
    by_cases hq : q = p
    · simp only [hq, if_true, Option.some.injEq] at he hbytes
      subst he hbytes
      exact ⟨hq.symm, rfl⟩
    · simp only [hq, if_false] at he hbytes
      exact h.described q e bytes he hbytes

theorem Represents.remove {m : Contents} (h : Represents s m) (p : Path) :
    Represents (s.remove p) (m.erase p) := by
  refine ⟨by rw [MemoryStore.remove, h.content], fun q => ?_, fun q e bytes he hbytes => ?_⟩
  · rw [MemoryStore.remove, SortedMap.get?_erase, SortedMap.get?_erase]
    by_cases hq : q = p
    · simp [hq]
    · simpa [hq] using h.listed q
  · rw [MemoryStore.remove, SortedMap.get?_erase] at he
    rw [SortedMap.get?_erase] at hbytes
    by_cases hq : q = p
    · simp [hq] at he
    · simp only [hq, if_false] at he hbytes
      exact h.described q e bytes he hbytes

theorem Effect.represents {c : Call} {t : MemoryStore} (h : Effect now s c t) {m : Contents}
    (hm : Represents s m) : ∃ m', Represents t m' := by
  cases h with
  | unchanged => exact ⟨m, hm⟩
  | put => exact ⟨_, hm.put now _ _⟩
  | remove => exact ⟨_, hm.remove _⟩

/-- The stores that a sequence of requests to any handles leaves behind, whatever is in the index of
each handle. -/
inductive Reachable : MemoryStore → Prop where
  | empty : Reachable .empty
  | request {s : MemoryStore} (h : Handle) (r : Request) (now : Instant) (index : Snapshot) :
      Reachable s → Reachable ((h.fulfil r).runWith (backend now) ⟨s, index⟩).2.store

theorem Reachable.represents (h : Reachable s) : ∃ m, Represents s m := by
  induction h with
  | empty => exact ⟨∅, represents_empty⟩
  | request h r now index _ ih =>
    refine (h.fulfil_asks r).store_preserved (I := fun s => ∃ m, Represents s m) ?_ ih
    rintro c s - ⟨m, hm⟩
    exact (backend_effect now c s).represents hm

end MemoryStore
end GrantFs
