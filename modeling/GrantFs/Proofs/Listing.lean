import GrantFs.Proofs.HandleRun
import GrantFs.Proofs.Memory
import GrantFs.Proofs.Utf8

/-! # Listings

A listing is authorized once, on the prefix it is asked for, and its entries are then selected by
two other tests: visibility in the snapshot and the prefix. Main statement: a listing succeeds
exactly if some grant carries it for that prefix, and then it has all stored files below the prefix
and no others, in the order of the bytes of their paths, whatever else is granted. -/
namespace GrantFs

namespace MemoryStore

/-- What an action comes to on a store, with `index` as what is in the index. -/
def reply {α : Type} (s : MemoryStore) (now : Instant) (index : Snapshot) (x : Action α) :
    Except Fault α :=
  (x.runWith (backend now) ⟨s, index⟩).1

inductive Built : MemoryStore → Prop where
  | empty : Built .empty
  | call {s : MemoryStore} (now : Instant) (c : Call) : Built s → Built (backend now c s).2

theorem Built.represents {s : MemoryStore} (h : Built s) : ∃ m, Represents s m := by
  induction h with
  | empty => exact ⟨∅, represents_empty⟩
  | call now c _ ih =>
    obtain ⟨m, hm⟩ := ih
    exact (backend_effect now c _).represents hm

/-- The list has the entries of those stored files whose paths are shown, and is in strictly
ascending order of the bytes of the paths, so it has each of them once. -/
structure Lists (s : MemoryStore) (shown : Text → Prop) (l : List Entry) : Prop where
  entries : ∀ e, e ∈ l ↔ s.entries.get? e.path = some e ∧ shown e.path.text
  files : ∀ p : Path, p ∈ l.map (·.path) ↔ s.content.get? p ≠ none ∧ shown p.text
  ordered : l.Pairwise fun a b =>
    compare (Utf8.encode a.path.text) (Utf8.encode b.path.text) = .lt

namespace Represents

variable {s : MemoryStore} {m : Contents}

theorem path_eq (h : Represents s m) {p : Path} {e : Entry} (he : s.entries.get? p = some e) :
    e.path = p := by
  have hstored : m.get? p ≠ none := by
    intro hnone
    rw [(h.listed p).mpr hnone] at he
    cases he
  obtain ⟨data, hdata⟩ := Option.ne_none_iff_exists'.mp hstored
  exact (h.described p e data he hdata).1

theorem mem_values (h : Represents s m) {e : Entry} :
    e ∈ s.entries.values ↔ s.entries.get? e.path = some e := by
  rw [SortedMap.mem_values]
  constructor
  · rintro ⟨p, hp⟩
    rw [h.path_eq hp]
    exact hp
  · intro he
    exact ⟨e.path, he⟩

theorem values_ordered (h : Represents s m) :
    s.entries.values.Pairwise fun a b => compare a.path b.path = .lt := by
  refine List.pairwise_map.mpr (s.entries.ascending.imp_of_mem ?_)
  rintro ⟨p, e⟩ ⟨q, f⟩ he hf hlt
  rw [h.path_eq (SortedMap.get?_eq_some.mpr he), h.path_eq (SortedMap.get?_eq_some.mpr hf)]
  exact hlt

theorem entry_isSome_iff (h : Represents s m) (p : Path) :
    (∃ e, s.entries.get? p = some e) ↔ s.content.get? p ≠ none := by
  rw [h.content, ← Option.ne_none_iff_exists', not_iff_not]
  exact h.listed p

theorem lists_filter (h : Represents s m) (keep : Text → Bool) :
    s.Lists (keep · = true) (s.entries.values.filter fun e => keep e.path.text) := by
  have hentries : ∀ e, e ∈ s.entries.values.filter (fun e => keep e.path.text) ↔
      s.entries.get? e.path = some e ∧ keep e.path.text = true := by
    intro e
    rw [List.mem_filter, h.mem_values]
  refine ⟨hentries, ?_, ?_⟩
  · intro p
    rw [List.mem_map, ← h.entry_isSome_iff]
    constructor
    · rintro ⟨e, he, rfl⟩
      obtain ⟨hget, hkeep⟩ := (hentries e).mp he
      exact ⟨⟨e, hget⟩, hkeep⟩
    · rintro ⟨⟨e, hget⟩, hkeep⟩
      have hpath := h.path_eq hget
      subst hpath
      exact ⟨e, (hentries e).mpr ⟨hget, hkeep⟩, rfl⟩
  · apply (h.values_ordered.filter _).imp
    intro a b hlt
    rw [Utf8.compare_encode]
    exact hlt

theorem values_filter (h : Represents s m) (keep : Path → Bool) :
    (s.entries.filter fun p _ => keep p).values = s.entries.values.filter fun e => keep e.path := by
  rw [SortedMap.values, SortedMap.filter, SortedMap.values, List.filter_map]
  congr 1
  apply List.filter_congr
  rintro ⟨p, e⟩ he
  simp only [Function.comp_apply, h.path_eq (SortedMap.get?_eq_some.mpr he)]

end Represents

theorem values_snapshot (s : MemoryStore) {m : Contents} (h : Represents s m)
    (grants : List Grant) :
    (s.snapshot grants).values = s.entries.values.filter fun e => isVisible grants e.path.text :=
  h.values_filter fun p => isVisible grants p.text

end MemoryStore

namespace Handle

variable {h : Handle} {s : MemoryStore} {m : Contents} {now : Instant} {index : Snapshot}

theorem checkedStart_eq_ok {p : Path} {limit : Option Path} :
    h.checkedStart (some p.text) = .ok limit ↔
      limit = some p ∧ ∃ g ∈ h.grants, g.root.text <+: p.text ∧ .list ∈ g.ops := by
  rw [← permits_iff]
  by_cases hpermits : h.permits p.text .list = true
  · rw [checkedStart_of_permits hpermits, Except.ok.injEq]
    constructor
    · rintro rfl
      exact ⟨rfl, hpermits⟩
    · rintro ⟨rfl, -⟩
      rfl
  · rw [checkedStart, checked_text, if_neg hpermits]
    constructor
    · intro hlimit
      cases hlimit
    · rintro ⟨-, hgrant⟩
      exact absurd hgrant hpermits

theorem checkedStart_none_eq_ok {limit : Option Path} :
    h.checkedStart none = .ok limit ↔ limit = none ∧ ∃ g ∈ h.grants, .list ∈ g.ops := by
  have hany : h.grants.any (·.allows .list) = true ↔ ∃ g ∈ h.grants, .list ∈ g.ops := by
    simp only [List.any_eq_true, Grant.allows_iff]
  rw [checkedStart, ← hany]
  cases h.grants.any (·.allows .list) with
  | false => simp
  | true => simp [eq_comm]

theorem reply_list_eq_ok {start : Option Text} {l : List Entry} :
    s.reply now index (h.list start) = .ok l ↔
      ∃ limit, h.checkedStart start = .ok limit ∧ l = listed limit (s.snapshot h.grants) := by
  have hs : (MemoryStore.backend now (.snapshot h.grants) s).2 = s := rfl
  obtain ⟨_, hrun⟩ := fulfil_runWith hs (.list start) index
  have hreply : s.reply now index (h.list start) =
      (h.outcome (MemoryStore.backend now) s (.list start)).1 := congrArg Prod.fst hrun
  rw [hreply, outcome]
  cases h.checkedStart start with
  | error why => simp
  | ok limit =>
    show Except.ok (listed limit (s.snapshot h.grants)) = Except.ok l ↔ _
    simp [eq_comm]

theorem reply_list_none_eq_ok {l : List Entry} (hm : s.Represents m) :
    s.reply now index (h.list none) = .ok l ↔
      (∃ g ∈ h.grants, .list ∈ g.ops) ∧
        l = s.entries.values.filter fun e => isVisible h.grants e.path.text := by
  rw [reply_list_eq_ok, ← s.values_snapshot hm]
  constructor
  · rintro ⟨limit, hlimit, rfl⟩
    obtain ⟨rfl, hgrant⟩ := checkedStart_none_eq_ok.mp hlimit
    exact ⟨hgrant, rfl⟩
  · rintro ⟨hgrant, rfl⟩
    exact ⟨none, checkedStart_none_eq_ok.mpr ⟨rfl, hgrant⟩, rfl⟩

/-- A grant whose root `p` begins with makes all visible that begins with `p`, so visibility takes
nothing away there. -/
theorem filter_visible_below {p : Path} (hgrant : ∃ g ∈ h.grants, g.root.text <+: p.text)
    (l : List Entry) :
    (l.filter fun e => isVisible h.grants e.path.text).filter (·.path.startsWith p.text) =
      l.filter fun e => p.text.isPrefixOf e.path.text := by
  obtain ⟨g, hg, hroot⟩ := hgrant
  rw [List.filter_filter]
  apply List.filter_congr
  intro e _
  rw [Path.startsWith, Bool.and_eq_left_iff_imp]
  intro hbelow
  exact isVisible_iff.mpr ⟨g, hg, hroot.trans (List.isPrefixOf_iff_prefix.mp hbelow)⟩

theorem reply_list_some_eq_ok {l : List Entry} (hm : s.Represents m) {p : Path} :
    s.reply now index (h.list (some p.text)) = .ok l ↔
      (∃ g ∈ h.grants, g.root.text <+: p.text ∧ .list ∈ g.ops) ∧
        l = s.entries.values.filter fun e => p.text.isPrefixOf e.path.text := by
  have hselect : (∃ g ∈ h.grants, g.root.text <+: p.text ∧ .list ∈ g.ops) →
      listed (some p) (s.snapshot h.grants) =
        s.entries.values.filter fun e => p.text.isPrefixOf e.path.text := by
    rintro ⟨g, hg, hroot, -⟩
    rw [listed, s.values_snapshot hm]
    exact filter_visible_below ⟨g, hg, hroot⟩ _
  rw [reply_list_eq_ok]
  constructor
  · rintro ⟨limit, hlimit, rfl⟩
    obtain ⟨rfl, hgrant⟩ := checkedStart_eq_ok.mp hlimit
    exact ⟨hgrant, hselect hgrant⟩
  · rintro ⟨hgrant, rfl⟩
    exact ⟨some p, checkedStart_eq_ok.mpr ⟨rfl, hgrant⟩, (hselect hgrant).symm⟩

/-- On every store that backend calls leave behind, under any grants and whatever is in the index: a
listing below `p` succeeds exactly if some grant that carries listing has a root that `p` begins
with, and then it is the listing of all files whose paths begin with `p`; a listing of everything
succeeds exactly if some grant carries listing, and has what is visible under at least one grant.
The former is the part of the latter that begins with `p`. -/
theorem listing_sound_complete (hs : s.Built) (h : Handle) (now : Instant) (index : Snapshot) :
    (∀ p : Path,
      ((∃ l, s.reply now index (h.list (some p.text)) = .ok l) ↔
        ∃ g ∈ h.grants, g.root.text <+: p.text ∧ .list ∈ g.ops) ∧
      ∀ l, s.reply now index (h.list (some p.text)) = .ok l →
        s.Lists (p.text <+: ·) l ∧ (∀ e ∈ l, h.permits e.path.text .list = true) ∧
        ∃ all, s.reply now index (h.list none) = .ok all ∧
          l = all.filter (·.path.startsWith p.text)) ∧
    ((∃ l, s.reply now index (h.list none) = .ok l) ↔ ∃ g ∈ h.grants, .list ∈ g.ops) ∧
    ∀ l, s.reply now index (h.list none) = .ok l →
      s.Lists (fun path => ∃ g ∈ h.grants, g.root.text <+: path) l := by
  obtain ⟨m, hm⟩ := hs.represents
  refine ⟨?_, ?_, ?_⟩
  · intro p
    constructor
    · constructor
      · rintro ⟨l, hl⟩
        exact ((reply_list_some_eq_ok hm).mp hl).1
      · intro hgrant
        exact ⟨_, (reply_list_some_eq_ok hm).mpr ⟨hgrant, rfl⟩⟩
    · intro l hl
      obtain ⟨⟨g, hg, hroot, hlist⟩, rfl⟩ := (reply_list_some_eq_ok hm).mp hl
      have hlists := hm.lists_filter p.text.isPrefixOf
      simp only [List.isPrefixOf_iff_prefix] at hlists
      refine ⟨hlists, ?_, ?_⟩
      · intro e he
        have hbelow : p.text <+: e.path.text := ((hlists.entries e).mp he).2
        exact permits_iff.mpr ⟨g, hg, hroot.trans hbelow, hlist⟩
      · refine ⟨_, (reply_list_none_eq_ok hm).mpr ⟨⟨g, hg, hlist⟩, rfl⟩, ?_⟩
        exact (filter_visible_below ⟨g, hg, hroot⟩ _).symm
  · constructor
    · rintro ⟨l, hl⟩
      exact ((reply_list_none_eq_ok hm).mp hl).1
    · intro hgrant
      exact ⟨_, (reply_list_none_eq_ok hm).mpr ⟨hgrant, rfl⟩⟩
  · intro l hl
    obtain ⟨-, rfl⟩ := (reply_list_none_eq_ok hm).mp hl
    have hlists := hm.lists_filter (isVisible h.grants)
    simp only [isVisible_iff] at hlists
    exact hlists

/-- Two of three stored files continue the prefix `/workspace/a`, which ends inside a name; one
grant covers it and another one covers only one of the two. -/
theorem listing_of_two_below_prefix :
    let p : Path := ⟨"/workspace/a", by decide⟩
    let q : Path := ⟨"/workspace/ab/c", by decide⟩
    let r : Path := ⟨"/workspace/b", by decide⟩
    let s := ((MemoryStore.empty.put ⟨0, 0⟩ q [1]).put ⟨1, 0⟩ r [2]).put ⟨2, 0⟩ p [3]
    let h : Handle := ⟨[.ofOps q [.readBytes], .ofOps ⟨"/workspace/", by decide⟩ [.list]]⟩
    s.Built ∧ ∃ l, s.reply ⟨3, 0⟩ ∅ (h.list (some p.text)) = .ok l ∧ l.map (·.path) = [p, q] ∧
      s.Lists (p.text <+: ·) l := by
  intro p q r s h
  have hs : s.Built :=
    ((MemoryStore.Built.empty.call ⟨0, 0⟩ (.write q [1] true)).call ⟨1, 0⟩
      (.write r [2] true)).call ⟨2, 0⟩ (.write p [3] true)
  obtain ⟨hsome, -⟩ := listing_sound_complete hs h ⟨3, 0⟩ ∅
  have hgrant : ∃ g ∈ h.grants, g.root.text <+: p.text ∧ .list ∈ g.ops :=
    ⟨_, List.mem_cons_of_mem _ (List.mem_singleton.mpr rfl), by decide⟩
  obtain ⟨l, hl⟩ := (hsome p).1.mpr hgrant
  refine ⟨hs, l, hl, ?_, ((hsome p).2 l hl).1⟩
  have hpaths : (s.reply ⟨3, 0⟩ ∅ (h.list (some p.text))).map (·.map (·.path)) = .ok [p, q] := by
    decide +kernel
  rw [hl] at hpaths
  exact Except.ok.inj hpaths

end Handle
end GrantFs
