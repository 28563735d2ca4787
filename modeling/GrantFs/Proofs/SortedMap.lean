import GrantFs.SortedMap
import Mathlib.Data.List.Sort

/-! # Lookups in sorted maps

A map is determined by its lookups, and every operation is described by what it does to them. -/
namespace GrantFs.SortedMap

variable {κ α : Type} [Ord κ]

@[simp] theorem get?_empty (k : κ) : (∅ : SortedMap κ α).get? k = none := rfl

theorem contains_eq (m : SortedMap κ α) (k : κ) : m.contains k = (m.get? k).isSome := rfl

theorem pairwise_map_values {β : Type} (m : SortedMap κ α) (f : α → β) :
    (m.entries.map fun e => (e.1, f e.2)).Pairwise fun a b => compare a.1 b.1 = .lt :=
  List.pairwise_map.mpr m.ascending

theorem lookupEntry_of_lt {k : κ} {l : List (κ × α)} (h : ∀ e ∈ l, compare k e.1 = .lt) :
    lookupEntry k l = none := by
  induction l with
  | nil => rfl
  | cons e rest ih =>
    obtain ⟨hhead, hrest⟩ := List.forall_mem_cons.mp h
    rw [lookupEntry, hhead]
    exact (if_neg (by decide)).trans (ih hrest)

theorem lookupEntry_map {β : Type} (f : α → β) (k : κ) (l : List (κ × α)) :
    lookupEntry k (l.map fun e => (e.1, f e.2)) = (lookupEntry k l).map f := by
  induction l with
  | nil => rfl
  | cons e rest ih =>
    rw [List.map_cons, lookupEntry, lookupEntry, ih]
    split <;> rfl

theorem insertEntry_map {β : Type} (f : α → β) (k : κ) (a : α) (l : List (κ × α)) :
    insertEntry k (f a) (l.map fun e => (e.1, f e.2)) =
      (insertEntry k a l).map fun e => (e.1, f e.2) := by
  induction l with
  | nil => rfl
  | cons e rest ih =>
    rw [List.map_cons, insertEntry, insertEntry, ih]
    split <;> rfl

variable [Std.LawfulEqOrd κ]

theorem mem_keys {m : SortedMap κ α} {k : κ} : k ∈ m.keys ↔ m.contains k = true := by
  simp [keys, contains_eq, Option.isSome_iff_exists, get?_eq_some]

theorem mem_values {m : SortedMap κ α} {a : α} : a ∈ m.values ↔ ∃ k, m.get? k = some a := by
  simp [values, get?_eq_some]

variable [Std.TransOrd κ]

theorem ext_get? {m n : SortedMap κ α} (h : ∀ k, m.get? k = n.get? k) : m = n := by
  have hmem : ∀ e, e ∈ m.entries ↔ e ∈ n.entries := by
    rintro ⟨k, a⟩
    rw [← get?_eq_some, ← get?_eq_some, h]
  have : Std.Irrefl fun a b : κ × α => compare a.1 b.1 = .lt := ⟨fun a => by simp⟩
  have : Std.Antisymm fun a b : κ × α => compare a.1 b.1 = .lt := by
    refine ⟨fun a b hab hba => ?_⟩
    have hgt := Std.OrientedCmp.gt_of_lt hba
    simp [hab] at hgt
  have hentries : m.entries = n.entries := m.ascending.eq_of_mem_iff n.ascending hmem
  cases m
  cases n
  cases hentries
  rfl

/-- Maps whose lookups have the same images list the same keys with the same images, in the same
order. -/
theorem map_entries_eq {β γ : Type} {m : SortedMap κ α} {n : SortedMap κ β} (f : α → γ) (g : β → γ)
    (h : ∀ k, (m.get? k).map f = (n.get? k).map g) :
    m.entries.map (fun e => (e.1, f e.2)) = n.entries.map fun e => (e.1, g e.2) := by
  have himage : ∀ {δ : Type} (l : SortedMap κ δ) (f : δ → γ) (k : κ),
      (⟨_, l.pairwise_map_values f⟩ : SortedMap κ γ).get? k = (l.get? k).map f :=
    fun l f k => lookupEntry_map f k l.entries
  have heq : (⟨_, m.pairwise_map_values f⟩ : SortedMap κ γ) = ⟨_, n.pairwise_map_values g⟩ :=
    ext_get? fun k => by rw [himage, himage, h]
  exact congrArg entries heq

theorem map_values_eq {β : Type} {m n : SortedMap κ α} (f : α → β)
    (h : ∀ k, (m.get? k).map f = (n.get? k).map f) : m.values.map f = n.values.map f := by
  have hvalues := congrArg (List.map Prod.snd) (map_entries_eq f f h)
  simpa [values, List.map_map, Function.comp_def] using hvalues

theorem get?_alter [DecidableEq κ] (m : SortedMap κ α) (k k' : κ) (f : Option α → α) :
    (m.alter k f).get? k' = if k' = k then some (f (m.get? k)) else m.get? k' :=
  m.get?_insert k k' _

theorem filter_key [DecidableEq κ] (m : SortedMap κ α) (k : κ) :
    (m.filter fun k' _ => k' = k).values = (m.get? k).toList := by
  have hone : (m.filter fun k' _ => k' = k) =
      (m.get? k).elim ∅ fun a => (∅ : SortedMap κ α).insert k a := by
    apply ext_get?
    intro k'
    rw [get?_filter]
    by_cases hk : k' = k
    · subst hk
      cases m.get? k' with
      | none => rfl
      | some a => simp [get?_insert]
    · cases m.get? k with
      | none => cases m.get? k' <;> simp [hk]
      | some a => cases m.get? k' <;> simp [get?_insert, hk]
  rw [hone]
  cases m.get? k <;> rfl

end GrantFs.SortedMap
