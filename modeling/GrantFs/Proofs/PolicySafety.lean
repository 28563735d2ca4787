import GrantFs.Proofs.ToolEffect

/-! # Safety of the policy

What the policy forbids happens in no run of tool calls, however generous the grants are. Main
statement: between any two moments of a run, no supplied file disappears; while the policy lets
supplied material not be written none appears, and while it lets it not be edited either none
changes; and no file below `/internal/` or `/workspace/` disappears while the policy forbids to
delete it. -/
namespace GrantFs

namespace MemoryStore

/-- What `s` holds at the path, bytes or an entry, `t` holds too. -/
def Keeps (p : Path) (s t : MemoryStore) : Prop :=
  (s.content.get? p ≠ none → t.content.get? p ≠ none) ∧
    (s.entries.get? p ≠ none → t.entries.get? p ≠ none)

variable {p q : Path} {s t u : MemoryStore}

theorem Keeps.refl (p : Path) (s : MemoryStore) : Keeps p s s := ⟨id, id⟩

theorem Keeps.trans (hst : Keeps p s t) (htu : Keeps p t u) : Keeps p s u :=
  ⟨htu.1 ∘ hst.1, htu.2 ∘ hst.2⟩

theorem keeps_put (p q : Path) (s : MemoryStore) (now : Instant) (data : Bytes) :
    Keeps p s (s.put now q data) := by
  simp only [Keeps, MemoryStore.put, SortedMap.get?_insert]
  by_cases hp : p = q
  · simp [hp]
  · simp [hp]

end MemoryStore

open MemoryStore

namespace Service.Change

variable {s : Service} {now : Instant} {store store' : MemoryStore} {p : Path}

theorem keeps (h : s.Change now store store') (hp : s.policy.mayDelete p = false) :
    Keeps p store store' := by
  cases h with
  | unchanged => exact .refl p store
  | write data _ => exact keeps_put ..
  | edit data _ _ _ => exact keeps_put ..
  | @delete q hmay =>
    have hne : p ≠ q := by
      rintro rfl
      simp [hp] at hmay
    simp [Keeps, MemoryStore.remove, SortedMap.get?_erase, hne]

theorem kept_of_not_mayWrite (h : s.Change now store store') (hp : s.policy.mayWrite p = false) :
    Keeps p store' store := by
  cases h with
  | unchanged => exact .refl p store
  | @write q data hmay =>
    have hne : p ≠ q := by
      rintro rfl
      simp [hp] at hmay
    simp [Keeps, MemoryStore.put, SortedMap.get?_insert, hne]
  | @edit q data _ hstored hlisted =>
    by_cases hpq : p = q
    · subst hpq
      exact ⟨fun _ => hstored, fun _ => hlisted⟩
    · simp [Keeps, MemoryStore.put, SortedMap.get?_insert, hpq]
  | @delete q _ =>
    by_cases hpq : p = q
    · simp [Keeps, MemoryStore.remove, SortedMap.get?_erase, hpq]
    · simp [Keeps, MemoryStore.remove, SortedMap.get?_erase, hpq]

theorem cell_eq (h : s.Change now store store') (hwrite : s.policy.mayWrite p = false)
    (hedit : s.policy.mayEdit p = false) (hdelete : s.policy.mayDelete p = false) :
    store'.cell p = store.cell p := by
  cases h with
  | unchanged => rfl
  | write data hmay =>
    rw [cell_put, if_neg]
    rintro rfl
    simp [hwrite] at hmay
  | edit data hmay _ _ =>
    rw [cell_put, if_neg]
    rintro rfl
    simp [hedit] at hmay
  | delete hmay =>
    rw [cell_remove, if_neg]
    rintro rfl
    simp [hdelete] at hmay

end Service.Change

namespace Policy

variable {policy : Policy} {p : Path}

theorem mayWrite_userinput (h : Namespace.userinput.root.text <+: p.text) :
    policy.mayWrite p = policy.allowWriteUserinput := by
  simp [mayWrite, Namespace.of?_eq_some.mpr h]

theorem mayEdit_userinput (h : Namespace.userinput.root.text <+: p.text) :
    policy.mayEdit p = policy.allowEditUserinput := by
  simp [mayEdit, Namespace.of?_eq_some.mpr h]

theorem mayDelete_userinput (h : Namespace.userinput.root.text <+: p.text) :
    policy.mayDelete p = false := by
  simp only [mayDelete, Namespace.of?_eq_some.mpr h]

theorem mayDelete_internal (h : Namespace.internal.root.text <+: p.text) :
    policy.mayDelete p = policy.allowDeleteInternal := by
  simp only [mayDelete, Namespace.of?_eq_some.mpr h]

theorem mayDelete_workspace (h : Namespace.workspace.root.text <+: p.text) :
    policy.mayDelete p = policy.allowDeleteWorkspace := by
  simp only [mayDelete, Namespace.of?_eq_some.mpr h]

end Policy

namespace Service

variable {s : Service} {p : Path}

theorem callAll_keeps (hp : s.policy.mayDelete p = false) (calls : List ToolCall)
    (w : World MemoryStore) : Keeps p w.store (s.callAll backend calls w).2.store :=
  callAll_preserves (fun _ _ _ hchange hkept => hkept.trans (hchange.keeps hp)) calls
    (.refl p w.store)

theorem callAll_kept (hp : s.policy.mayWrite p = false) (calls : List ToolCall)
    (w : World MemoryStore) : Keeps p (s.callAll backend calls w).2.store w.store :=
  callAll_preserves (I := fun store => Keeps p store w.store)
    (fun _ _ _ hchange hkept => (hchange.kept_of_not_mayWrite hp).trans hkept) calls
    (.refl p w.store)

theorem callAll_cell_eq (hwrite : s.policy.mayWrite p = false) (hedit : s.policy.mayEdit p = false)
    (hdelete : s.policy.mayDelete p = false) (calls : List ToolCall) (w : World MemoryStore) :
    (s.callAll backend calls w).2.store.cell p = w.store.cell p :=
  callAll_preserves (I := fun store => store.cell p = w.store.cell p)
    (fun _ _ _ hchange hsame => (hchange.cell_eq hwrite hedit hdelete).trans hsame) calls rfl

end Service

/-- The rules hold between any two moments of a run, whatever the grants, the start and the calls.
-/
theorem policy_safety (s : Service) (earlier later : List ToolCall) (w : World MemoryStore)
    (p : Path) :
    let before := (s.callAll backend earlier w).2.store
    let after := (s.callAll backend (earlier ++ later) w).2.store
    (Namespace.userinput.root.text <+: p.text →
      Keeps p before after ∧
        (s.policy.allowWriteUserinput = false → Keeps p after before) ∧
        (s.policy.allowWriteUserinput = false → s.policy.allowEditUserinput = false →
          after.cell p = before.cell p)) ∧
      (Namespace.internal.root.text <+: p.text → s.policy.allowDeleteInternal = false →
        Keeps p before after) ∧
      (Namespace.workspace.root.text <+: p.text → s.policy.allowDeleteWorkspace = false →
        Keeps p before after) := by
  intro before after
  have hafter : after = (s.callAll backend later (s.callAll backend earlier w).2).2.store :=
    congrArg World.store (s.callAll_append backend earlier later w)
  rw [hafter]
  refine ⟨fun hp => ?_, fun hp hflag => ?_, fun hp hflag => ?_⟩
  · have hdelete : s.policy.mayDelete p = false := Policy.mayDelete_userinput hp
    refine ⟨Service.callAll_keeps hdelete later _, fun hwrite => ?_, fun hwrite hedit => ?_⟩
    · exact Service.callAll_kept ((Policy.mayWrite_userinput hp).trans hwrite) later _
    · exact Service.callAll_cell_eq ((Policy.mayWrite_userinput hp).trans hwrite)
        ((Policy.mayEdit_userinput hp).trans hedit) hdelete later _
  · exact Service.callAll_keeps ((Policy.mayDelete_internal hp).trans hflag) later _
  · exact Service.callAll_keeps ((Policy.mayDelete_workspace hp).trans hflag) later _

/-- With every operation granted on `/`, the default policy still keeps a supplied file as it is and
a file below `/internal/` in existence. -/
theorem policy_safety_of_all_grants :
    let s : Service := ⟨⟨[.ofOps ⟨"/", by decide⟩ Operation.all]⟩, {}⟩
    let supplied : Path := ⟨"/userinput/a", by decide⟩
    let secret : Path := ⟨"/internal/key", by decide⟩
    let start := (MemoryStore.empty.put ⟨0, 0⟩ supplied [1]).put ⟨0, 0⟩ secret [2]
    s.handle.permits supplied.text .delete = true ∧ s.handle.permits secret.text .delete = true ∧
      ∀ calls : List ToolCall,
        let last := (s.callAll backend calls ⟨start, ∅⟩).2.store
        last.content.get? supplied = some [1] ∧ last.content.get? secret ≠ none := by
  intro s supplied secret start
  refine ⟨by decide, by decide, fun calls => ?_⟩
  have hsupplied := (policy_safety s [] calls ⟨start, ∅⟩ supplied).1 (by decide)
  have hsecret := (policy_safety s [] calls ⟨start, ∅⟩ secret).2.1 (by decide) rfl
  have hcell := hsupplied.2.2 rfl rfl
  refine ⟨?_, hsecret.1 (by decide)⟩
  exact (congrArg Prod.fst hcell).trans (by decide)

end GrantFs
