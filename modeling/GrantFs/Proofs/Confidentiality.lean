import GrantFs.Proofs.Memory
import GrantFs.Proofs.Tools

/-! # Confidentiality of grants

Two stores look alike under some grants if they agree at every visible path; elsewhere they may
differ in any way. What a handle may ask of a store is answered alike by such stores, keeps them
alike, and leaves alone what is not visible. Main statement: so does every sequence of tool calls.
-/
namespace GrantFs

namespace MemoryStore

/-- The stores hold the same bytes and entries at every visible path. -/
def SameView (grants : List Grant) (s t : MemoryStore) : Prop :=
  ∀ p : Path, isVisible grants p.text = true → s.cell p = t.cell p

def SameHidden (grants : List Grant) (s t : MemoryStore) : Prop :=
  ∀ p : Path, isVisible grants p.text = false → s.cell p = t.cell p

variable {grants : List Grant} {s t : MemoryStore}

theorem SameView.snapshot_eq (h : SameView grants s t) : s.snapshot grants = t.snapshot grants := by
  refine SortedMap.ext_get? fun p => ?_
  rw [get?_snapshot, get?_snapshot]
  by_cases hp : isVisible grants p.text = true
  · have hcell := h p hp
    simp only [cell, Prod.mk.injEq] at hcell
    rw [hcell.2]
  · rw [if_neg hp, if_neg hp]

theorem SameView.put (h : SameView grants s t) (now : Instant) (p : Path) (data : Bytes) :
    SameView grants (s.put now p data) (t.put now p data) := by
  intro q hq
  rw [cell_put, cell_put, h q hq]

theorem SameView.remove (h : SameView grants s t) (p : Path) :
    SameView grants (s.remove p) (t.remove p) := by
  intro q hq
  rw [cell_remove, cell_remove, h q hq]

theorem SameView.file_call (h : SameView grants s t) {p : Path} {task : FileTask} {c : Call}
    (hp : permits grants p.text task.operation = true) (hc : task.call? p = some c)
    (now : Instant) :
    (backend now c s).1 = (backend now c t).1 ∧
      SameView grants (backend now c s).2 (backend now c t).2 := by
  have hcell := h p (visible_of_permits hp)
  simp only [cell, Prod.mk.injEq] at hcell
  have hread : s.read p = t.read p := by rw [MemoryStore.read, MemoryStore.read, hcell.1]
  cases task with
  | inspect => cases hc
  | readBytes =>
    cases hc
    exact ⟨hread, h⟩
  | readText index count =>
    cases hc
    simp only [backend, hread]
    exact ⟨trivial, h⟩
  | readMatches pattern overlap =>
    cases hc
    simp only [backend, hread]
    exact ⟨trivial, h⟩
  | write data overwrite =>
    cases hc
    simp only [backend]
    by_cases htaken : overwrite = false ∧ s.content.get? p ≠ none
    · obtain ⟨rfl, hs⟩ := htaken
      have ht : t.content.get? p ≠ none := by rwa [← hcell.1]
      rw [write_of_taken hs, write_of_taken ht]
      exact ⟨rfl, h⟩
    · have hs : overwrite = false → s.content.get? p = none := by simpa using htaken
      have ht : overwrite = false → t.content.get? p = none := by rwa [← hcell.1]
      rw [write_of_vacant hs, write_of_vacant ht]
      exact ⟨rfl, h.put now p data⟩
  | delete =>
    cases hc
    simp only [backend]
    by_cases hs : s.content.get? p = none
    · have ht : t.content.get? p = none := by rwa [← hcell.1]
      rw [delete_of_absent hs, delete_of_absent ht]
      exact ⟨rfl, h⟩
    · have ht : t.content.get? p ≠ none := by rwa [← hcell.1]
      rw [delete_of_stored hs, delete_of_stored ht]
      exact ⟨rfl, h.remove p⟩

end MemoryStore

namespace Handle

open MemoryStore

variable {h : Handle} {s t : MemoryStore} {c : Call}

theorem MayDo.same_view (hc : h.MayDo c) (hview : SameView h.grants s t) (now : Instant) :
    (backend now c s).1 = (backend now c t).1 ∧
      SameView h.grants (backend now c s).2 (backend now c t).2 := by
  obtain ⟨r, hmay⟩ := hc
  cases hmay with
  | snapshot => exact ⟨congrArg Except.ok hview.snapshot_eq, hview⟩
  | file hpermits hcall => exact hview.file_call hpermits hcall now

theorem MayDo.same_hidden (hc : h.MayDo c) (hhidden : SameHidden h.grants s t) (now : Instant) :
    SameHidden h.grants s (backend now c t).2 := by
  intro p hp
  obtain ⟨r, hmay⟩ := hc
  have hforbidden : ∀ op, h.permits p.text op ≠ true := by
    intro op hpermits
    have hvisible := visible_of_permits hpermits
    rw [hp] at hvisible
    cases hvisible
  rw [hhidden p hp]
  refine ((backend_effect now c t).cell_eq ?_ ?_).symm
  · rintro data overwrite rfl
    exact hforbidden _ hmay.of_write.2
  · rintro rfl
    exact hforbidden _ hmay.of_delete.2

end Handle

namespace Service

open MemoryStore

theorem callAll_same_view (s : Service) (calls : List ToolCall) {v w : World MemoryStore}
    (hindex : v.index = w.index) (hview : SameView s.handle.grants v.store w.store) :
    (s.callAll backend calls v).1 = (s.callAll backend calls w).1 ∧
      SameView s.handle.grants (s.callAll backend calls v).2.store
        (s.callAll backend calls w).2.store := by
  induction calls generalizing v w with
  | nil => exact ⟨rfl, hview⟩
  | cons c rest ih =>
    obtain ⟨hreply, hindex', hview'⟩ := (Tool.call_asks s c.name c.args).stores_related
      (fun call _ _ hc hst => hc.same_view hst c.time) hindex hview
    obtain ⟨hreplies, hlast⟩ := ih hindex' hview'
    exact ⟨by simp only [callAll, hreply, hreplies], hlast⟩

theorem callAll_same_hidden (s : Service) (calls : List ToolCall) {start : MemoryStore}
    {w : World MemoryStore} (hhidden : SameHidden s.handle.grants start w.store) :
    SameHidden s.handle.grants start (s.callAll backend calls w).2.store := by
  induction calls generalizing w with
  | nil => exact hhidden
  | cons c rest ih =>
    exact ih ((Tool.call_asks s c.name c.args).store_preserved
      (fun call _ hc ht => hc.same_hidden ht c.time) hhidden)

end Service

/-- Two runs of the same tool calls, on stores that look alike under the grants of the handle, give
the same replies one by one and end in stores that look alike, and neither touches what is hidden.
-/
theorem tool_calls_confidential (s : Service) (calls : List ToolCall) (index : Snapshot)
    {s₁ s₂ : MemoryStore} (hview : s₁.SameView s.handle.grants s₂) :
    let run₁ := s.callAll MemoryStore.backend calls ⟨s₁, index⟩
    let run₂ := s.callAll MemoryStore.backend calls ⟨s₂, index⟩
    run₁.1 = run₂.1 ∧ run₁.2.store.SameView s.handle.grants run₂.2.store ∧
      s₁.SameHidden s.handle.grants run₁.2.store ∧ s₂.SameHidden s.handle.grants run₂.2.store := by
  obtain ⟨hreplies, hlast⟩ :=
    s.callAll_same_view calls (v := ⟨s₁, index⟩) (w := ⟨s₂, index⟩) rfl hview
  exact ⟨hreplies, hlast, s.callAll_same_hidden calls fun _ _ => rfl,
    s.callAll_same_hidden calls fun _ _ => rfl⟩

/-- A secret below `/internal/` is neither seen nor touched through a handle for `/workspace/`,
whatever tools are called. -/
theorem tool_calls_keep_secret :
    let s : Service := ⟨.ofNamespaces [.workspace], {}⟩
    let secret : Path := ⟨"/internal/key", by decide⟩
    let s₁ := MemoryStore.empty.put ⟨0, 0⟩ secret [1, 2, 3]
    s₁.SameView s.handle.grants .empty ∧ s₁.cell secret ≠ MemoryStore.empty.cell secret ∧
      ∀ calls : List ToolCall,
        let run₁ := s.callAll MemoryStore.backend calls ⟨s₁, ∅⟩
        let run₂ := s.callAll MemoryStore.backend calls ⟨.empty, ∅⟩
        run₁.1 = run₂.1 ∧ run₁.2.store.SameView s.handle.grants run₂.2.store ∧
          s₁.SameHidden s.handle.grants run₁.2.store ∧
          MemoryStore.empty.SameHidden s.handle.grants run₂.2.store := by
  intro s secret s₁
  have hhidden : isVisible s.handle.grants secret.text = false := by decide
  have hview : s₁.SameView s.handle.grants .empty := by
    intro p hp
    rw [MemoryStore.cell_put, if_neg]
    rintro rfl
    simp [hhidden] at hp
  have hdiffer : s₁.cell secret ≠ MemoryStore.empty.cell secret := by
    rw [MemoryStore.cell_put, if_pos rfl]
    simp [MemoryStore.cell, MemoryStore.empty]
  exact ⟨hview, hdiffer, fun calls => tool_calls_confidential s calls ∅ hview⟩

end GrantFs
