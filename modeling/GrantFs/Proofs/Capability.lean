import GrantFs.Proofs.Interleaving

/-! # Integrity of capabilities

A request with an unsound path, or one that no grant authorizes, fails before it asks anything of
any backend. And whatever happens to the bytes at a path while handles share a store in memory, it
was done by a write or a delete of that very path through a handle that permits it. -/
namespace GrantFs

def Fault.IsRefusal (why : Fault) : Prop :=
  (∃ path flaw, why = .invalidPath path flaw) ∨ ∃ path op, why = .accessDenied path op

namespace Request

/-- The path of the request is sound; a listing of everything has none. -/
def Sound : Request → Prop
  | list none => True
  | list (some path) => Path.flaw? path = none
  | file path _ => Path.flaw? path = none

/-- Some grant carries the operation and has a root that the path begins with. -/
def Authorized (grants : List Grant) : Request → Prop
  | list none => ∃ g ∈ grants, .list ∈ g.ops
  | list (some path) => ∃ g ∈ grants, g.root.text <+: path ∧ .list ∈ g.ops
  | file path task => ∃ g ∈ grants, g.root.text <+: path ∧ task.operation ∈ g.ops

end Request

namespace Handle

theorem checked_refused {h : Handle} {path : Text} {op : Operation}
    (hr : Path.flaw? path ≠ none ∨ h.permits path op ≠ true) :
    ∃ why : Fault, why.IsRefusal ∧ h.checked path op = .error why := by
  cases hflaw : Path.flaw? path with
  | some flaw => exact ⟨_, .inl ⟨path, flaw, rfl⟩, h.checked_of_flaw op hflaw⟩
  | none =>
    obtain ⟨p, rfl⟩ : ∃ p : Path, p.text = path := ⟨⟨path, hflaw⟩, rfl⟩
    have hdenied : h.permits p.text op ≠ true := hr.resolve_left fun hne => hne hflaw
    exact ⟨_, .inr ⟨p.text, op, rfl⟩, by rw [checked_text, if_neg hdenied]⟩

theorem approve_refused {h : Handle} {path : Text} {task : FileTask}
    (hr : Path.flaw? path ≠ none ∨ h.permits path task.operation ≠ true) :
    ∃ why : Fault, why.IsRefusal ∧ h.approve path task = .error why := by
  cases hflaw : Path.flaw? path with
  | some flaw => exact ⟨_, .inl ⟨path, flaw, rfl⟩, h.approve_of_flaw task hflaw⟩
  | none =>
    obtain ⟨p, rfl⟩ : ∃ p : Path, p.text = path := ⟨⟨path, hflaw⟩, rfl⟩
    have hdenied : h.permits p.text task.operation ≠ true := hr.resolve_left fun hne => hne hflaw
    rw [approve_text]
    by_cases hdir : (task.isWrite && p.isDirLike) = true
    · exact ⟨_, .inl ⟨p.text, .namesDirectory, rfl⟩, by rw [if_pos hdir]⟩
    · exact ⟨_, .inr ⟨p.text, task.operation, rfl⟩, by rw [if_neg hdir, if_neg hdenied]⟩

theorem checkedStart_refused {h : Handle} {start : Option Text}
    (hr : ¬ (Request.list start).Sound ∨ ¬ (Request.list start).Authorized h.grants) :
    ∃ why : Fault, why.IsRefusal ∧ h.checkedStart start = .error why := by
  cases start with
  | none =>
    have hnone : h.grants.any (·.allows .list) = false := by
      have hunauthorized := hr.resolve_left fun hsound => hsound trivial
      simpa [Request.Authorized, Grant.allows, List.contains_iff_mem] using hunauthorized
    exact ⟨_, .inr ⟨_, .list, rfl⟩, by simp only [checkedStart, hnone]; rfl⟩
  | some path =>
    have hcheck : Path.flaw? path ≠ none ∨ h.permits path .list ≠ true :=
      hr.imp id fun hn hp => hn (permits_iff.mp hp)
    obtain ⟨why, hwhy, hrefused⟩ := checked_refused hcheck
    exact ⟨why, hwhy, by rw [checkedStart, hrefused]; rfl⟩

theorem fulfil_refused {h : Handle} {r : Request} (hr : ¬ r.Sound ∨ ¬ r.Authorized h.grants) :
    ∃ why : Fault, why.IsRefusal ∧ (h.fulfil r).run = .done (.error why) := by
  cases r with
  | list start =>
    obtain ⟨why, hwhy, hrefused⟩ := checkedStart_refused hr
    refine ⟨why, hwhy, ?_⟩
    show (h.list start).run = _
    rw [list, Action.run_bind, Action.run_lift, hrefused]
    rfl
  | file path task =>
    have hcheck : Path.flaw? path ≠ none ∨ h.permits path task.operation ≠ true :=
      hr.imp id fun hn hp => hn (permits_iff.mp hp)
    obtain ⟨why, hwhy, hrefused⟩ := approve_refused hcheck
    refine ⟨why, hwhy, ?_⟩
    show (h.perform path task).run = _
    rw [perform_eq, Action.run_bind, Action.run_lift, hrefused]
    rfl

end Handle

namespace Interleaving

variable {ι τ : Type}

def PermittedWrite (handles : ι → Handle) (p : Path) (data : Bytes) (e : Event ι τ) : Prop :=
  ∃ t i overwrite reply,
    e = .access t i (.file p.text (.write data overwrite)) (.call (.write p data overwrite)) reply ∧
      (handles i).permits p.text .write = true

def PermittedDelete (handles : ι → Handle) (p : Path) (e : Event ι τ) : Prop :=
  ∃ t i reply, e = .access t i (.file p.text .delete) (.call (.delete p)) reply ∧
    (handles i).permits p.text .delete = true

variable [DecidableEq ι] [DecidableEq τ] {handles : ι → Handle} {s u : State ι τ} {e : Event ι τ}

theorem bytes_stored_by_write (hs : Entitled handles s) (h : Step handles s e u) {p : Path}
    {data : Bytes} (hafter : u.store.content.get? p = some data)
    (hbefore : s.store.content.get? p ≠ some data) : PermittedWrite handles p data e := by
  rcases step_effect hs h with hsame | ⟨t, i, r, c, reply, now, rfl, hmay, heffect⟩
  · rw [hsame] at hafter
    exact absurd hafter hbefore
  · have hcell : (u.store.cell p).1 = some data := hafter
    generalize u.store = store at hcell heffect
    cases heffect with
    | unchanged => exact absurd hcell hbefore
    | @put q data' overwrite hvacant =>
      obtain ⟨rfl, hpermits⟩ := hmay.of_write
      rw [MemoryStore.cell_put] at hcell
      split at hcell
      next heq =>
        cases heq
        cases hcell
        exact ⟨t, i, overwrite, reply, rfl, hpermits⟩
      next => exact absurd hcell hbefore
    | @remove q hstored =>
      rw [MemoryStore.cell_remove] at hcell
      split at hcell
      next => cases hcell
      next => exact absurd hcell hbefore

theorem bytes_removed_by_delete (hs : Entitled handles s) (h : Step handles s e u) {p : Path}
    (hbefore : s.store.content.get? p ≠ none) (hafter : u.store.content.get? p = none) :
    PermittedDelete handles p e := by
  rcases step_effect hs h with hsame | ⟨t, i, r, c, reply, now, rfl, hmay, heffect⟩
  · rw [hsame] at hafter
    exact absurd hafter hbefore
  · have hcell : (u.store.cell p).1 = none := hafter
    generalize u.store = store at hcell heffect
    cases heffect with
    | unchanged => exact absurd hcell hbefore
    | @put q data' overwrite hvacant =>
      rw [MemoryStore.cell_put] at hcell
      split at hcell
      next => cases hcell
      next => exact absurd hcell hbefore
    | @remove q hstored =>
      obtain ⟨rfl, hpermits⟩ := hmay.of_delete
      rw [MemoryStore.cell_remove] at hcell
      split at hcell
      next heq =>
        cases heq
        exact ⟨t, i, reply, rfl, hpermits⟩
      next => exact absurd hcell hbefore

theorem write_reaches_store {start : State ι τ} {t : τ} {i : ι} {p : Path}
    (ht : start.thread t = none) (hpermits : (handles i).permits p.text .write = true)
    (hfile : p.isDirLike = false) (data : Bytes) (now : Instant) :
    ∃ es s e u, Execution handles start es s ∧ Step handles s e u ∧
      s.store = start.store ∧ u.store = start.store.put now p data := by
  let thread (rest : Program Access.signature (Except Fault Entry)) : Option (Thread ι) :=
    some ⟨i, .file p.text (.write data true), rest⟩
  obtain ⟨next, hrun, hnext⟩ := Handle.fulfil_write_run hfile hpermits data
  obtain ⟨next', hindex, next'', hwrite⟩ := hnext (start.store.snapshot (handles i).grants)
  have h₁ : Execution handles start _ _ :=
    Execution.refl.tail (.start i (.file p.text (.write data true)) ht)
  obtain ⟨es₂, s₂, h₂, hthread₂, hstore₂⟩ :=
    h₁.proceed ((Function.update_self ..).trans (congrArg thread hrun)) now
  obtain ⟨es₃, s₃, h₃, hthread₃, hstore₃⟩ :=
    h₂.proceed (hthread₂.trans (congrArg thread hindex)) now
  have h₄ : Step handles s₃ _ _ := .access now (hthread₃.trans (congrArg thread hwrite)) rfl
  have hstore : s₃.store = start.store := hstore₃.trans hstore₂
  exact ⟨es₃, s₃, _, _, h₃, h₄, hstore, by rw [← hstore]; rfl⟩

end Interleaving

/-- Refused requests touch no backend of any kind, and in every run of handles on one store the
bytes at a path are created or changed by permitted writes to it only, and removed by permitted
deletes of it only. -/
theorem capability_integrity :
    (∀ (h : Handle) (r : Request), ¬ r.Sound ∨ ¬ r.Authorized h.grants →
      ∀ {σ : Type} (b : Backend σ) (w : World σ), ∃ why : Fault, why.IsRefusal ∧
        (h.fulfil r).runWith b w = (.error why, w) ∧ (h.fulfil r).accesses b w = []) ∧
    (∀ {ι τ : Type} [DecidableEq ι] [DecidableEq τ] (handles : ι → Handle)
      (start s u : Interleaving.State ι τ) (es : List (Interleaving.Event ι τ))
      (e : Interleaving.Event ι τ), Interleaving.Idle start →
      Interleaving.Execution handles start es s → Interleaving.Step handles s e u →
      ∀ p : Path,
        (∀ data, u.store.content.get? p = some data → s.store.content.get? p ≠ some data →
          Interleaving.PermittedWrite handles p data e) ∧
        (s.store.content.get? p ≠ none → u.store.content.get? p = none →
          Interleaving.PermittedDelete handles p e)) := by
  constructor
  · intro h r hr σ b w
    obtain ⟨why, hwhy, hrun⟩ := h.fulfil_refused hr
    refine ⟨why, hwhy, ?_, ?_⟩
    · rw [Action.runWith, hrun]
      rfl
    · rw [Action.accesses, hrun]
      rfl
  · intro ι τ _ _ handles start s u es e hidle hrun hstep p
    have hentitled := Interleaving.execution_entitled hidle hrun
    exact ⟨fun data hafter hbefore =>
        Interleaving.bytes_stored_by_write hentitled hstep hafter hbefore,
      fun hbefore hafter => Interleaving.bytes_removed_by_delete hentitled hstep hbefore hafter⟩

/-- One client that may only read `/userinput/` and one that owns `/workspace/`: the first one's
write to `/workspace/a` is refused, the other one's is the step that creates the file. -/
theorem capability_integrity_two_clients :
    let handles : Bool → Handle := fun owner =>
      .ofNamespaces [if owner then .workspace else .userinput]
    let p : Path := ⟨"/workspace/a", by decide⟩
    let r : Request := .file p.text (.write [1] true)
    let start : Interleaving.State Bool Unit := ⟨.empty, fun _ => ∅, fun _ => none⟩
    (¬ r.Authorized (handles false).grants ∧ ∃ why : Fault, why.IsRefusal ∧
      ((handles false).fulfil r).runWith (MemoryStore.backend ⟨0, 0⟩) ⟨.empty, ∅⟩ =
        (.error why, ⟨.empty, ∅⟩) ∧
      ((handles false).fulfil r).accesses (MemoryStore.backend ⟨0, 0⟩) ⟨.empty, ∅⟩ = []) ∧
    ∃ es s e u, Interleaving.Idle start ∧ Interleaving.Execution handles start es s ∧
      Interleaving.Step handles s e u ∧ s.store.content.get? p = none ∧
      u.store.content.get? p = some [1] ∧ Interleaving.PermittedWrite handles p [1] e := by
  intro handles p r start
  have hidle : Interleaving.Idle start := fun _ => rfl
  have hrefused : ¬ r.Authorized (handles false).grants := by
    intro h
    have hpermits := permits_iff.mpr h
    revert hpermits
    decide
  have hpermits : (handles true).permits p.text .write = true := by decide
  have hfile : p.isDirLike = false := by decide
  have hreached : ∃ es s e u, Interleaving.Execution handles start es s ∧
      Interleaving.Step handles s e u ∧ s.store = start.store ∧
      u.store = start.store.put ⟨0, 0⟩ p [1] :=
    Interleaving.write_reaches_store (t := ()) rfl hpermits hfile [1] ⟨0, 0⟩
  obtain ⟨es, s, e, u, hrun, hstep, hs, hu⟩ := hreached
  have hbefore : s.store.content.get? p = none := by rw [hs]; rfl
  have hafter : u.store.content.get? p = some [1] := by rw [hu]; rfl
  refine ⟨⟨hrefused, capability_integrity.1 _ r (.inr hrefused) _ _⟩, es, s, e, u, hidle, hrun,
    hstep, hbefore, hafter, ?_⟩
  exact (capability_integrity.2 handles start s u es e hidle hrun hstep p).1 [1] hafter
    (by simp [hbefore])

end GrantFs
