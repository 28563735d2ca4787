import GrantFs.Proofs.OsInput
import GrantFs.Proofs.Renewal
import GrantFs.Proofs.Tools

/-! # Sessions on a disk

A session on a disk has no state of its own but the index of its handle. Main statements: it runs an
action as the disk alone does; and what the call of a tool replies and leaves on the disk does not
depend on the calls before, other than by what they have left there. -/
namespace GrantFs

theorem Program.Renews.bind {α β : Type} {x : Program Access.signature α}
    {f : α → Program Access.signature β} (h : x.Renews) (hf : ∀ a, (f a).Renews) :
    (x.bind f).Renews := by
  induction h with
  | done a => exact hf a
  | call c _ ih => exact .call c ih
  | replace s next => exact .replace s _

theorem Handle.Makes.renews {h : Handle} {P : Request → Prop} {α : Type} {x : Action α}
    (hx : h.Makes P x) : x.run.Renews := by
  induction hx with
  | result e => exact .done e
  | request r f _ _ ih =>
    rw [Action.run_outcome_bind]
    exact (h.fulfil_renews r).bind ih

namespace Session

variable {α : Type}

theorem run_answerCall (d : DiskStore) (c : Call) (now : Instant) (input : Bytes) (t : OsTree)
    (index : Snapshot) :
    t.runReading now input ((answerCall c).run (Session.mk (.disk d) index)) =
      (((d.backend now c t).1, Session.mk (.disk d) index), (d.backend now c t).2) := by
  refine (OsTree.runReading_bind (d.perform c).run _).trans ?_
  rw [(d.noInput_perform c).run_eq]
  rfl

theorem run_runIn (d : DiskStore) (x : Program Access.signature α) (now : Instant) (input : Bytes)
    (t : OsTree) (index : Snapshot) :
    t.runReading now input ((Program.runIn answer x).run (Session.mk (.disk d) index)) =
      let (a, w) := Program.run (d.backend now).answer x (World.mk t index)
      ((a, Session.mk (.disk d) w.index), w.store) := by
  induction x generalizing t index with
  | done a => rfl
  | ask q next ih =>
    cases q with
    | call c =>
      refine (OsTree.runReading_bind ((answerCall c).run _) _).trans ?_
      rw [run_answerCall]
      exact ih _ _ _
    | _ => exact ih _ _ _

/-- A session on a disk runs an action as the disk alone does. -/
theorem run_disk (d : DiskStore) (x : Action α) (now : Instant) (input : Bytes) (t : OsTree)
    (index : Snapshot) :
    t.runReading now input (run x (Session.mk (.disk d) index)) =
      let (reply, w) := x.runWith (d.backend now) (World.mk t index)
      ((reply, Session.mk (.disk d) w.index), w.store) :=
  run_runIn d x.run now input t index

/-- What a call replies and leaves on the disk is the same as with a new index. -/
theorem run_call (service : Service) (name : Text) (args : Json) (d : DiskStore) (now : Instant)
    (input : Bytes) (t : OsTree) (index : Snapshot) :
    ∃ index', t.runReading now input
        (run (Tool.call service name args) (Session.mk (.disk d) index)) =
      let (reply, w) := (Tool.call service name args).runWith (d.backend now) (World.mk t ∅)
      ((reply, Session.mk (.disk d) index'), w.store) := by
  have hrenews := (Tool.call_makes service name args).renews.run_eq (d.backend now) t index ∅
  rw [run_disk]
  simp only [Action.runWith]
  generalize Program.run _ _ (World.mk t index) = kept at hrenews ⊢
  generalize Program.run _ _ (World.mk t ∅) = renewed at hrenews ⊢
  obtain ⟨hreply, hstore⟩ := hrenews
  exact ⟨kept.2.index, by rw [← hreply, ← hstore]⟩

end Session
end GrantFs
