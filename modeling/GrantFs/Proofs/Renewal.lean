import GrantFs.Proofs.Memory
import Mathlib.Logic.Function.Basic

/-! # Renewal of the index

A handle keeps its index from one request to the next. Every request replaces the whole index before
it looks at it, so nothing of what was there reaches a result or a backend. Main statement: a run of
whole requests to any handles, with changes of the backend from outside in between, gives the
replies and leaves the backend that it would if each request were made through a new handle. -/
namespace GrantFs

/-- The program replaces the index before it looks at it or changes a part of it. -/
inductive Program.Renews {α : Type} : Program Access.signature α → Prop where
  | done (a : α) : Renews (.done a)
  | call (c : Call) {next : Except Fault c.Reply → Program Access.signature α} :
      (∀ reply, Renews (next reply)) → Renews (.ask (.call c) next)
  | replace (s : Snapshot) (next : Unit → Program Access.signature α) :
      Renews (.ask (.replaceIndex s) next)

/-- What the index held before shows neither in the result nor in the store. -/
theorem Program.Renews.run_eq {α σ : Type} {x : Program Access.signature α} (h : x.Renews)
    (b : Backend σ) (s : σ) (i j : Snapshot) :
    (x.run b.answer (World.mk s i)).1 = (x.run b.answer (World.mk s j)).1 ∧
      (x.run b.answer (World.mk s i)).2.store = (x.run b.answer (World.mk s j)).2.store := by
  induction h generalizing s with
  | done a => exact ⟨rfl, rfl⟩
  | call c _ ih => exact ih _ _
  | replace t next => exact ⟨rfl, rfl⟩

namespace Handle

variable {α β : Type} (h : Handle)

theorem renews_check {e : Except Fault α} {f : α → Action β} (hf : ∀ a, (f a).run.Renews) :
    (liftM e >>= f : Action β).run.Renews := by
  rw [Action.run_bind, Action.run_lift]
  cases e with
  | ok a => exact hf a
  | error why => exact .done _

theorem refresh_renews (f : Unit → Action β) : (h.refresh >>= f).run.Renews := by
  refine .call _ fun reply => ?_
  cases reply with
  | ok s => exact .replace s _
  | error why => exact .done _

theorem requireExisting_renews (p : Path) (f : Entry → Action β) :
    (h.requireExisting p >>= f).run.Renews := by
  rw [requireExisting, bind_assoc]
  exact h.refresh_renews _

theorem carryOut_renews (p : Path) (task : FileTask) : (h.carryOut p task).run.Renews := by
  cases task with
  | inspect => exact h.refresh_renews _
  | write data overwrite => exact h.refresh_renews _
  | _ => exact h.requireExisting_renews p _

theorem fulfil_renews (r : Request) : (h.fulfil r).run.Renews := by
  cases r with
  | list start => exact renews_check fun limit => h.refresh_renews _
  | file path task =>
    show (h.perform path task).run.Renews
    rw [perform_eq]
    exact renews_check fun p => h.carryOut_renews p task

end Handle

/-- What happens to a backend that handles share: a whole request, or a change from outside. -/
inductive Move (ι σ : Type) where
  | request (i : ι) (r : Request) (time : Instant)
  | outside (change : σ → σ)

abbrev Move.Reply {ι σ : Type} : Move ι σ → Type
  | request _ r _ => Except Fault r.Reply
  | outside _ => Unit

structure Site (ι σ : Type) where
  store : σ
  index : ι → Snapshot

namespace Site

variable {ι σ : Type} [DecidableEq ι]

def move (b : Instant → Backend σ) (handles : ι → Handle) (s : Site ι σ) :
    (m : Move ι σ) → m.Reply × Site ι σ
  | .request i r time =>
    let (reply, w) := ((handles i).fulfil r).runWith (b time) ⟨s.store, s.index i⟩
    (reply, ⟨w.store, Function.update s.index i w.index⟩)
  | .outside change => ((), { s with store := change s.store })

def run (b : Instant → Backend σ) (handles : ι → Handle) :
    List (Move ι σ) → Site ι σ → List ((m : Move ι σ) × m.Reply) × Site ι σ
  | [], s => ([], s)
  | m :: rest, s =>
    let (reply, s) := s.move b handles m
    let (replies, s) := run b handles rest s
    (⟨m, reply⟩ :: replies, s)

end Site

namespace Move

variable {ι σ : Type}

/-- A move on a backend whose handles are all new, so that their indices are empty. -/
def anew (b : Instant → Backend σ) (handles : ι → Handle) (s : σ) : (m : Move ι σ) → m.Reply × σ
  | .request i r time =>
    let (reply, w) := ((handles i).fulfil r).runWith (b time) ⟨s, ∅⟩
    (reply, w.store)
  | .outside change => ((), change s)

def runAnew (b : Instant → Backend σ) (handles : ι → Handle) :
    List (Move ι σ) → σ → List ((m : Move ι σ) × m.Reply) × σ
  | [], s => ([], s)
  | m :: rest, s =>
    let (reply, s) := anew b handles s m
    let (replies, s) := runAnew b handles rest s
    (⟨m, reply⟩ :: replies, s)

end Move

namespace Site

variable {ι σ : Type} [DecidableEq ι] (b : Instant → Backend σ) (handles : ι → Handle)

theorem move_eq_anew (s : Site ι σ) (m : Move ι σ) :
    (s.move b handles m).1 = (Move.anew b handles s.store m).1 ∧
      (s.move b handles m).2.store = (Move.anew b handles s.store m).2 := by
  cases m with
  | request i r time => exact ((handles i).fulfil_renews r).run_eq (b time) s.store (s.index i) ∅
  | outside change => exact ⟨rfl, rfl⟩

theorem run_eq_anew (moves : List (Move ι σ)) (s : Site ι σ) :
    (run b handles moves s).1 = (Move.runAnew b handles moves s.store).1 ∧
      (run b handles moves s).2.store = (Move.runAnew b handles moves s.store).2 := by
  induction moves generalizing s with
  | nil => exact ⟨rfl, rfl⟩
  | cons m rest ih =>
    obtain ⟨hreply, hstore⟩ := move_eq_anew b handles s m
    obtain ⟨hreplies, hend⟩ := ih (s.move b handles m).2
    rw [hstore] at hreplies hend
    refine ⟨?_, hend⟩
    show ⟨m, (s.move b handles m).1⟩ :: (run b handles rest (s.move b handles m).2).1 = _
    rw [hreply, hreplies]
    rfl

end Site

/-- After any moves, each request replies and leaves the backend as it would through a new handle
with the same grants; and so the whole run does. -/
theorem index_never_shows {ι σ : Type} [DecidableEq ι] (b : Instant → Backend σ)
    (handles : ι → Handle) (moves : List (Move ι σ)) (s : Site ι σ) :
    (∀ i r time,
      let now := (s.run b handles moves).2
      let kept := ((handles i).fulfil r).runWith (b time) ⟨now.store, now.index i⟩
      let anew := ((handles i).fulfil r).runWith (b time) ⟨now.store, ∅⟩
      kept.1 = anew.1 ∧ kept.2.store = anew.2.store) ∧
    (s.run b handles moves).1 = (Move.runAnew b handles moves s.store).1 ∧
    (s.run b handles moves).2.store = (Move.runAnew b handles moves s.store).2 :=
  ⟨fun i r time => ((handles i).fulfil_renews r).run_eq (b time) _ _ ∅,
    Site.run_eq_anew b handles moves s⟩

/-- The index of the first handle still has the file that the second one deleted, but a read through
the first handle does not find it. -/
theorem index_never_shows_deleted_file :
    let h : Handle := .ofNamespaces [.workspace]
    let p : Path := ⟨"/workspace/a", by decide⟩
    let moves : List (Move Bool MemoryStore) := [
      .request true (.file p.text (.write [1] true)) ⟨0, 0⟩,
      .request false (.file p.text .delete) ⟨1, 0⟩]
    let now := (Site.run MemoryStore.backend (fun _ => h) moves ⟨.empty, fun _ => ∅⟩).2
    (now.index true).get? p ≠ none ∧
      ((h.fulfil (.file p.text .readBytes)).runWith (MemoryStore.backend ⟨2, 0⟩)
        ⟨now.store, now.index true⟩).1 = .error (.notFound p.text) := by
  intro h p moves now
  refine ⟨by decide, ?_⟩
  refine ((index_never_shows MemoryStore.backend (fun _ => h) moves ⟨.empty, fun _ => ∅⟩).1 true
    (.file p.text .readBytes) ⟨2, 0⟩).1.trans ?_
  decide

end GrantFs
