import GrantFs.Proofs.Memory
import Mathlib.Logic.Function.Basic

/-! # Requests in progress at once

Any number of handles share one store in memory, and any number of requests to them are in progress.
A step starts a request, answers the next access of one, or ends one. Accesses are atomic: a call to
the backend is answered under the lock of the store, anything else under the lock of one index.
Whole requests that follow one another are the runs in which nothing comes between their steps. -/
namespace GrantFs.Interleaving

structure Thread (ι : Type) where
  client : ι
  request : Request
  rest : Program Access.signature (Except Fault request.Reply)

structure State (ι τ : Type) where
  store : MemoryStore
  index : ι → Snapshot
  thread : τ → Option (Thread ι)

inductive Event (ι τ : Type) where
  | start (t : τ) (i : ι) (r : Request)
  | access (t : τ) (i : ι) (r : Request) (q : Access) (reply : q.Reply)
  | finish (t : τ) (i : ι) (r : Request) (result : Except Fault r.Reply)

variable {ι τ : Type} [DecidableEq ι] [DecidableEq τ]

inductive Step (handles : ι → Handle) : State ι τ → Event ι τ → State ι τ → Prop where
  | start {s : State ι τ} {t : τ} (i : ι) (r : Request) : s.thread t = none →
      Step handles s (.start t i r)
        { s with thread := Function.update s.thread t (some ⟨i, r, ((handles i).fulfil r).run⟩) }
  | access {s : State ι τ} {t : τ} {i : ι} {r : Request} {q : Access}
      {next : q.Reply → Program Access.signature (Except Fault r.Reply)} {reply : q.Reply}
      {w : World MemoryStore} (now : Instant) : s.thread t = some ⟨i, r, .ask q next⟩ →
      (MemoryStore.backend now).answer q ⟨s.store, s.index i⟩ = (reply, w) →
      Step handles s (.access t i r q reply)
        ⟨w.store, Function.update s.index i w.index,
          Function.update s.thread t (some ⟨i, r, next reply⟩)⟩
  | finish {s : State ι τ} {t : τ} {i : ι} {r : Request} {result : Except Fault r.Reply} :
      s.thread t = some ⟨i, r, .done result⟩ →
      Step handles s (.finish t i r result)
        { s with thread := Function.update s.thread t none }

inductive Execution (handles : ι → Handle) (s : State ι τ) :
    List (Event ι τ) → State ι τ → Prop where
  | refl : Execution handles s [] s
  | tail {es : List (Event ι τ)} {u v : State ι τ} {e : Event ι τ} :
      Execution handles s es u → Step handles u e v → Execution handles s (es ++ [e]) v

def Idle (s : State ι τ) : Prop := ∀ t, s.thread t = none

/-- Whatever is left of a request asks only what its handle may call for it. -/
def Entitled (handles : ι → Handle) (s : State ι τ) : Prop :=
  ∀ t T, s.thread t = some T →
    T.rest.Asks (Access.Within ((handles T.client).MayCall T.request))

variable {handles : ι → Handle} {s u : State ι τ} {e : Event ι τ}

theorem step_preserves_entitled (hs : Entitled handles s) (h : Step handles s e u) :
    Entitled handles u := by
  intro t T hT
  cases h with
  | @start t' i r _ =>
    by_cases ht : t = t'
    · subst ht
      simp only [Function.update_self, Option.some.injEq] at hT
      subst hT
      exact (handles i).fulfil_asks r
    · exact hs t T (by simpa [ht] using hT)
  | @access t' i r q next reply w now hthread _ =>
    by_cases ht : t = t'
    · subst ht
      simp only [Function.update_self, Option.some.injEq] at hT
      subst hT
      exact (hs t _ hthread).2 reply
    · exact hs t T (by simpa [ht] using hT)
  | @finish t' i r result _ =>
    by_cases ht : t = t'
    · subst ht
      simp at hT
    · exact hs t T (by simpa [ht] using hT)

theorem execution_entitled {s₀ : State ι τ} {es : List (Event ι τ)} (hidle : Idle s₀)
    (h : Execution handles s₀ es s) : Entitled handles s := by
  induction h with
  | refl =>
    intro t T hT
    simp [hidle t] at hT
  | tail _ hstep ih => exact step_preserves_entitled ih hstep

/-- A step that changes what is stored is a call that some handle may make for a request to it. -/
theorem step_effect (hs : Entitled handles s) (h : Step handles s e u) :
    u.store = s.store ∨ ∃ t i r c reply now,
      e = .access t i r (.call c) reply ∧ (handles i).MayCall r c ∧
        MemoryStore.Effect now s.store c u.store := by
  cases h with
  | start => exact .inl rfl
  | finish => exact .inl rfl
  | @access t i r q next reply w now hthread hanswer =>
    cases q with
    | call c =>
      have hmay : (handles i).MayCall r c := (hs t _ hthread).1
      have heffect := MemoryStore.backend_effect now c s.store
      simp only [Backend.answer, Prod.mk.injEq] at hanswer
      obtain ⟨rfl, rfl⟩ := hanswer
      exact .inr ⟨t, i, r, c, _, now, rfl, hmay, heffect⟩
    | _ =>
      simp only [Backend.answer, Prod.mk.injEq] at hanswer
      obtain ⟨-, rfl⟩ := hanswer
      exact .inl rfl

theorem Execution.proceed {s₀ s : State ι τ} {es : List (Event ι τ)}
    (h : Execution handles s₀ es s) {t : τ} {i : ι} {r : Request} {q : Access}
    {next : q.Reply → Program Access.signature (Except Fault r.Reply)}
    (hthread : s.thread t = some ⟨i, r, .ask q next⟩) (now : Instant) :
    ∃ es' s', Execution handles s₀ es' s' ∧
      s'.thread t = some ⟨i, r, next ((MemoryStore.backend now).answer q ⟨s.store, s.index i⟩).1⟩ ∧
      s'.store = ((MemoryStore.backend now).answer q ⟨s.store, s.index i⟩).2.store :=
  ⟨_, _, h.tail (.access now hthread rfl), Function.update_self .., rfl⟩

end GrantFs.Interleaving
