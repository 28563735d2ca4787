import GrantFs.Proofs.Interleaving
import Mathlib.Data.List.Induction

/-! # Parts of an execution

An execution can be cut at every moment; a schedule of turns plays one. Main statement: a thread
that is in progress has been started once, has neither ended nor been started since, and has
followed the program of its request with the replies it got. -/
namespace GrantFs

namespace Program

variable {S : Signature} {α : Type}

/-- From `x`, the questions and replies of the list lead to `y`. -/
def Follows : Program S α → List ((q : S.Ask) × S.Reply q) → Program S α → Prop
  | x, [], y => x = y
  | x, ⟨q, reply⟩ :: rest, y => ∃ next, x = ask q next ∧ (next reply).Follows rest y

theorem Follows.snoc {x : Program S α} {log : List ((q : S.Ask) × S.Reply q)} {q : S.Ask}
    {next : S.Reply q → Program S α} (h : x.Follows log (ask q next)) (reply : S.Reply q) :
    x.Follows (log ++ [⟨q, reply⟩]) (next reply) := by
  induction log generalizing x with
  | nil => exact ⟨next, h, rfl⟩
  | cons answered rest ih =>
    obtain ⟨next', hx, hrest⟩ := h
    exact ⟨next', hx, ih hrest⟩

theorem follows_done {a b : α} {log : List ((q : S.Ask) × S.Reply q)} :
    (done a).Follows log (done b) ↔ log = [] ∧ a = b := by
  cases log with
  | nil => simp [Follows]
  | cons answered rest => simp [Follows]

theorem Follows.of_ask {q : S.Ask} {next : S.Reply q → Program S α} {a : α}
    {log : List ((q : S.Ask) × S.Reply q)} (h : (ask q next).Follows log (done a)) :
    ∃ reply rest, log = ⟨q, reply⟩ :: rest ∧ (next reply).Follows rest (done a) := by
  cases log with
  | nil => cases h
  | cons answered rest =>
    obtain ⟨next', hnext, hrest⟩ := h
    cases hnext
    exact ⟨answered.2, rest, rfl, hrest⟩

end Program

namespace Handle

variable {h : Handle} {p : Path} {e : Entry} {log : List ((q : Access) × q.Reply)}

/-- What a request has asked once it has ended well: the replies of its checks are those that let
it go on. -/
theorem followed_of_fulfil {path : Text} {task : FileTask} {a : task.Reply}
    (hlog : (h.fulfil (.file path task)).run.Follows log (.done (.ok a))) :
    ∃ p : Path, p.text = path ∧ (h.carryOut p task).run.Follows log (.done (.ok a)) := by
  change (h.perform path task).run.Follows log (.done (.ok a)) at hlog
  rw [perform_eq, Action.run_bind, Action.run_lift] at hlog
  cases happroved : h.approve path task with
  | error why =>
    rw [happroved] at hlog
    simp [Program.follows_done] at hlog
  | ok p =>
    rw [happroved] at hlog
    exact ⟨p, (approve_eq_ok happroved).1, hlog⟩

theorem followed_of_refresh {α : Type} {f : Unit → Action α} {a : α}
    (hlog : (h.refresh >>= f).run.Follows log (.done (.ok a))) :
    ∃ s rest, log = ⟨.call (.snapshot h.grants), .ok s⟩ :: ⟨.replaceIndex s, ()⟩ :: rest ∧
      (f ()).run.Follows rest (.done (.ok a)) := by
  obtain ⟨reply, taken, rfl, htaken⟩ := Program.Follows.of_ask hlog
  cases reply with
  | error why => cases (Program.follows_done.mp htaken).2
  | ok s =>
    obtain ⟨u, rest, rfl, hrest⟩ := Program.Follows.of_ask htaken
    exact ⟨s, rest, rfl, hrest⟩

theorem followed_of_requireExisting {α : Type} {f : Entry → Action α} {a : α}
    (hlog : (h.requireExisting p >>= f).run.Follows log (.done (.ok a))) :
    ∃ s e rest, log = ⟨.call (.snapshot h.grants), .ok s⟩ :: ⟨.replaceIndex s, ()⟩ ::
        ⟨.lookup p, some e⟩ :: rest ∧ (f e).run.Follows rest (.done (.ok a)) := by
  rw [requireExisting, bind_assoc] at hlog
  obtain ⟨s, refreshed, rfl, hrefreshed⟩ := followed_of_refresh hlog
  obtain ⟨found, rest, rfl, hrest⟩ := Program.Follows.of_ask hrefreshed
  cases found with
  | none => cases (Program.follows_done.mp hrest).2
  | some e => exact ⟨s, e, rest, rfl, hrest⟩

theorem followed_of_call {α : Type} {c : Call} {f : c.Reply → Action α} {a : α}
    (hlog : (Action.call c >>= f).run.Follows log (.done (.ok a))) :
    ∃ reply rest, log = ⟨.call c, .ok reply⟩ :: rest ∧
      (f reply).run.Follows rest (.done (.ok a)) := by
  obtain ⟨reply, rest, rfl, hrest⟩ := Program.Follows.of_ask hlog
  cases reply with
  | error why => cases (Program.follows_done.mp hrest).2
  | ok reply => exact ⟨reply, rest, rfl, hrest⟩

/-- An inspection that ended well has found the entry in the index that it had renewed. -/
theorem followed_of_inspect {e : Entry}
    (hlog : (h.fulfil (.file p.text .inspect)).run.Follows log (.done (.ok e))) :
    ∃ s, log =
      [⟨.call (.snapshot h.grants), .ok s⟩, ⟨.replaceIndex s, ()⟩, ⟨.lookup p, some e⟩] := by
  obtain ⟨q, htext, hcarried⟩ := followed_of_fulfil hlog
  obtain rfl := Path.ext_text htext
  rw [← bind_pure (h.carryOut q .inspect)] at hcarried
  obtain ⟨s, found, rest, rfl, hrest⟩ := followed_of_requireExisting hcarried
  obtain ⟨rfl, hfound⟩ := Program.follows_done.mp hrest
  cases hfound
  exact ⟨s, rfl⟩

theorem followed_of_write {e : Entry} {data : Bytes} {overwrite : Bool}
    (hlog : (h.fulfil (.file p.text (.write data overwrite))).run.Follows log (.done (.ok e))) :
    ⟨.call (.write p data overwrite), .ok e⟩ ∈ log := by
  obtain ⟨q, htext, hcarried⟩ := followed_of_fulfil hlog
  obtain rfl := Path.ext_text htext
  have hcall : ∀ {log : List ((q : Access) × q.Reply)},
      (Action.call (.write q data overwrite) >>= fun e =>
        Action.insertIndex q e >>= fun _ => pure e : Action Entry).run.Follows log (.done (.ok e)) →
      ⟨.call (.write q data overwrite), .ok e⟩ ∈ log := by
    intro log hstored
    obtain ⟨e', rest, rfl, hrest⟩ := followed_of_call hstored
    obtain ⟨u, last, rfl, hlast⟩ := Program.Follows.of_ask hrest
    obtain ⟨-, hentry⟩ := Program.follows_done.mp hlast
    cases hentry
    exact List.mem_cons_self
  obtain ⟨s, refreshed, rfl, hrefreshed⟩ := followed_of_refresh hcarried
  refine List.mem_cons_of_mem _ (List.mem_cons_of_mem _ ?_)
  cases overwrite with
  | true => exact hcall hrefreshed
  | false =>
    obtain ⟨found, rest, rfl, hrest⟩ := Program.Follows.of_ask hrefreshed
    cases found with
    | none => exact List.mem_cons_of_mem _ (hcall hrest)
    | some e => cases (Program.follows_done.mp hrest).2

theorem followed_of_delete
    (hlog : (h.fulfil (.file p.text .delete)).run.Follows log (.done (.ok ()))) :
    ⟨.call (.delete p), .ok ()⟩ ∈ log := by
  obtain ⟨q, htext, hcarried⟩ := followed_of_fulfil hlog
  obtain rfl := Path.ext_text htext
  obtain ⟨s, e, rest, rfl, hrest⟩ := followed_of_requireExisting hcarried
  obtain ⟨u, removed, rfl, -⟩ := followed_of_call hrest
  simp

end Handle

namespace Interleaving

variable {ι τ : Type} [DecidableEq ι] [DecidableEq τ] {handles : ι → Handle} {s u v : State ι τ}
  {e : Event ι τ} {es es' : List (Event ι τ)}

theorem Execution.trans (h : Execution handles s es u) (k : Execution handles u es' v) :
    Execution handles s (es ++ es') v := by
  induction k with
  | refl => rwa [List.append_nil]
  | tail _ hstep ih =>
    rw [← List.append_assoc]
    exact ih.tail hstep

theorem Execution.of_snoc (h : Execution handles s (es ++ [e]) v) :
    ∃ u, Execution handles s es u ∧ Step handles u e v := by
  generalize hevents : es ++ [e] = events at h
  cases h with
  | refl => simp at hevents
  | tail hrun hstep =>
    obtain ⟨rfl, hlast⟩ := List.append_inj' hevents rfl
    cases hlast
    exact ⟨_, hrun, hstep⟩

theorem Execution.split (h : Execution handles s (es ++ es') v) :
    ∃ u, Execution handles s es u ∧ Execution handles u es' v := by
  induction es' using List.reverseRecOn generalizing v with
  | nil =>
    rw [List.append_nil] at h
    exact ⟨v, h, .refl⟩
  | append_singleton es' e ih =>
    rw [← List.append_assoc] at h
    obtain ⟨w, hw, hstep⟩ := h.of_snoc
    obtain ⟨u, hu, huw⟩ := ih hw
    exact ⟨u, hu, huw.tail hstep⟩

theorem Execution.at_event (h : Execution handles s (es ++ e :: es') v) :
    ∃ u u', Execution handles s es u ∧ Step handles u e u' ∧ Execution handles u' es' v := by
  rw [List.append_cons] at h
  obtain ⟨u', hu', hrest⟩ := h.split
  obtain ⟨u, hu, hstep⟩ := hu'.of_snoc
  exact ⟨u, u', hu, hstep, hrest⟩

inductive Turn (ι τ : Type) where
  | start (t : τ) (i : ι) (r : Request)
  | go (t : τ)

def turn? (handles : ι → Handle) (now : Instant) (s : State ι τ) :
    Turn ι τ → Option (Event ι τ × State ι τ)
  | .start t i r =>
    match s.thread t with
    | some _ => none
    | none => some (.start t i r,
        { s with thread := Function.update s.thread t (some ⟨i, r, ((handles i).fulfil r).run⟩) })
  | .go t =>
    match s.thread t with
    | none => none
    | some ⟨i, r, .done result⟩ =>
      some (.finish t i r result, { s with thread := Function.update s.thread t none })
    | some ⟨i, r, .ask q next⟩ =>
      let (reply, w) := (MemoryStore.backend now).answer q ⟨s.store, s.index i⟩
      some (.access t i r q reply, ⟨w.store, Function.update s.index i w.index,
        Function.update s.thread t (some ⟨i, r, next reply⟩)⟩)

/-- What happens when the turns are taken in order; a turn that cannot be taken is passed over. -/
def play (handles : ι → Handle) (now : Instant) :
    List (Turn ι τ) → State ι τ → List (Event ι τ) × State ι τ
  | [], s => ([], s)
  | turn :: rest, s =>
    match turn? handles now s turn with
    | none => play handles now rest s
    | some (e, u) =>
      let (es, v) := play handles now rest u
      (e :: es, v)

theorem step_of_turn {now : Instant} {turn : Turn ι τ}
    (h : turn? handles now s turn = some (e, u)) : Step handles s e u := by
  cases turn with
  | start t i r =>
    simp only [turn?] at h
    split at h
    next => cases h
    next hidle =>
      cases h
      exact .start i r hidle
  | go t =>
    simp only [turn?] at h
    split at h
    next => cases h
    next i r result hthread =>
      cases h
      exact .finish hthread
    next i r q next hthread =>
      cases h
      exact .access now hthread rfl

theorem play_execution (handles : ι → Handle) (now : Instant) (turns : List (Turn ι τ))
    (s : State ι τ) :
    Execution handles s (play handles now turns s).1 (play handles now turns s).2 := by
  induction turns generalizing s with
  | nil => exact .refl
  | cons turn rest ih =>
    rw [play]
    split
    next => exact ih s
    next e u hturn => exact (Execution.refl.tail (step_of_turn hturn)).trans (ih u)

section Moments

variable {ι τ : Type} {t : τ} {i i' : ι} {r r' : Request} {before before' es : List (Event ι τ)}

def Event.Bounds (t : τ) : Event ι τ → Prop
  | .start t' _ _ => t' = t
  | .access .. => False
  | .finish t' _ _ _ => t' = t

instance [DecidableEq τ] (t : τ) : (e : Event ι τ) → Decidable (e.Bounds t)
  | .start t' _ _ => inferInstanceAs (Decidable (t' = t))
  | .access .. => inferInstanceAs (Decidable False)
  | .finish t' _ _ _ => inferInstanceAs (Decidable (t' = t))

/-- After the events `es`, the thread is at work on the request that it took up after `before`. -/
def InProgress (t : τ) (i : ι) (r : Request) (before es : List (Event ι τ)) : Prop :=
  ∃ work, es = before ++ .start t i r :: work ∧ ∀ e ∈ work, ¬ e.Bounds t

/-- While at work on the request, as `InProgress` has it, the thread made the call and got the
reply. -/
def Made (t : τ) (i : ι) (r : Request) (c : Call) (reply : Except Fault c.Reply)
    (es : List (Event ι τ)) : Prop :=
  ∃ before work, es = before ++ .start t i r :: work ∧ (∀ e ∈ work, ¬ e.Bounds t) ∧
    .access t i r (.call c) reply ∈ work

theorem InProgress.unique (h : InProgress t i r before es) (h' : InProgress t i' r' before' es) :
    before = before' := by
  obtain ⟨work, rfl, hwork⟩ := h
  obtain ⟨work', heq, hwork'⟩ := h'
  rcases List.append_eq_append_iff.mp heq with ⟨between, hbefore, hrest⟩ | ⟨between, hbefore, hrest⟩
  · cases between with
    | nil => simpa using hbefore.symm
    | cons first between =>
      obtain ⟨-, rfl⟩ := List.cons.inj hrest
      exact absurd rfl (hwork (.start t i' r') (by simp))
  · cases between with
    | nil => simpa using hbefore
    | cons first between =>
      obtain ⟨-, rfl⟩ := List.cons.inj hrest
      exact absurd rfl (hwork' (.start t i r) (by simp))

end Moments

variable {t : τ} {i : ι} {r : Request} {T : Thread ι}

/-- What the thread asked for the request with this event, and the reply. -/
def Event.access? (t : τ) (i : ι) (r : Request) : Event ι τ → Option ((q : Access) × q.Reply)
  | .access t' i' r' q reply => if t' = t ∧ i' = i ∧ r' = r then some ⟨q, reply⟩ else none
  | _ => none

theorem Event.eq_access {q : Access} {reply : q.Reply} (h : e.access? t i r = some ⟨q, reply⟩) :
    e = .access t i r q reply := by
  cases e with
  | access t' i' r' q' reply' =>
    simp only [access?] at h
    split at h
    next heq =>
      obtain ⟨rfl, rfl, rfl⟩ := heq
      cases h
      rfl
    next => cases h
  | _ => cases h

structure Worked (handles : ι → Handle) (t : τ) (T : Thread ι) (work : List (Event ι τ)) :
    Prop where
  unbounded : ∀ e ∈ work, ¬ e.Bounds t
  followed : ((handles T.client).fulfil T.request).run.Follows
    (work.filterMap (·.access? t T.client T.request)) T.rest

theorem worked_start (handles : ι → Handle) (t : τ) (i : ι) (r : Request) :
    Worked handles t ⟨i, r, ((handles i).fulfil r).run⟩ [] :=
  ⟨by simp, rfl⟩

theorem Worked.other {work : List (Event ι τ)} (h : Worked handles t T work)
    (hbounds : ¬ e.Bounds t) (hother : e.access? t T.client T.request = none) :
    Worked handles t T (work ++ [e]) := by
  refine ⟨?_, ?_⟩
  · simpa [or_imp, forall_and] using ⟨h.unbounded, hbounds⟩
  · simpa [List.filterMap_append, hother] using h.followed

theorem Worked.access {work : List (Event ι τ)} {q : Access}
    {next : q.Reply → Program Access.signature (Except Fault r.Reply)}
    (h : Worked handles t ⟨i, r, .ask q next⟩ work) (reply : q.Reply) :
    Worked handles t ⟨i, r, next reply⟩ (work ++ [.access t i r q reply]) := by
  refine ⟨?_, ?_⟩
  · simpa [or_imp, forall_and, Event.Bounds] using h.unbounded
  · simpa [List.filterMap_append, Event.access?] using h.followed.snoc reply

theorem thread_worked {start : State ι τ} (hidle : Idle start) (hrun : Execution handles start es s)
    (hT : s.thread t = some T) :
    ∃ before work, es = before ++ .start t T.client T.request :: work ∧
      Worked handles t T work := by
  induction hrun generalizing t T with
  | refl => simp [hidle t] at hT
  | @tail es u v e hrun hstep ih =>
    have kept : u.thread t = some T → ¬ e.Bounds t → e.access? t T.client T.request = none →
        ∃ before work, es ++ [e] = before ++ .start t T.client T.request :: work ∧
          Worked handles t T work := by
      intro hu hbounds hother
      obtain ⟨before, work, rfl, hwork⟩ := ih hu
      exact ⟨before, work ++ [e], by simp, hwork.other hbounds hother⟩
    cases hstep with
    | @start t' i r hnone =>
      by_cases ht : t = t'
      · subst ht
        simp only [Function.update_self, Option.some.injEq] at hT
        subst hT
        exact ⟨es, [], rfl, worked_start handles t i r⟩
      · exact kept (by simpa [ht] using hT) (fun h => ht h.symm) rfl
    | @access t' i r q next reply w now hthread _ =>
      by_cases ht : t = t'
      · subst ht
        simp only [Function.update_self, Option.some.injEq] at hT
        subst hT
        obtain ⟨before, work, rfl, hwork⟩ := ih hthread
        exact ⟨before, work ++ [_], by simp, hwork.access reply⟩
      · exact kept (by simpa [ht] using hT) id (by simp [Event.access?, Ne.symm ht])
    | @finish t' i r result hthread =>
      by_cases ht : t = t'
      · subst ht
        simp at hT
      · exact kept (by simpa [ht] using hT) (fun h => ht h.symm) rfl

theorem finish_worked {start : State ι τ} {result : Except Fault r.Reply} (hidle : Idle start)
    (hrun : Execution handles start es s) (hfinish : Step handles s (.finish t i r result) u) :
    ∃ before work, es = before ++ .start t i r :: work ∧
      Worked handles t ⟨i, r, .done result⟩ work := by
  cases hfinish with
  | finish hthread => exact thread_worked hidle hrun hthread

theorem finish_write_made {start : State ι τ} {p : Path} {data : Bytes} {overwrite : Bool}
    {entry : Entry} (hidle : Idle start) (hrun : Execution handles start es s)
    (hfinish : Step handles s (.finish t i (.file p.text (.write data overwrite)) (.ok entry)) u) :
    Made t i (.file p.text (.write data overwrite)) (.write p data overwrite) (.ok entry) es := by
  obtain ⟨before, work, hes, hwork⟩ := finish_worked hidle hrun hfinish
  obtain ⟨e, he, haccess⟩ := List.mem_filterMap.mp (Handle.followed_of_write hwork.followed)
  rw [Event.eq_access haccess] at he
  exact ⟨before, work, hes, hwork.unbounded, he⟩

theorem finish_delete_made {start : State ι τ} {p : Path} (hidle : Idle start)
    (hrun : Execution handles start es s)
    (hfinish : Step handles s (.finish t i (.file p.text .delete) (.ok ())) u) :
    Made t i (.file p.text .delete) (.delete p) (.ok ()) es := by
  obtain ⟨before, work, hes, hwork⟩ := finish_worked hidle hrun hfinish
  obtain ⟨e, he, haccess⟩ := List.mem_filterMap.mp (Handle.followed_of_delete hwork.followed)
  rw [Event.eq_access haccess] at he
  exact ⟨before, work, hes, hwork.unbounded, he⟩

end Interleaving
end GrantFs
