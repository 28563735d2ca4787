import GrantFs.Proofs.CallLog
import Mathlib.Tactic.IntervalCases

/-! # A handle with several callers

Callers of one handle share its index. Each renews the whole of it and looks a file up in two steps,
and between these another one may put into it what it saw earlier. Main statement: a file that an
inspection finds has been stored since some request to the handle began that was in progress during
the inspection; if no other was, it has been stored during the inspection. -/
namespace GrantFs

/-- The access puts the entry into the index under the path. -/
def Access.Puts (p : Path) (e : Entry) : Access → Prop
  | .replaceIndex s => s.get? p = some e
  | .insertIndex q e' => q = p ∧ e' = e
  | _ => False

/-- The reply comes from a store that has the entry under the path. -/
def Access.Shows (p : Path) (e : Entry) : (q : Access) → q.Reply → Prop
  | .call (.snapshot _), .ok s => s.get? p = some e
  | .call (.write q _ _), .ok e' => q = p ∧ e' = e
  | _, _ => False

namespace Program

variable {α β : Type} {p : Path} {e : Entry} {seen : Prop}

/-- The program puts the entry into the index only after a reply has shown it; `seen` tells whether
one has done so already. -/
def Backed (p : Path) (e : Entry) : Prop → Program Access.signature α → Prop
  | _, done _ => True
  | seen, ask q next =>
    (q.Puts p e → seen) ∧ ∀ reply, (next reply).Backed p e (seen ∨ q.Shows p e reply)

theorem Backed.mono {x : Program Access.signature α} (h : x.Backed p e seen) {seen' : Prop}
    (hseen : seen → seen') : x.Backed p e seen' := by
  induction x generalizing seen seen' with
  | done a => trivial
  | ask q next ih =>
    exact ⟨fun hput => hseen (h.1 hput), fun reply => ih reply (h.2 reply) (Or.imp_left hseen)⟩

theorem Backed.bind {x : Program Access.signature α} {f : α → Program Access.signature β}
    (h : x.Backed p e seen) (hf : ∀ a, (f a).Backed p e seen) : (x.bind f).Backed p e seen := by
  induction x generalizing seen with
  | done a => exact hf a
  | ask q next ih =>
    exact ⟨h.1, fun reply => ih reply (h.2 reply) fun a => (hf a).mono Or.inl⟩

theorem Backed.shown {x : Program Access.signature α} {log : List ((q : Access) × q.Reply)}
    {q : Access} {next : q.Reply → Program Access.signature α} (h : x.Backed p e seen)
    (hlog : x.Follows log (ask q next)) (hput : q.Puts p e) :
    seen ∨ ∃ a ∈ log, a.1.Shows p e a.2 := by
  induction log generalizing x seen with
  | nil =>
    cases hlog
    exact .inl (h.1 hput)
  | cons answered rest ih =>
    obtain ⟨next', rfl, hrest⟩ := hlog
    rcases ih (h.2 answered.2) hrest with (hseen | hshows) | ⟨a, ha, hshows⟩
    · exact .inl hseen
    · exact .inr ⟨answered, List.mem_cons_self, hshows⟩
    · exact .inr ⟨a, List.mem_cons_of_mem _ ha, hshows⟩

end Program

namespace Handle

variable {α β : Type} {p : Path} {e : Entry} {seen : Prop} (h : Handle)

theorem backed_bind {x : Action α} {f : α → Action β} (hx : x.run.Backed p e seen)
    (hf : ∀ a, (f a).run.Backed p e seen) : (x >>= f).run.Backed p e seen := by
  rw [Action.run_bind]
  refine hx.bind fun result => ?_
  cases result with
  | ok a => exact hf a
  | error why => trivial

theorem backed_check {x : Except Fault α} {f : α → Action β}
    (hf : ∀ a, (f a).run.Backed p e seen) : (liftM x >>= f : Action β).run.Backed p e seen := by
  refine backed_bind ?_ hf
  rw [Action.run_lift]
  trivial

theorem refresh_backed : h.refresh.run.Backed p e seen := by
  refine ⟨False.elim, fun reply => ?_⟩
  cases reply with
  | ok s => exact ⟨Or.inr, fun _ => trivial⟩
  | error why => trivial

theorem requireExisting_backed (q : Path) : (h.requireExisting q).run.Backed p e seen := by
  refine backed_bind h.refresh_backed fun _ => ⟨False.elim, fun found => ?_⟩
  cases found <;> trivial

theorem call_backed (c : Call) : (Action.call c).run.Backed p e seen :=
  ⟨False.elim, fun _ => trivial⟩

theorem carryOut_backed (q : Path) (task : FileTask) : (h.carryOut q task).run.Backed p e seen := by
  cases task with
  | inspect => exact h.requireExisting_backed q
  | write data overwrite =>
    -- What the index gets is the entry that the call replied with.
    have hstore : (Action.call (.write q data overwrite) >>= fun e => Action.insertIndex q e >>=
        fun _ => pure e : Action Entry).run.Backed p e seen := by
      refine ⟨False.elim, fun reply => ?_⟩
      cases reply with
      | ok e' => exact ⟨Or.inr, fun _ => trivial⟩
      | error why => trivial
    refine backed_bind h.refresh_backed fun _ => ?_
    cases overwrite with
    | true => exact hstore
    | false =>
      refine ⟨False.elim, fun found => ?_⟩
      cases found with
      | none => exact hstore.mono Or.inl
      | some e' => trivial
  | delete =>
    refine backed_bind (h.requireExisting_backed q) fun _ => ?_
    exact backed_bind (call_backed _) fun _ => ⟨False.elim, fun _ => trivial⟩
  | _ => exact backed_bind (h.requireExisting_backed q) fun _ => call_backed _

theorem fulfil_backed (r : Request) : (h.fulfil r).run.Backed p e seen := by
  cases r with
  | list start =>
    refine backed_check fun limit => ?_
    exact backed_bind h.refresh_backed fun _ => ⟨False.elim, fun _ => trivial⟩
  | file path task =>
    show (h.perform path task).run.Backed p e seen
    rw [perform_eq]
    exact backed_check fun q => h.carryOut_backed q task

end Handle

namespace Interleaving

variable {ι τ : Type} [DecidableEq ι] [DecidableEq τ] {handles : ι → Handle} {start s u : State ι τ}
  {ev : Event ι τ} {es early late : List (Event ι τ)} {t : τ} {i : ι} {r : Request} {p : Path}
  {e : Entry}

/-- At some moment between the two, the store had a file with this entry under the path. -/
def StoredBetween (handles : ι → Handle) (start : State ι τ) (p : Path) (e : Entry)
    (early late : List (Event ι τ)) : Prop :=
  ∃ moment v data, early <+: moment ∧ moment <+: late ∧ Execution handles start moment v ∧
    v.store.cell p = (some data, some e)

theorem execution_represents (hidle : Idle start) (hstore : ∃ m, start.store.Represents m)
    (hrun : Execution handles start es s) : ∃ m, s.store.Represents m := by
  induction hrun with
  | refl => exact hstore
  | tail hrun hstep ih =>
    obtain ⟨m, hm⟩ := ih
    rcases step_effect (execution_entitled hidle hrun) hstep with
      hsame | ⟨_, _, _, c, _, now, -, -, heffect⟩
    · rw [hsame]
      exact ⟨m, hm⟩
    · exact heffect.represents hm

theorem entry_of_shows {q : Access} {reply : q.Reply}
    (h : Step handles s (.access t i r q reply) u) (hshows : q.Shows p e reply) :
    u.store.entries.get? p = some e := by
  cases q with
  | call c =>
    obtain ⟨now, hanswer⟩ := step_call h
    cases c with
    | snapshot grants =>
      simp only [MemoryStore.backend, Prod.mk.injEq] at hanswer
      obtain ⟨rfl, hstore⟩ := hanswer
      change (s.store.snapshot grants).get? p = some e at hshows
      rw [MemoryStore.get?_snapshot] at hshows
      rw [← hstore]
      split at hshows
      next => exact hshows
      next => cases hshows
    | write q data overwrite =>
      cases reply with
      | error why => exact hshows.elim
      | ok e' =>
        obtain ⟨rfl, rfl⟩ := hshows
        rcases s.store.write_cases now q data overwrite with hrefused | hwritten
        · simp only [MemoryStore.backend, hrefused] at hanswer
          cases hanswer
        · simp only [MemoryStore.backend, hwritten, Prod.mk.injEq, Except.ok.injEq] at hanswer
          obtain ⟨rfl, hstore⟩ := hanswer
          rw [← hstore, MemoryStore.put, SortedMap.get?_insert, if_pos rfl]
    | _ => exact hshows.elim
  | _ => exact hshows.elim

theorem step_index (h : Step handles s ev u) (hp : (u.index i).get? p = some e) :
    (s.index i).get? p = some e ∨ ∃ t r q reply, ev = .access t i r q reply ∧ q.Puts p e := by
  cases h with
  | start => exact .inl hp
  | finish => exact .inl hp
  | @access t j r q next reply w now hthread hanswer =>
    by_cases hj : i = j
    · subst hj
      simp only [Function.update_self] at hp
      have hindex := congrArg (fun out => out.2.index.get? p) hanswer
      rw [hp] at hindex
      cases q with
      | replaceIndex sn => exact .inr ⟨t, r, _, reply, rfl, hindex⟩
      | insertIndex q e' =>
        simp only [Backend.answer, SortedMap.get?_insert] at hindex
        split at hindex
        next hq => exact .inr ⟨t, r, _, reply, rfl, hq.symm, Option.some.inj hindex⟩
        next => exact .inl hindex
      | removeIndex q =>
        simp only [Backend.answer, SortedMap.get?_erase] at hindex
        split at hindex
        next => cases hindex
        next => exact .inl hindex
      | _ => exact .inl hindex
    · simp only [Function.update_of_ne hj] at hp
      exact .inl hp

theorem execution_index (h : Execution handles s es u) (hp : (u.index i).get? p = some e) :
    (s.index i).get? p = some e ∨
      ∃ a t r q reply b, es = a ++ .access t i r q reply :: b ∧ q.Puts p e := by
  induction h with
  | refl => exact .inl hp
  | @tail es u v ev hrun hstep ih =>
    rcases step_index hstep hp with hold | ⟨t, r, q, reply, rfl, hput⟩
    · rcases ih hold with hfirst | ⟨a, t, r, q, reply, b, rfl, hput⟩
      · exact .inl hfirst
      · exact .inr ⟨a, t, r, q, reply, b ++ [ev], by simp, hput⟩
    · exact .inr ⟨es, t, r, q, reply, [], rfl, hput⟩

theorem execution_stored_file (hidle : Idle start) (hstore : ∃ m, start.store.Represents m)
    (hrun : Execution handles start es s) (hentry : s.store.entries.get? p = some e) :
    ∃ data, s.store.cell p = (some data, some e) := by
  obtain ⟨m, hm⟩ := execution_represents hidle hstore hrun
  have hcontent : s.store.content.get? p ≠ none := by
    rw [hm.content, ne_eq, ← hm.listed, hentry]
    simp
  obtain ⟨data, hdata⟩ := Option.ne_none_iff_exists'.mp hcontent
  exact ⟨data, by rw [MemoryStore.cell, hdata, hentry]⟩

theorem stored_of_shown {before work : List (Event ι τ)} {q : Access} {reply : q.Reply}
    (hidle : Idle start) (hstore : ∃ m, start.store.Represents m)
    (hrun : Execution handles start (before ++ work) s) (hev : .access t i r q reply ∈ work)
    (hshows : q.Shows p e reply) : StoredBetween handles start p e before (before ++ work) := by
  obtain ⟨earlier, later, rfl⟩ := List.append_of_mem hev
  rw [← List.append_assoc] at hrun ⊢
  obtain ⟨v, v', hv, hshow, -⟩ := hrun.at_event
  obtain ⟨data, hcell⟩ :=
    execution_stored_file hidle hstore (hv.tail hshow) (entry_of_shows hshow hshows)
  exact ⟨_, v', data, by simp, by simp, hv.tail hshow, hcell⟩

/-- What a request puts into an index has been stored since the request began. -/
theorem put_stored {a b : List (Event ι τ)} {q : Access} {reply : q.Reply} (hidle : Idle start)
    (hstore : ∃ m, start.store.Represents m)
    (hrun : Execution handles start (a ++ .access t i r q reply :: b) s) (hput : q.Puts p e) :
    ∃ before, InProgress t i r before a ∧ StoredBetween handles start p e before a := by
  obtain ⟨u, u', ha, hstep, -⟩ := hrun.at_event
  cases hstep with
  | access now hthread hanswer =>
    obtain ⟨before, work, rfl, hwork⟩ := thread_worked hidle ha hthread
    have hbacked : ((handles i).fulfil r).run.Backed p e False := (handles i).fulfil_backed r
    obtain ⟨seen, hseen, hshows⟩ := (hbacked.shown hwork.followed hput).resolve_left id
    obtain ⟨ev, hev, haccess⟩ := List.mem_filterMap.mp hseen
    rw [Event.eq_access haccess] at hev
    exact ⟨before, ⟨work, rfl, hwork.unbounded⟩,
      stored_of_shown hidle hstore ha (List.mem_cons_of_mem _ hev) hshows⟩

/-- What a lookup finds was put into the index when the index was last renewed, or after that. -/
theorem found_put {a b c : List (Event ι τ)} {sn : Snapshot}
    (hrun : Execution handles start (a ++ .access t i r (.replaceIndex sn) () ::
      (b ++ .access t i r (.lookup p) (some e) :: c)) s) :
    ∃ x t' r' q reply y,
      .access t i r (.replaceIndex sn) () :: b = x ++ .access t' i r' q reply :: y ∧
        q.Puts p e := by
  obtain ⟨v, v', -, hrenewed, hrest⟩ := hrun.at_event
  obtain ⟨w, w', hb, hlooked, -⟩ := hrest.at_event
  obtain ⟨_, hrenew⟩ := step_answer hrenewed
  obtain ⟨_, hlookup⟩ := step_answer hlooked
  have hindex : v'.index i = sn := (congrArg (fun out => out.2.index) hrenew).symm
  have hfound : (w.index i).get? p = some e := congrArg Prod.fst hlookup
  rcases execution_index hb hfound with hrenewal | ⟨x, t', r', q, reply, y, rfl, hput⟩
  · rw [hindex] at hrenewal
    exact ⟨[], t, r, .replaceIndex sn, (), b, rfl, hrenewal⟩
  · exact ⟨_ :: x, t', r', q, reply, y, rfl, hput⟩

/-- Where an inspection that ends well renewed the index and where it looked the file up. -/
theorem finish_inspect_looked {before : List (Event ι τ)} (hidle : Idle start)
    (hrun : Execution handles start es s)
    (hbegun : InProgress t i (.file p.text .inspect) before es)
    (hfinish : Step handles s (.finish t i (.file p.text .inspect) (.ok e)) u) :
    ∃ a b c sn, es = before ++ .start t i (.file p.text .inspect) ::
      (a ++ .access t i (.file p.text .inspect) (.replaceIndex sn) () ::
        (b ++ .access t i (.file p.text .inspect) (.lookup p) (some e) :: c)) := by
  obtain ⟨before', work, hes, hwork⟩ := finish_worked hidle hrun hfinish
  obtain rfl : before' = before := InProgress.unique ⟨work, hes, hwork.unbounded⟩ hbegun
  obtain ⟨sn, hlog⟩ := Handle.followed_of_inspect hwork.followed
  obtain ⟨a₁, first, later, rfl, -, -, hlater⟩ := List.filterMap_eq_cons_iff.mp hlog
  obtain ⟨a₂, second, later, rfl, -, hreplace, hlater⟩ := List.filterMap_eq_cons_iff.mp hlater
  obtain ⟨b, third, c, rfl, -, hlookup, -⟩ := List.filterMap_eq_cons_iff.mp hlater
  obtain rfl := Event.eq_access hreplace
  obtain rfl := Event.eq_access hlookup
  exact ⟨a₁ ++ first :: a₂, b, c, sn, by simpa using hes⟩

theorem finish_inspect_put {before : List (Event ι τ)} (hidle : Idle start)
    (hrun : Execution handles start es s)
    (hbegun : InProgress t i (.file p.text .inspect) before es)
    (hfinish : Step handles s (.finish t i (.file p.text .inspect) (.ok e)) u) :
    ∃ x t' r' q reply y, es = before ++ .start t i (.file p.text .inspect) ::
      (x ++ .access t' i r' q reply :: y) ∧ q.Puts p e := by
  obtain ⟨a, b, c, sn, hes⟩ := finish_inspect_looked hidle hrun hbegun hfinish
  have hrenewed : es = (before ++ .start t i (.file p.text .inspect) :: a) ++
      .access t i (.file p.text .inspect) (.replaceIndex sn) () ::
        (b ++ .access t i (.file p.text .inspect) (.lookup p) (some e) :: c) := by simpa using hes
  obtain ⟨x, t', r', q, reply, y, hxy, hput⟩ := found_put (hrenewed ▸ hrun)
  refine ⟨a ++ x, t', r', q, reply,
    y ++ .access t i (.file p.text .inspect) (.lookup p) (some e) :: c, ?_, hput⟩
  rw [hrenewed, ← List.cons_append, hxy]
  simp

/-- Whatever steps of other requests come between its own, an inspection finds an entry that the
store has had since some request to the handle began that was in progress during the inspection. If
no other caller of the handle was at work during it, the store has had the entry during it. -/
theorem inspection_finds_recent {before : List (Event ι τ)} (hidle : Idle start)
    (hstore : ∃ m, start.store.Represents m) (hrun : Execution handles start es s)
    (hbegun : InProgress t i (.file p.text .inspect) before es)
    (hfinish : Step handles s (.finish t i (.file p.text .inspect) (.ok e)) u) :
    (∃ t' r' before' moment, moment <+: es ∧
      InProgress t i (.file p.text .inspect) before moment ∧ InProgress t' i r' before' moment ∧
      StoredBetween handles start p e before' moment) ∧
    ((∀ t' r' before' moment, moment <+: es →
      InProgress t i (.file p.text .inspect) before moment → InProgress t' i r' before' moment →
        t' = t) →
      StoredBetween handles start p e before es) := by
  have hfound : ∃ t' r' before' moment, moment <+: es ∧
      InProgress t i (.file p.text .inspect) before moment ∧ InProgress t' i r' before' moment ∧
      StoredBetween handles start p e before' moment := by
    obtain ⟨x, t', r', q, reply, y, rfl, hput⟩ := finish_inspect_put hidle hrun hbegun hfinish
    obtain ⟨work, hwork, hunbounded⟩ := hbegun
    obtain rfl := (List.cons.inj (List.append_cancel_left hwork)).2
    have hown : InProgress t i (.file p.text .inspect) before
        (before ++ .start t i (.file p.text .inspect) :: x) :=
      ⟨x, rfl, fun ev hev => hunbounded ev (List.mem_append_left _ hev)⟩
    rw [← List.cons_append, ← List.append_assoc] at hrun ⊢
    obtain ⟨before', hother, hstored⟩ := put_stored hidle hstore hrun hput
    exact ⟨t', r', before', _, List.prefix_append .., hown, hother, hstored⟩
  refine ⟨hfound, fun halone => ?_⟩
  obtain ⟨t', r', before', moment, hmoment, hown, hother, m, v, data, hbefore, hm, hv, hcell⟩ :=
    hfound
  obtain rfl := halone t' r' before' moment hmoment hown hother
  obtain rfl := hother.unique hown
  exact ⟨m, v, data, hbefore, hm.trans hmoment, hv, hcell⟩

/-- Three callers of one handle. The first has stored the file but has not put its entry into the
index yet; the second deletes the file; the third inspects it, and the entry of the first arrives
between the renewal of the index and the lookup. -/
def lateInsertion (p : Path) : List (Turn Unit (Fin 3)) :=
  .start 0 () (.file p.text (.write [1] true)) :: List.replicate 3 (.go 0) ++
  .start 1 () (.file p.text .delete) :: List.replicate 6 (.go 1) ++
  .start 2 () (.file p.text .inspect) :: [.go 2, .go 2, .go 0, .go 2]

/-- What arrives late has been stored since the first request began, and that one is still in
progress. A caller that is alone finds what is stored during its inspection. -/
theorem inspection_finds_late_insertion :
    let h : Handle := .ofNamespaces [.workspace]
    let p : Path := ⟨"/workspace/a", by decide⟩
    let e : Entry := .written p 1 ⟨0, 0⟩
    let three : State Unit (Fin 3) := ⟨.empty, fun _ => ∅, fun _ => none⟩
    let late := (play (fun _ => h) ⟨0, 0⟩ (lateInsertion p) three).1
    let alone : State Unit Unit := ⟨.empty, fun _ => ∅, fun _ => none⟩
    let turns : List (Turn Unit Unit) :=
      .start () () (.file p.text (.write [1] true)) :: List.replicate 5 (.go ()) ++
      .start () () (.file p.text .inspect) :: List.replicate 3 (.go ())
    let es := (play (fun _ => h) ⟨0, 0⟩ turns alone).1
    (∃ t' r' before' moment, moment <+: late ∧
      InProgress 2 () (.file p.text .inspect) (late.take 11) moment ∧
      InProgress t' () r' before' moment ∧ StoredBetween (fun _ => h) three p e before' moment) ∧
    StoredBetween (fun _ => h) alone p e (es.take 6) es := by
  intro h p e three late alone turns es
  have hempty : ∃ m, MemoryStore.empty.Represents m := ⟨∅, MemoryStore.represents_empty⟩
  have hlate := play_execution (fun _ => h) ⟨0, 0⟩ (lateInsertion p) three
  have halone := play_execution (fun _ => h) ⟨0, 0⟩ turns alone
  constructor
  · exact (inspection_finds_recent (fun _ => rfl) hempty hlate ⟨late.drop 12, by rfl, by decide⟩
      (.finish (by rfl))).1
  · exact (inspection_finds_recent (fun _ => rfl) hempty halone ⟨es.drop 7, by rfl, by decide⟩
      (.finish (by rfl))).2 fun _ _ _ _ _ _ _ => rfl

/-- The inspection succeeds, although the store has no such file from its beginning to its end. -/
theorem inspection_finds_deleted :
    let h : Handle := .ofNamespaces [.workspace]
    let p : Path := ⟨"/workspace/a", by decide⟩
    let start : State Unit (Fin 3) := ⟨.empty, fun _ => ∅, fun _ => none⟩
    let es := (play (fun _ => h) ⟨0, 0⟩ (lateInsertion p) start).1
    ∃ s e u, Execution (fun _ => h) start es s ∧
      Step (fun _ => h) s (.finish 2 () (.file p.text .inspect) (.ok e)) u ∧
      InProgress 2 () (.file p.text .inspect) (es.take 11) es ∧
      ∀ moment v, es.take 11 <+: moment → moment <+: es →
        Execution (fun _ => h) start moment v → v.store.content.get? p = none := by
  intro h p start es
  have hrun := play_execution (fun _ => h) ⟨0, 0⟩ (lateInsertion p) start
  refine ⟨_, .written p 1 ⟨0, 0⟩, _, hrun, .finish (by rfl), ⟨es.drop 12, by rfl, by decide⟩, ?_⟩
  · intro moment v hearly hlate hmoment
    have hlength : 11 ≤ moment.length := hearly.length_le
    have hlength' : moment.length ≤ 16 := hlate.length_le
    rw [execution_stored hmoment p, List.prefix_iff_eq_take.mp hlate]
    generalize moment.length = n at *
    interval_cases n <;> rfl

end Interleaving
end GrantFs
