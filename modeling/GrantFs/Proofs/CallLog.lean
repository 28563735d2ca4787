import GrantFs.Proofs.Execution

/-! # What the log of calls tells

The bytes at a path of a shared store are what the successful writes and deletes of it make of them,
in the order of their steps at the backend. Main statement: however the steps of requests in
progress come between each other, a write that may not overwrite changes nothing that is stored,
between two creations of a path it has been deleted, between two deletes it has been written, and
what a read returns was written last. -/
namespace GrantFs.Interleaving

namespace Event

variable {ι τ : Type} {p : Path} {e : Event ι τ} {before : Option Bytes}

def Writes (p : Path) (data : Bytes) (overwrite : Bool) (e : Event ι τ) : Prop :=
  ∃ t i r entry, e = .access t i r (.call (.write p data overwrite)) (.ok entry)

def Deletes (p : Path) (e : Event ι τ) : Prop :=
  ∃ t i r, e = .access t i r (.call (.delete p)) (.ok ())

def Alters (p : Path) (e : Event ι τ) : Prop :=
  (∃ data overwrite, e.Writes p data overwrite) ∨ e.Deletes p

/-- The bytes at the path after the event, if `before` was there before. -/
def leaves (p : Path) (before : Option Bytes) : Event ι τ → Option Bytes
  | .access _ _ _ (.call (.write q data _)) (.ok _) => if p = q then some data else before
  | .access _ _ _ (.call (.delete q)) (.ok _) => if p = q then none else before
  | _ => before

theorem Writes.leaves_eq {data : Bytes} {overwrite : Bool} (h : e.Writes p data overwrite) :
    e.leaves p before = some data := by
  obtain ⟨t, i, r, entry, rfl⟩ := h
  exact if_pos rfl

theorem Deletes.leaves_eq (h : e.Deletes p) : e.leaves p before = none := by
  obtain ⟨t, i, r, rfl⟩ := h
  exact if_pos rfl

theorem leaves_of_not_alters (h : ¬ e.Alters p) : e.leaves p before = before := by
  unfold leaves
  split
  next t i r q data overwrite entry =>
    refine if_neg ?_
    rintro rfl
    exact h (.inl ⟨data, overwrite, t, i, r, entry, rfl⟩)
  next t i r q u =>
    refine if_neg ?_
    rintro rfl
    exact h (.inr ⟨t, i, r, rfl⟩)
  next => rfl

end Event

section Logs

variable {ι τ : Type} {p : Path} {es : List (Event ι τ)} {before : Option Bytes} {data : Bytes}

/-- The bytes at the path after the events, if `before` was there before. -/
def stored (p : Path) (before : Option Bytes) (es : List (Event ι τ)) : Option Bytes :=
  es.foldl (fun before e => e.leaves p before) before

theorem stored_append (p : Path) (before : Option Bytes) (es es' : List (Event ι τ)) :
    stored p before (es ++ es') = stored p (stored p before es) es' := List.foldl_append

theorem stored_of_unaltered (h : ∀ e ∈ es, ¬ e.Alters p) : stored p before es = before := by
  induction es with
  | nil => rfl
  | cons e rest ih =>
    have he : e.leaves p before = before := Event.leaves_of_not_alters (h e List.mem_cons_self)
    show stored p (e.leaves p before) rest = before
    rw [he]
    exact ih fun e' he' => h e' (List.mem_cons_of_mem e he')

/-- Data are written last in the log if they are written and the path is left alone from then on. -/
def WrittenLast (p : Path) (data : Bytes) (es : List (Event ι τ)) : Prop :=
  ∃ earlier e later overwrite, es = earlier ++ e :: later ∧ e.Writes p data overwrite ∧
    ∀ e' ∈ later, ¬ e'.Alters p

theorem WrittenLast.stored_eq (h : WrittenLast p data es) : stored p before es = some data := by
  obtain ⟨earlier, e, later, overwrite, rfl, hwrites, hlater⟩ := h
  rw [stored_append]
  show stored p (e.leaves p (stored p before earlier)) later = some data
  rw [hwrites.leaves_eq]
  exact stored_of_unaltered hlater

/-- What the last event that alters the path does, the whole log does. -/
theorem stored_cases (p : Path) (before : Option Bytes) (es : List (Event ι τ)) :
    (∃ data, WrittenLast p data es) ∨
      (stored p before es = none ∧ ∃ e ∈ es, e.Deletes p) ∨
      (stored p before es = before ∧ ∀ e ∈ es, ¬ e.Alters p) := by
  induction es using List.reverseRecOn with
  | nil => exact .inr (.inr ⟨rfl, by simp⟩)
  | append_singleton es e ih =>
    have hlast : stored p before (es ++ [e]) = e.leaves p (stored p before es) := stored_append ..
    by_cases he : e.Alters p
    · rcases he with ⟨data, overwrite, hwrites⟩ | hdeletes
      · exact .inl ⟨data, es, e, [], overwrite, rfl, hwrites, by simp⟩
      · exact .inr (.inl ⟨hlast.trans hdeletes.leaves_eq, e, by simp, hdeletes⟩)
    · rw [Event.leaves_of_not_alters he] at hlast
      rcases ih with ⟨data, earlier, e', later, overwrite, rfl, hwrites, hlater⟩ |
        ⟨hnone, e', he', hdeletes⟩ | ⟨hsame, hall⟩
      · refine .inl ⟨data, earlier, e', later ++ [e], overwrite, by simp, hwrites, ?_⟩
        simpa [or_imp, forall_and] using ⟨hlater, he⟩
      · exact .inr (.inl ⟨hlast.trans hnone, e', List.mem_append_left _ he', hdeletes⟩)
      · refine .inr (.inr ⟨hlast.trans hsame, ?_⟩)
        simpa [or_imp, forall_and] using ⟨hall, he⟩

theorem stored_none_eq_some : stored p none es = some data ↔ WrittenLast p data es := by
  refine ⟨fun h => ?_, WrittenLast.stored_eq⟩
  rcases stored_cases p none es with ⟨data', hlast⟩ | ⟨hnone, -⟩ | ⟨hnone, -⟩
  · rw [hlast.stored_eq] at h
    cases h
    exact hlast
  · rw [hnone] at h
    cases h
  · rw [hnone] at h
    cases h

theorem deleted_of_stored_none (h : stored p (some data) es = none) : ∃ e ∈ es, e.Deletes p := by
  rcases stored_cases p (some data) es with ⟨data', hlast⟩ | ⟨-, hdeleted⟩ | ⟨hsame, -⟩
  · rw [hlast.stored_eq] at h
    cases h
  · exact hdeleted
  · rw [hsame] at h
    cases h

theorem written_of_stored_some (h : stored p none es = some data) :
    ∃ e ∈ es, ∃ data overwrite, e.Writes p data overwrite := by
  obtain ⟨earlier, e, later, overwrite, rfl, hwrites, -⟩ := stored_none_eq_some.mp h
  exact ⟨e, by simp, data, overwrite, hwrites⟩

theorem answer_leaves (t : τ) (i : ι) (r : Request) (c : Call) (now : Instant) (store : MemoryStore)
    (p : Path) :
    (MemoryStore.backend now c store).2.content.get? p =
      (Event.access t i r (.call c) (MemoryStore.backend now c store).1 : Event ι τ).leaves p
        (store.content.get? p) := by
  cases c with
  | write q data overwrite =>
    rcases store.write_cases now q data overwrite with hrefused | hwritten
    · simp only [MemoryStore.backend, hrefused]
      rfl
    · simp only [MemoryStore.backend, hwritten]
      exact SortedMap.get?_insert ..
  | delete q =>
    by_cases hq : store.content.get? q = none
    · simp only [MemoryStore.backend, MemoryStore.delete_of_absent hq]
      rfl
    · simp only [MemoryStore.backend, MemoryStore.delete_of_stored hq]
      exact SortedMap.get?_erase ..
  | _ => rfl

end Logs

variable {ι τ : Type} [DecidableEq ι] [DecidableEq τ] {handles : ι → Handle} {s u : State ι τ}
  {e : Event ι τ} {es : List (Event ι τ)} {p : Path} {data : Bytes}

theorem step_answer {t : τ} {i : ι} {r : Request} {q : Access} {reply : q.Reply}
    (h : Step handles s (.access t i r q reply) u) :
    ∃ now, (MemoryStore.backend now).answer q ⟨s.store, s.index i⟩ =
      (reply, ⟨u.store, u.index i⟩) := by
  cases h with
  | @access t i r q next reply w now hthread hanswer =>
    refine ⟨now, hanswer.trans ?_⟩
    show (reply, w) = (reply, ⟨w.store, Function.update s.index i w.index i⟩)
    rw [Function.update_self]

theorem step_call {t : τ} {i : ι} {r : Request} {c : Call} {reply : Except Fault c.Reply}
    (h : Step handles s (.access t i r (.call c) reply) u) :
    ∃ now, MemoryStore.backend now c s.store = (reply, u.store) := by
  obtain ⟨now, hanswer⟩ := step_answer h
  simp only [Backend.answer, Prod.mk.injEq, World.mk.injEq] at hanswer
  exact ⟨now, Prod.ext hanswer.1 hanswer.2.1⟩

theorem step_leaves (h : Step handles s e u) (p : Path) :
    u.store.content.get? p = e.leaves p (s.store.content.get? p) := by
  cases e with
  | start => cases h; rfl
  | finish => cases h; rfl
  | access t i r q reply =>
    cases q with
    | call c =>
      obtain ⟨now, hanswer⟩ := step_call h
      obtain ⟨rfl, hstore⟩ := Prod.mk.inj hanswer
      rw [← hstore]
      exact answer_leaves t i r c now s.store p
    | _ =>
      obtain ⟨now, hanswer⟩ := step_answer h
      have hstore : u.store = s.store := (congrArg (fun out => out.2.store) hanswer).symm
      rw [hstore]
      rfl

/-- The log determines what is stored. -/
theorem execution_stored (h : Execution handles s es u) (p : Path) :
    u.store.content.get? p = stored p (s.store.content.get? p) es := by
  induction h with
  | refl => rfl
  | tail _ hstep ih =>
    rw [step_leaves hstep p, ih, stored_append]
    rfl

theorem vacant_of_creation (h : Step handles s e u) (he : e.Writes p data false) :
    s.store.content.get? p = none := by
  obtain ⟨t, i, r, entry, rfl⟩ := he
  obtain ⟨now, hanswer⟩ := step_call h
  by_contra htaken
  simp only [MemoryStore.backend, MemoryStore.write_of_taken htaken] at hanswer
  cases hanswer

theorem stored_of_deletes (h : Step handles s e u) (he : e.Deletes p) :
    s.store.content.get? p ≠ none := by
  obtain ⟨t, i, r, rfl⟩ := he
  obtain ⟨now, hanswer⟩ := step_call h
  intro habsent
  simp only [MemoryStore.backend, MemoryStore.delete_of_absent habsent] at hanswer
  cases hanswer

theorem creation_keeps {t : τ} {i : ι} {r : Request} {q : Path} {reply : Except Fault Entry}
    (h : Step handles s (.access t i r (.call (.write q data false)) reply) u)
    (hstored : s.store.content.get? p ≠ none) :
    u.store.content.get? p = s.store.content.get? p := by
  rw [step_leaves h p]
  refine Event.leaves_of_not_alters ?_
  rintro (⟨data', overwrite, hwrites⟩ | ⟨t', i', r', heq⟩)
  · obtain ⟨t', i', r', entry, heq⟩ := hwrites
    cases heq
    exact hstored (vacant_of_creation h ⟨t, i, r, entry, rfl⟩)
  · cases heq

theorem read_of_step {t : τ} {i : ι} {r : Request} {reply : Except Fault Bytes}
    (h : Step handles s (.access t i r (.call (.readBytes p)) reply) u) :
    reply = s.store.read p := by
  obtain ⟨now, hanswer⟩ := step_call h
  exact (congrArg Prod.fst hanswer).symm

section Executions

variable {start : State ι τ} {a b c : List (Event ι τ)} {e₁ e₂ : Event ι τ}

theorem stored_between {after : Option Bytes}
    (hrun : Execution handles start (a ++ e₁ :: (b ++ e₂ :: c)) s)
    (h₁ : ∀ before, e₁.leaves p before = after) :
    ∃ u v, Step handles u e₂ v ∧ stored p after b = u.store.content.get? p := by
  obtain ⟨s₁, t₁, -, hstep₁, hrest⟩ := hrun.at_event
  obtain ⟨s₂, t₂, hb, hstep₂, -⟩ := hrest.at_event
  refine ⟨s₂, t₂, hstep₂, ?_⟩
  rw [execution_stored hb p, step_leaves hstep₁ p, h₁]

theorem deleted_between_creations {data₁ data₂ : Bytes}
    (hrun : Execution handles start (a ++ e₁ :: (b ++ e₂ :: c)) s) (h₁ : e₁.Writes p data₁ false)
    (h₂ : e₂.Writes p data₂ false) : ∃ e ∈ b, e.Deletes p := by
  obtain ⟨u, v, hstep, hfound⟩ := stored_between hrun fun _ => h₁.leaves_eq
  exact deleted_of_stored_none (hfound.trans (vacant_of_creation hstep h₂))

theorem written_between_deletes (hrun : Execution handles start (a ++ e₁ :: (b ++ e₂ :: c)) s)
    (h₁ : e₁.Deletes p) (h₂ : e₂.Deletes p) :
    ∃ e ∈ b, ∃ data overwrite, e.Writes p data overwrite := by
  obtain ⟨u, v, hstep, hfound⟩ := stored_between hrun fun _ => h₁.leaves_eq
  obtain ⟨data, hdata⟩ := Option.ne_none_iff_exists'.mp (stored_of_deletes hstep h₂)
  exact written_of_stored_some (hfound.trans hdata)

/-- On a store that was empty, a read replies with what was written last, and fails if there is no
such thing. -/
theorem read_written_last {t : τ} {i : ι} {r : Request} {reply : Except Fault Bytes}
    (hempty : start.store = .empty)
    (hrun : Execution handles start (a ++ .access t i r (.call (.readBytes p)) reply :: b) s) :
    (∀ data, reply = .ok data ↔ WrittenLast p data a) ∧
      (∀ why, reply = .error why ↔ why = .notFound p.text ∧ ∀ data, ¬ WrittenLast p data a) := by
  obtain ⟨s₁, t₁, ha, hstep, -⟩ := hrun.at_event
  have hcontent : s₁.store.content.get? p = stored p none a := by
    rw [execution_stored ha p, hempty]
    rfl
  have hreply : reply = s₁.store.read p := read_of_step hstep
  simp only [← stored_none_eq_some, ← hcontent, hreply, MemoryStore.read]
  cases s₁.store.content.get? p with
  | some data => simp
  | none => simp [eq_comm]

end Executions

/-- Steps of any requests to any handles come between each other on a store that was empty. A write
that may not overwrite changes nothing that is stored; of two such writes to a path that succeed, a
delete lies between; of two deletes of it, a write; a read replies with what was written last; and
the writes and deletes that end well are among those that succeed at the backend. -/
theorem interleaved_calls_lose_nothing {start : State ι τ} (hidle : Idle start)
    (hempty : start.store = .empty) (hrun : Execution handles start es s) (p : Path) :
    (∀ (u v : State ι τ) (t : τ) (i : ι) (r : Request) (q : Path) (data : Bytes)
        (reply : Except Fault Entry),
      Step handles u (.access t i r (.call (.write q data false)) reply) v →
        u.store.content.get? p ≠ none → v.store.content.get? p = u.store.content.get? p) ∧
    (∀ (a b c : List (Event ι τ)) (e₁ e₂ : Event ι τ) (data₁ data₂ : Bytes),
      es = a ++ e₁ :: (b ++ e₂ :: c) → e₁.Writes p data₁ false → e₂.Writes p data₂ false →
        ∃ e ∈ b, e.Deletes p) ∧
    (∀ (a b c : List (Event ι τ)) (e₁ e₂ : Event ι τ), es = a ++ e₁ :: (b ++ e₂ :: c) →
      e₁.Deletes p → e₂.Deletes p → ∃ e ∈ b, ∃ data overwrite, e.Writes p data overwrite) ∧
    (∀ (a b : List (Event ι τ)) (t : τ) (i : ι) (r : Request) (reply : Except Fault Bytes),
      es = a ++ .access t i r (.call (.readBytes p)) reply :: b →
        (∀ data, reply = .ok data ↔ WrittenLast p data a) ∧
          (∀ why, reply = .error why ↔ why = .notFound p.text ∧ ∀ data, ¬ WrittenLast p data a)) ∧
    (∀ (a b : List (Event ι τ)) (t : τ) (i : ι) (data : Bytes) (overwrite : Bool) (entry : Entry),
      es = a ++ .finish t i (.file p.text (.write data overwrite)) (.ok entry) :: b →
        Made t i (.file p.text (.write data overwrite)) (.write p data overwrite) (.ok entry) a) ∧
    (∀ (a b : List (Event ι τ)) (t : τ) (i : ι),
      es = a ++ .finish t i (.file p.text .delete) (.ok ()) :: b →
        Made t i (.file p.text .delete) (.delete p) (.ok ()) a) := by
  refine ⟨?_, ?_, ?_, ?_, ?_, ?_⟩
  · intro u v t i r q data reply hstep hstored
    exact creation_keeps hstep hstored
  · rintro a b c e₁ e₂ data₁ data₂ rfl h₁ h₂
    exact deleted_between_creations hrun h₁ h₂
  · rintro a b c e₁ e₂ rfl h₁ h₂
    exact written_between_deletes hrun h₁ h₂
  · rintro a b t i r reply rfl
    exact read_written_last hempty hrun
  · rintro a b t i data overwrite entry rfl
    obtain ⟨u, v, ha, hstep, -⟩ := hrun.at_event
    exact finish_write_made hidle ha hstep
  · rintro a b t i rfl
    obtain ⟨u, v, ha, hstep, -⟩ := hrun.at_event
    exact finish_delete_made hidle ha hstep

/-- Two callers create the same file at once, and the second one fails. It creates the file later,
when it has deleted the first. -/
theorem second_creation_follows_delete :
    let h : Handle := .ofNamespaces [.workspace]
    let p : Path := ⟨"/workspace/a", by decide⟩
    let create (data : Bytes) : Request := .file p.text (.write data false)
    let turns : List (Turn Unit Bool) :=
      [.start false () (create [1]), .start true () (create [2])] ++
      [.go false, .go true, .go false, .go true, .go false, .go true] ++
      [.go false, .go true, .go true] ++
      .start true () (.file p.text .delete) :: List.replicate 6 (.go true) ++
      .start true () (create [2]) :: List.replicate 4 (.go true)
    let es := (play (fun _ => h) ⟨0, 0⟩ turns ⟨.empty, fun _ => ∅, fun _ => none⟩).1
    es.length = 23 ∧ ∃ e ∈ (es.drop 9).take 13, e.Deletes p := by
  intro h p create turns es
  have hrun := play_execution (fun _ => h) ⟨0, 0⟩ turns ⟨.empty, fun _ => ∅, fun _ => none⟩
  refine ⟨by rfl, ?_⟩
  exact (interleaved_calls_lose_nothing (fun _ => rfl) rfl hrun p).2.1 (es.take 8)
    ((es.drop 9).take 13) [] _ _ [1] [2] (by rfl) ⟨_, _, _, _, rfl⟩ ⟨_, _, _, _, rfl⟩

end GrantFs.Interleaving
