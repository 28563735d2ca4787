import GrantFs.Access

/-! # What programs ask

A program asks only certain questions if all questions in its tree are such, whatever is replied.
Main statements: what every such question keeps, a run keeps; and two runs whose answers agree on
such questions end alike. Actions inherit both, and each run of an action is the run of its parts.
-/
namespace GrantFs

namespace Program

variable {S : Signature} {α β σ : Type}

/-- Every question that the program can ask satisfies `P`, whatever the replies are. -/
def Asks (P : S.Ask → Prop) : Program S α → Prop
  | done _ => True
  | ask q next => P q ∧ ∀ r, (next r).Asks P

def questions (answer : (q : S.Ask) → σ → S.Reply q × σ) : Program S α → σ → List S.Ask
  | done _, _ => []
  | ask q next, s => q :: (next (answer q s).1).questions answer (answer q s).2

theorem Asks.mono {P Q : S.Ask → Prop} (hPQ : ∀ q, P q → Q q) {x : Program S α}
    (h : x.Asks P) : x.Asks Q := by
  induction x with
  | done a => trivial
  | ask q next ih => exact ⟨hPQ q h.1, fun r => ih r (h.2 r)⟩

theorem Asks.bind {P : S.Ask → Prop} {x : Program S α} {f : α → Program S β}
    (h : x.Asks P) (hf : ∀ a, (f a).Asks P) : (x.bind f).Asks P := by
  induction x with
  | done a => exact hf a
  | ask q next ih => exact ⟨h.1, fun r => ih r (h.2 r)⟩

/-- What each permitted question keeps, the whole run keeps. -/
theorem Asks.run_preserves {P : S.Ask → Prop} {answer : (q : S.Ask) → σ → S.Reply q × σ}
    {I : σ → Prop} (keep : ∀ q s, P q → I s → I (answer q s).2) {x : Program S α}
    (h : x.Asks P) {s : σ} (hs : I s) : I (x.run answer s).2 := by
  induction x generalizing s with
  | done a => exact hs
  | ask q next ih => exact ih _ (h.2 _) (keep q s h.1 hs)

/-- Related states that answer each permitted question alike lead to the same result and to
related states. -/
theorem Asks.run_related {P : S.Ask → Prop} {answer : (q : S.Ask) → σ → S.Reply q × σ}
    {R : σ → σ → Prop}
    (agree : ∀ q s t, P q → R s t →
      (answer q s).1 = (answer q t).1 ∧ R (answer q s).2 (answer q t).2)
    {x : Program S α} (h : x.Asks P) {s t : σ} (hst : R s t) :
    (x.run answer s).1 = (x.run answer t).1 ∧ R (x.run answer s).2 (x.run answer t).2 := by
  induction x generalizing s t with
  | done a => exact ⟨rfl, hst⟩
  | ask q next ih =>
    obtain ⟨hreply, hnext⟩ := agree q s t h.1 hst
    simp only [run_ask]
    rw [← hreply]
    exact ih _ (h.2 _) hnext

end Program

/-- Accesses that are calls of the given kind, or have to do with the index alone. -/
def Access.Within (M : Call → Prop) : Access → Prop
  | .call c => M c
  | _ => True

namespace Action

variable {α β σ : Type} {P : Access → Prop}

theorem run_bind (x : Action α) (f : α → Action β) :
    (x >>= f).run = x.run.bind fun
      | .ok a => (f a).run
      | .error why => .done (.error why) := by
  refine congrArg x.run.bind (funext fun r => ?_)
  cases r <;> rfl

theorem run_lift (e : Except Fault α) : (liftM e : Action α).run = .done e := rfl

theorem run_outcome_bind (x : Action α) (f : Except Fault α → Action β) :
    (outcome x >>= f).run = x.run.bind fun reply => (f reply).run :=
  Program.bind_assoc ..

def Asks (P : Access → Prop) (x : Action α) : Prop := Program.Asks (S := Access.signature) P x.run

theorem Asks.mono {Q : Access → Prop} (hPQ : ∀ q, P q → Q q) {x : Action α} (h : x.Asks P) :
    x.Asks Q := Program.Asks.mono hPQ h

theorem Asks.within_mono {M N : Call → Prop} (hMN : ∀ c, M c → N c) {x : Action α}
    (h : x.Asks (Access.Within M)) : x.Asks (Access.Within N) := by
  refine h.mono fun q hq => ?_
  cases q with
  | call c => exact hMN c hq
  | _ => trivial

theorem asks_pure (a : α) : (pure a : Action α).Asks P := trivial

theorem asks_throw (why : Fault) : (throw why : Action α).Asks P := trivial

theorem Asks.bind {x : Action α} {f : α → Action β} (h : x.Asks P) (hf : ∀ a, (f a).Asks P) :
    (x >>= f).Asks P := by
  unfold Asks
  rw [run_bind]
  refine Program.Asks.bind h fun r => ?_
  cases r with
  | ok a => exact hf a
  | error why => trivial

theorem asks_check {e : Except Fault α} {f : α → Action β} (hf : ∀ a, e = .ok a → (f a).Asks P) :
    (liftM e >>= f : Action β).Asks P := by
  unfold Asks
  rw [run_bind, run_lift]
  cases e with
  | ok a => exact hf a rfl
  | error why => trivial

theorem asks_call {c : Call} (h : P (.call c)) : (call c).Asks P := ⟨h, fun _ => trivial⟩

theorem asks_lookup {path : Path} (h : P (.lookup path)) : (lookup path).Asks P :=
  ⟨h, fun _ => trivial⟩

theorem asks_entries (h : P .entries) : entries.Asks P := ⟨h, fun _ => trivial⟩

theorem asks_replaceIndex {s : Snapshot} (h : P (.replaceIndex s)) : (replaceIndex s).Asks P :=
  ⟨h, fun _ => trivial⟩

theorem asks_insertIndex {path : Path} {e : Entry} (h : P (.insertIndex path e)) :
    (insertIndex path e).Asks P := ⟨h, fun _ => trivial⟩

theorem asks_removeIndex {path : Path} (h : P (.removeIndex path)) :
    (removeIndex path).Asks P := ⟨h, fun _ => trivial⟩

theorem Asks.outcome {x : Action α} (h : x.Asks P) : (outcome x).Asks P :=
  Program.Asks.bind h fun _ => trivial

variable {b : Backend σ} {w : World σ}

@[simp] theorem runWith_lift (e : Except Fault α) : (liftM e : Action α).runWith b w = (e, w) := rfl

@[simp] theorem runWith_call (c : Call) :
    (call c).runWith b w = ((b c w.store).1, { w with store := (b c w.store).2 }) := rfl

@[simp] theorem runWith_lookup (path : Path) :
    (lookup path).runWith b w = (.ok (w.index.get? path), w) := rfl

theorem runWith_bind (x : Action α) (f : α → Action β) :
    (x >>= f).runWith b w =
      match x.runWith b w with
      | (.ok a, w') => (f a).runWith b w'
      | (.error why, w') => (.error why, w') := by
  have continued : ∀ out : Except Fault α × World σ,
      Program.run b.answer (match out.1 with
        | .ok a => (f a).run
        | .error why => .done (.error why)) out.2 =
      match out with
      | (.ok a, w') => (f a).runWith b w'
      | (.error why, w') => (.error why, w') := by
    rintro ⟨_ | _, _⟩ <;> rfl
  unfold runWith
  rw [run_bind, Program.run_bind]
  exact continued _

theorem runWith_bind_ok {x : Action α} {f : α → Action β} {a : α} {w' : World σ}
    (h : x.runWith b w = (.ok a, w')) : (x >>= f).runWith b w = (f a).runWith b w' := by
  rw [runWith_bind, h]

theorem runWith_bind_error {x : Action α} {f : α → Action β} {why : Fault} {w' : World σ}
    (h : x.runWith b w = (.error why, w')) : (x >>= f).runWith b w = (.error why, w') := by
  rw [runWith_bind, h]

theorem runWith_bind_eq_ok {x : Action α} {f : α → Action β} {c : β} {w₂ : World σ} :
    (x >>= f).runWith b w = (.ok c, w₂) ↔
      ∃ a w₁, x.runWith b w = (.ok a, w₁) ∧ (f a).runWith b w₁ = (.ok c, w₂) := by
  rw [runWith_bind]
  rcases x.runWith b w with ⟨_ | a, w₁⟩
  · simp
  · constructor
    · exact fun hrest => ⟨a, w₁, rfl, hrest⟩
    · rintro ⟨_, _, ⟨⟩, hrest⟩
      exact hrest

/-- What holds of the result of a run and of the world it ends in. -/
def Ends (b : Backend σ) (x : Action α) (w : World σ) (Q : Except Fault α → World σ → Prop) :
    Prop :=
  Q (x.runWith b w).1 (x.runWith b w).2

theorem Ends.imp {x : Action α} {Q R : Except Fault α → World σ → Prop} (h : x.Ends b w Q)
    (hQR : ∀ r w', Q r w' → R r w') : x.Ends b w R := hQR _ _ h

theorem ends_pure {a : α} {Q : Except Fault α → World σ → Prop} (h : Q (.ok a) w) :
    (pure a : Action α).Ends b w Q := h

theorem Ends.bind {x : Action α} {f : α → Action β} {Q : Except Fault α → World σ → Prop}
    {R : Except Fault β → World σ → Prop} (h : x.Ends b w Q)
    (hfail : ∀ why w', Q (.error why) w' → R (.error why) w')
    (hrest : ∀ a w', Q (.ok a) w' → (f a).Ends b w' R) : (x >>= f).Ends b w R := by
  unfold Ends at h ⊢
  rw [runWith_bind]
  rcases hrun : x.runWith b w with ⟨_ | a, w'⟩
  · rw [hrun] at h
    exact hfail _ _ h
  · rw [hrun] at h
    exact hrest a w' h

theorem ends_check {e : Except Fault α} {f : α → Action β} {R : Except Fault β → World σ → Prop}
    (hfail : ∀ why, e = .error why → R (.error why) w)
    (hrest : ∀ a, e = .ok a → (f a).Ends b w R) : (liftM e >>= f : Action β).Ends b w R := by
  unfold Ends
  rw [runWith_bind, runWith_lift]
  cases e with
  | ok a => exact hrest a rfl
  | error why => exact hfail why rfl

def accesses (b : Backend σ) (x : Action α) (w : World σ) : List Access :=
  Program.questions b.answer x.run w

theorem Asks.store_preserved {M : Call → Prop} {I : σ → Prop}
    (keep : ∀ c s, M c → I s → I (b c s).2) {x : Action α} (h : x.Asks (Access.Within M))
    (hw : I w.store) : I (x.runWith b w).2.store := by
  refine Program.Asks.run_preserves (I := fun w : World σ => I w.store) ?_ h hw
  intro q w hq hw
  cases q with
  | call c => exact keep c w.store hq hw
  | _ => exact hw

/-- Stores that answer all calls of some kind alike are told apart by no action that makes only
such calls. -/
theorem Asks.stores_related {M : Call → Prop} {R : σ → σ → Prop}
    (agree : ∀ c s t, M c → R s t → (b c s).1 = (b c t).1 ∧ R (b c s).2 (b c t).2)
    {x : Action α} (h : x.Asks (Access.Within M)) {v w : World σ} (hindex : v.index = w.index)
    (hstore : R v.store w.store) :
    (x.runWith b v).1 = (x.runWith b w).1 ∧
      (x.runWith b v).2.index = (x.runWith b w).2.index ∧
      R (x.runWith b v).2.store (x.runWith b w).2.store := by
  refine Program.Asks.run_related (R := fun v w : World σ => v.index = w.index ∧ R v.store w.store)
    ?_ h ⟨hindex, hstore⟩
  rintro q ⟨s, i⟩ ⟨t, _⟩ hq ⟨rfl, hst⟩
  cases q with
  | call c =>
    obtain ⟨hreply, hnext⟩ := agree c s t hq hst
    exact ⟨hreply, rfl, hnext⟩
  | _ => exact ⟨rfl, rfl, hst⟩

end Action
end GrantFs
