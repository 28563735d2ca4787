/-! # Programs that ask

A program either is finished or asks something and goes on with the reply. What is asked is kept
apart from who answers: the same program runs against a state in memory, against a step relation or
against the operating system. Main statements: programs form a lawful monad, and running a sequence
is running its parts one after the other.
-/
namespace GrantFs

/-- The questions of a kind of program, with the type of the reply to each. -/
structure Signature where
  Ask : Type
  Reply : Ask → Type

inductive Program (S : Signature) (α : Type) : Type where
  | done (a : α)
  | ask (q : S.Ask) (next : S.Reply q → Program S α)

namespace Program

variable {S : Signature} {α β γ σ : Type}

def bind : Program S α → (α → Program S β) → Program S β
  | done a, f => f a
  | ask q next, f => ask q fun r => bind (next r) f

instance : Monad (Program S) where
  pure := done
  bind := bind

@[simp] theorem pure_eq (a : α) : (pure a : Program S α) = done a := rfl

@[simp] theorem bind_eq (x : Program S α) (f : α → Program S β) : x >>= f = x.bind f := rfl

@[simp] theorem done_bind (a : α) (f : α → Program S β) : (done a).bind f = f a := rfl

@[simp] theorem ask_bind (q : S.Ask) (next : S.Reply q → Program S α) (f : α → Program S β) :
    (ask q next).bind f = ask q fun r => (next r).bind f := rfl

@[simp] theorem bind_done (x : Program S α) : x.bind done = x := by
  induction x with
  | done a => rfl
  | ask q next ih => simp [ih]

theorem bind_assoc (x : Program S α) (f : α → Program S β) (g : β → Program S γ) :
    (x.bind f).bind g = x.bind fun a => (f a).bind g := by
  induction x with
  | done a => rfl
  | ask q next ih => simp [ih]

instance : LawfulMonad (Program S) :=
  LawfulMonad.mk' (Program S) (fun x => bind_done x) (fun _ _ => rfl) bind_assoc

def question (q : S.Ask) : Program S (S.Reply q) := ask q done

@[simp] theorem question_bind (q : S.Ask) (f : S.Reply q → Program S α) :
    (question q).bind f = ask q f := rfl

def run (answer : (q : S.Ask) → σ → S.Reply q × σ) : Program S α → σ → α × σ
  | done a, s => (a, s)
  | ask q next, s => run answer (next (answer q s).1) (answer q s).2

@[simp] theorem run_done (answer : (q : S.Ask) → σ → S.Reply q × σ) (a : α) (s : σ) :
    (done a).run answer s = (a, s) := rfl

@[simp] theorem run_ask (answer : (q : S.Ask) → σ → S.Reply q × σ) (q : S.Ask)
    (next : S.Reply q → Program S α) (s : σ) :
    (ask q next).run answer s = (next (answer q s).1).run answer (answer q s).2 := rfl

theorem run_bind (answer : (q : S.Ask) → σ → S.Reply q × σ) (x : Program S α)
    (f : α → Program S β) (s : σ) :
    (x.bind f).run answer s = (f (x.run answer s).1).run answer (x.run answer s).2 := by
  induction x generalizing s with
  | done a => rfl
  | ask q next ih => simp [ih]

def runIn {m : Type → Type} [Monad m] (answer : (q : S.Ask) → m (S.Reply q)) : Program S α → m α
  | done a => pure a
  | ask q next => do runIn answer (next (← answer q))

end Program
end GrantFs
