import GrantFs.Diff.Script

/-! # Finding an edit script

The linear-space search of Myers: a middle snake splits the problem in two. The raw script is then
compacted by sliding insertions and deletions along equal lines, and neighbouring deletions and
insertions are joined to replacements.
-/
namespace GrantFs.Diff

/-- A rectangle of the comparison: the old lines from `i` to `i'`, the new ones from `j` to `j'`. -/
structure Window where
  i : Nat
  i' : Nat
  j : Nat
  j' : Nat
deriving Repr

/-- Furthest reaching points by diagonal, one table for each direction. -/
structure Frontier where
  offset : Int
  forward : Array Int
  backward : Array Int

namespace Frontier

def at_ (offset : Int) (table : Array Int) (k : Int) : Int := table.getD (k + offset).toNat 0

def put (offset : Int) (table : Array Int) (k x : Int) : Array Int :=
  table.setIfInBounds (k + offset).toNat x

end Frontier

def commonStart (old new : Array Text) : (fuel i i' j j' : Nat) → Nat
  | 0, _, _, _, _ => 0
  | fuel + 1, i, i', j, j' =>
    if i < i' ∧ j < j' ∧ old[i]? = new[j]? then
      commonStart old new fuel (i + 1) i' (j + 1) j' + 1
    else 0

def commonEnd (old new : Array Text) : (fuel i i' j j' : Nat) → Nat
  | 0, _, _, _, _ => 0
  | fuel + 1, i, i', j, j' =>
    if i < i' ∧ j < j' ∧ old[i' - 1]? = new[j' - 1]? then
      commonEnd old new fuel i (i' - 1) j (j' - 1) + 1
    else 0

/-- How many rounds of the search a problem of the given size can need. -/
def rounds (n m : Nat) : Nat := (n + m + 1) / 2 + 1

def reach (offset : Int) (table : Array Int) (d k : Int) (n m : Nat)
    (slide : (x y : Nat) → Nat) : Int × Int :=
  let below := Frontier.at_ offset table (k - 1)
  let above := Frontier.at_ offset table (k + 1)
  let x := if k = -d ∨ (k ≠ d ∧ below < above) then above else below + 1
  let y := x - k
  if 0 ≤ x ∧ x < n ∧ 0 ≤ y ∧ y < m then (x, x + slide x.toNat y.toNat) else (x, x)

/-- The forward diagonals `k`, `k - 2`, … of round `d`, `left` of them. -/
def forwardRound (old new : Array Text) (w : Window) (n m : Nat) (delta d : Int) :
    (left : Nat) → (k : Int) → Frontier → Option (Nat × Nat) × Frontier
  | 0, _, f => (none, f)
  | left + 1, k, f =>
    let (x0, x) := reach f.offset f.forward d k n m fun x y =>
      commonStart old new n (w.i + x) w.i' (w.j + y) w.j'
    let f := { f with forward := Frontier.put f.offset f.forward k x }
    if delta % 2 ≠ 0 ∧ (k - delta).natAbs ≤ d - 1 ∧
        (n : Int) ≤ x + Frontier.at_ f.offset f.backward (-(k - delta)) then
      (some (x0.toNat, (x0 - k).toNat), f)
    else forwardRound old new w n m delta d left (k - 2) f

def backwardRound (old new : Array Text) (w : Window) (n m : Nat) (delta d : Int) :
    (left : Nat) → (k : Int) → Frontier → Option (Nat × Nat) × Frontier
  | 0, _, f => (none, f)
  | left + 1, k, f =>
    let (_, x) := reach f.offset f.backward d k n m fun x y =>
      commonEnd old new n w.i (w.i + (n - x)) w.j (w.j + (m - y))
    let f := { f with backward := Frontier.put f.offset f.backward k x }
    if delta % 2 = 0 ∧ (k - delta).natAbs ≤ d ∧
        (n : Int) ≤ x + Frontier.at_ f.offset f.forward (-(k - delta)) then
      (some (n - x.toNat, m - (x - k).toNat), f)
    else backwardRound old new w n m delta d left (k - 2) f

/-- Rounds from `d` on, `left` of them, until the two directions meet. -/
def meet (old new : Array Text) (w : Window) (n m : Nat) (delta : Int) :
    (left d : Nat) → Frontier → Option (Nat × Nat) × Frontier
  | 0, _, f => (none, f)
  | left + 1, d, f =>
    match forwardRound old new w n m delta d (d + 1) d f with
    | (some point, f) => (some point, f)
    | (none, f) =>
      match backwardRound old new w n m delta d (d + 1) d f with
      | (some point, f) => (some point, f)
      | (none, f) => meet old new w n m delta left (d + 1) f

/-- The start of a middle snake, as offsets into the window. -/
def middle (old new : Array Text) (w : Window) (f : Frontier) : Option (Nat × Nat) × Frontier :=
  let n := w.i' - w.i
  let m := w.j' - w.j
  let f := { f with
    forward := Frontier.put f.offset f.forward 1 0
    backward := Frontier.put f.offset f.backward 1 0 }
  meet old new w n m ((n : Int) - m) (rounds n m) 0 f

/-- The raw script for a window; `fuel` bounds the depth of the halving. -/
def conquer (old new : Array Text) : (fuel : Nat) → Window → Frontier → Script × Frontier
  | 0, w, f =>
    ([.delete w.i (w.i' - w.i) w.j, .insert w.i w.j (w.j' - w.j)], f)
  | fuel + 1, w, f =>
    let start := commonStart old new (w.i' - w.i) w.i w.i' w.j w.j'
    let head : Script := if start = 0 then [] else [.equal w.i w.j start]
    let i := w.i + start
    let j := w.j + start
    let stop := commonEnd old new (w.i' - i) i w.i' j w.j'
    let i' := w.i' - stop
    let j' := w.j' - stop
    let tail : Script := if stop = 0 then [] else [.equal i' j' stop]
    let (body, f) : Script × Frontier :=
      if i = i' ∧ j = j' then ([], f)
      else if j = j' then ([.delete i (i' - i) j], f)
      else if i = i' then ([.insert i j (j' - j)], f)
      else
        match middle old new ⟨i, i', j, j'⟩ f with
        | (some (x, y), f) =>
          let (first, f) := conquer old new fuel ⟨i, i + x, j, j + y⟩ f
          let (second, f) := conquer old new fuel ⟨i + x, i', j + y, j'⟩ f
          (first ++ second, f)
        | (none, f) => ([.delete i (i' - i) j, .insert i j (j' - j)], f)
    (head ++ body ++ tail, f)

def rawScript (old new : Array Text) : Script :=
  let size := rounds old.size new.size
  let table := Array.replicate (2 * size) (0 : Int)
  (conquer old new (old.size + new.size + 1) ⟨0, old.size, 0, new.size⟩ ⟨size, table, table⟩).1

/-- A step that is being slid, with the steps before it, nearest first, and the steps after it. -/
structure Zipper where
  before : Script
  focus : Step
  after : Script

def Step.slide (s : Step) (up : Bool) (by_ : Nat) : Step :=
  if up then { s with old := s.old - by_, new := s.new - by_ }
  else { s with old := s.old + by_, new := s.new + by_ }

def Step.grow (s : Step) (by_ : Nat) : Step :=
  match s.kind with
  | .delete => { s with oldLen := s.oldLen + by_ }
  | .insert => { s with newLen := s.newLen + by_ }
  | _ => { s with oldLen := s.oldLen + by_, newLen := s.newLen + by_ }

def Step.shrink (s : Step) (by_ : Nat) : Step :=
  { s with oldLen := s.oldLen - by_, newLen := s.newLen - by_ }

/-- How far an insertion can slide over the equal lines before it. Deletions stay in place: their
side of the new row is empty. -/
def slackUp (old new : Array Text) (equal s : Step) : Nat :=
  commonEnd old new equal.oldLen equal.old equal.oldEnd s.new s.newEnd

def slackDown (old new : Array Text) (equal s : Step) : Nat :=
  commonStart old new equal.oldLen equal.old equal.oldEnd s.new s.newEnd

def slideUp (old new : Array Text) : (fuel : Nat) → Zipper → Zipper
  | 0, z => z
  | fuel + 1, z =>
    match z.before with
    | [] => z
    | prev :: before =>
      match prev.kind with
      | .equal =>
        let s := slackUp old new prev z.focus
        if 0 < s then
          let after : Script :=
            match z.after with
            | next :: rest =>
              if next.kind = .equal then (next.slide true s).grow s :: rest
              else .equal (prev.oldEnd - s) (z.focus.newEnd - s) s :: z.after
            | [] => [.equal (prev.oldEnd - s) (z.focus.newEnd - s) s]
          let prev := prev.shrink s
          let before := if prev.isEmpty then before else prev :: before
          slideUp old new fuel ⟨before, z.focus.slide true s, after⟩
        else if prev.isEmpty then slideUp old new fuel ⟨before, z.focus, z.after⟩
        else z
      | kind =>
        if kind = z.focus.kind then
          let joined := prev.grow (if kind = .delete then z.focus.oldLen else z.focus.newLen)
          slideUp old new fuel ⟨before, joined, z.after⟩
        else slideUp old new fuel ⟨before, z.focus, prev :: z.after⟩

def slideDown (old new : Array Text) : (fuel : Nat) → Zipper → Zipper
  | 0, z => z
  | fuel + 1, z =>
    match z.after with
    | [] => z
    | next :: after =>
      match next.kind with
      | .equal =>
        let s := slackDown old new next z.focus
        if 0 < s then
          let before : Script :=
            match z.before with
            | prev :: rest =>
              if prev.kind = .equal then prev.grow s :: rest
              else .equal next.old z.focus.new s :: z.before
            | [] => [.equal next.old z.focus.new s]
          let next := (next.slide false s).shrink s
          let after := if next.isEmpty then after else next :: after
          slideDown old new fuel ⟨before, z.focus.slide false s, after⟩
        else if next.isEmpty then slideDown old new fuel ⟨z.before, z.focus, after⟩
        else z
      | kind =>
        if kind = z.focus.kind then
          let joined := z.focus.grow (if kind = .delete then next.oldLen else next.newLen)
          slideDown old new fuel ⟨z.before, joined, after⟩
        else slideDown old new fuel ⟨next :: z.before, z.focus, after⟩

def compactKind (old new : Array Text) (slack : Nat) (kind : StepKind) :
    (fuel : Nat) → (before after : Script) → Script
  | 0, before, after => before.reverse ++ after
  | _ + 1, before, [] => before.reverse
  | fuel + 1, before, s :: after =>
    if s.kind = kind then
      let z := slideDown old new slack (slideUp old new slack ⟨before, s, after⟩)
      compactKind old new slack kind fuel (z.focus :: z.before) z.after
    else compactKind old new slack kind fuel (s :: before) after

def compact (old new : Array Text) (script : Script) : Script :=
  let slack := 4 * (old.size + new.size + script.length) + 4
  let script := compactKind old new slack .delete slack [] script
  compactKind old new slack .insert slack [] script

structure Pending where
  delete : Option Step
  insert : Option Step

def Pending.flush (p : Pending) : Script :=
  match p.delete, p.insert with
  | some d, some i => [.replace d.old d.oldLen i.new i.newLen]
  | some d, none => [d]
  | none, some i => [i]
  | none, none => []

def Pending.add (p : Pending) (s : Step) : Pending :=
  match s.kind with
  | .delete =>
    { p with delete := some (match p.delete with
      | some d => d.grow s.oldLen
      | none => s) }
  | _ =>
    { p with insert := some (match p.insert with
      | some i => i.grow s.newLen
      | none => s) }

/-- Joins equal neighbours, and all steps between two equal ones. -/
def join (equal : Option Step) (pending : Pending) : Script → Script
  | [] => equal.toList ++ pending.flush
  | s :: rest =>
    match s.kind with
    | .equal =>
      match equal with
      | some e => join (some (e.grow s.oldLen)) pending rest
      | none => pending.flush ++ join (some s) ⟨none, none⟩ rest
    | _ => equal.toList ++ join none (pending.add s) rest

/-- A script from `old` to `new`. Should the search ever leave a gap, the whole row is replaced. -/
def script (old new : List Text) : Script :=
  let a := old.toArray
  let b := new.toArray
  let found := join none ⟨none, none⟩ (compact a b (rawScript a b))
  if covers old new found then found
  else if old.isEmpty && new.isEmpty then []
  else [.replace 0 old.length 0 new.length]

theorem covers_script (old new : List Text) : covers old new (script old new) = true := by
  rw [script]
  split
  next hcovers => exact hcovers
  next =>
    split
    next hempty =>
      rw [Bool.and_eq_true, List.isEmpty_iff, List.isEmpty_iff] at hempty
      rw [hempty.1, hempty.2]
      rfl
    next hne =>
      have hsome : ¬(old.length = 0 ∧ new.length = 0) := by
        rintro ⟨hold, hnew⟩
        rw [List.eq_nil_of_length_eq_zero hold, List.eq_nil_of_length_eq_zero hnew] at hne
        exact hne rfl
      have hempty : (Step.replace 0 old.length 0 new.length).isEmpty = false := by
        simpa [Step.isEmpty, Step.replace] using hsome
      simp [covers, coversFrom, hempty]
      simp [Step.replace]

/-- Lines with their ends, compared by the search of Myers. -/
def Differ.myers : Differ where
  lines := tokens
  script := Diff.script
  flatten_lines := flatten_tokens
  covers_script := Diff.covers_script

end GrantFs.Diff
