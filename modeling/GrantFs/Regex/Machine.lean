import GrantFs.Regex.Parser
import GrantFs.Regex.Searcher

/-! # Matching

A pattern becomes a numbered list of states. Matching at a place follows all states at once, in
order of preference, and drops a state that is already followed by a preferred one, so its cost is
bounded by the lengths of pattern and text. Main statement: a search finds the first place at or
behind a position at which the pattern matches.
-/
namespace GrantFs.Regex

open Text (isBoundary)

/-- A state: what it needs, and the states behind it in order of preference. -/
inductive State where
  | char (set : CharSet) (next : Nat)
  | look (anchor : Anchor) (next : Nat)
  | fork (first second : Nat)
  | accept

structure Machine where
  states : Array State
  start : Nat

def forkBy (greedy : Bool) (onward out : Nat) : State :=
  if greedy then .fork onward out else .fork out onward

/-- Adds states in front of the state `next`; gives the first of them. -/
abbrev Fragment := (next : Nat) → Array State → Nat × Array State

namespace Fragment

def copies (body : Fragment) : (count : Nat) → Fragment
  | 0, next, states => (next, states)
  | count + 1, next, states =>
    let (second, states) := copies body count next states
    body second states

/-- Up to `count` copies, each of which may be left for the end. -/
def optionals (body : Fragment) (greedy : Bool) (out : Nat) : (count : Nat) → Fragment
  | 0, next, states => (next, states)
  | count + 1, next, states =>
    let (second, states) := optionals body greedy out count next states
    let (first, states) := body second states
    (states.size, states.push (forkBy greedy first out))

/-- One copy or more: the state behind the body decides whether to go on. -/
def plus (body : Fragment) (greedy : Bool) : Fragment := fun next states =>
  let again := states.size
  let (first, states) := body again (states.push .accept)
  (first, states.setIfInBounds again (forkBy greedy first next))

/-- Any number of copies. A body that can match the empty text is entered once before it is
repeated, which keeps the order of preference. -/
def star (body : Fragment) (nullable greedy : Bool) : Fragment := fun next states =>
  if nullable then
    let (first, states) := plus body greedy next states
    (states.size, states.push (forkBy greedy first next))
  else
    let again := states.size
    let (first, states) := body again (states.push .accept)
    (again, states.setIfInBounds again (forkBy greedy first next))

end Fragment

def Tree.fragment : Tree → Fragment
  | empty => fun next states => (next, states)
  | char set => fun next states => (states.size, states.push (.char set next))
  | look anchor => fun next states => (states.size, states.push (.look anchor next))
  | seq a b => fun next states =>
    let (second, states) := b.fragment next states
    a.fragment second states
  | alt a b => fun next states =>
    let (second, states) := b.fragment next states
    let (first, states) := a.fragment next states
    (states.size, states.push (.fork first second))
  | repeated body least none greedy => fun next states =>
    match least with
    | 0 => Fragment.star body.fragment body.nullable greedy next states
    | least + 1 =>
      let (last, states) := Fragment.plus body.fragment greedy next states
      Fragment.copies body.fragment least last states
  | repeated body least (some most) greedy => fun next states =>
    let (rest, states) :=
      Fragment.optionals body.fragment greedy next (most - least) next states
    Fragment.copies body.fragment least rest states

def Tree.machine (t : Tree) : Machine :=
  let (start, states) := t.fragment 0 #[.accept]
  ⟨states, start⟩

namespace Machine

/-- The states that wait for a character, in order of preference and the last one first, and whether
the end of the pattern was reached. States behind the end are less preferred and dropped. -/
def waiting (m : Machine) (before after : Option Char) : (fuel : Nat) → (pending : List Nat) →
    (seen : Array Bool) → (found : List Nat) → List Nat × Bool
  | 0, _, _, found => (found, false)
  | _ + 1, [], _, found => (found, false)
  | fuel + 1, s :: pending, seen, found =>
    if seen.getD s true then waiting m before after fuel pending seen found
    else
      let seen := seen.setIfInBounds s true
      match m.states[s]? with
      | some (.char ..) => waiting m before after fuel pending seen (s :: found)
      | some (.look anchor next) =>
        if anchor.holds before after then waiting m before after fuel (next :: pending) seen found
        else waiting m before after fuel pending seen found
      | some (.fork first second) =>
        waiting m before after fuel (first :: second :: pending) seen found
      | some .accept => (found, true)
      | none => waiting m before after fuel pending seen found

def next? (m : Machine) (c : Char) (s : Nat) : Option Nat :=
  match m.states[s]? with
  | some (.char set next) => if set.has c.toNat then some next else none
  | _ => none

def step (m : Machine) (c : Char) (found : List Nat) : List Nat :=
  found.reverse.filterMap (m.next? c)

/-- Follows the states through the text; `length` counts the bytes that are behind, and `best` is
the length of the best match so far. -/
def follow (m : Machine) : (before : Option Char) → (length : Nat) → (pending : List Nat) →
    (best : Option Nat) → Text → Option Nat
  | before, length, pending, best, t =>
    if pending.isEmpty then best
    else
      let (found, accepted) :=
        waiting m before t.head? (4 * m.states.size + 4) pending
          (Array.replicate m.states.size false) []
      let best := if accepted then some length else best
      match t with
      | [] => best
      | c :: rest => follow m (some c) (length + c.utf8Size) (m.step c found) best rest

def matchLength (m : Machine) (before : Option Char) (t : Text) : Option Nat :=
  m.follow before 0 [m.start] none t

/-- Where a match that starts at a place ends. -/
def matchAt (m : Machine) (t : Text) (start : Nat) : Option Nat :=
  (m.matchLength (Text.truncate start t).getLast? (Text.dropBytes start t)).map (start + ·)

def search (m : Machine) : (before : Option Char) → (position : Nat) → Text → Option Match
  | before, position, [] =>
    (m.matchLength before []).map fun length => ⟨position, position + length⟩
  | before, position, c :: rest =>
    match m.matchLength before (c :: rest) with
    | some length => some ⟨position, position + length⟩
    | none => search m (some c) (position + c.utf8Size) rest

/-- The first match at or behind a position; what lies before it still counts for assertions. -/
def findAt (m : Machine) (t : Text) (position : Nat) : Option Match :=
  m.search (Text.truncate position t).getLast? position (Text.dropBytes position t)

variable {m : Machine} {t before after : Text} {found : Match} {length n : Nat}
  {last : Option Char} {pending : List Nat} {best : Option Nat}

theorem follow_nil_cases (m : Machine) (last : Option Char) (length : Nat) (pending : List Nat)
    (best : Option Nat) :
    m.follow last length pending best [] = best ∨
      m.follow last length pending best [] = some length := by
  rw [follow]
  split
  · exact .inl rfl
  · dsimp only
    split
    · exact .inr rfl
    · exact .inl rfl

theorem follow_cons_cases (m : Machine) (last : Option Char) (length : Nat) (pending : List Nat)
    (best : Option Nat) (c : Char) (t : Text) :
    m.follow last length pending best (c :: t) = best ∨
      ∃ pending' best', (best' = best ∨ best' = some length) ∧
        m.follow last length pending best (c :: t) =
          m.follow (some c) (length + c.utf8Size) pending' best' t := by
  rw [follow]
  split
  · exact .inl rfl
  · refine .inr ⟨_, _, ?_, rfl⟩
    split
    · exact .inr rfl
    · exact .inl rfl

theorem follow_eq_some (h : m.follow last length pending best t = some n) :
    best = some n ∨ ∃ matched, matched <+: t ∧ n = length + Text.byteSize matched := by
  induction t generalizing last length pending best with
  | nil =>
    rcases follow_nil_cases m last length pending best with heq | heq
    · exact .inl (heq.symm.trans h)
    · rw [heq, Option.some.injEq] at h
      exact .inr ⟨[], List.nil_prefix, h.symm⟩
  | cons c t ih =>
    rcases follow_cons_cases m last length pending best c t with heq | ⟨pending', best', hbest, heq⟩
    · exact .inl (heq.symm.trans h)
    · rw [heq] at h
      rcases ih h with hfound | ⟨matched, hmatched, hn⟩
      · rcases hbest with rfl | rfl
        · exact .inl hfound
        · rw [Option.some.injEq] at hfound
          exact .inr ⟨[], List.nil_prefix, hfound.symm⟩
      · refine .inr ⟨c :: matched, List.cons_prefix_cons.mpr ⟨rfl, hmatched⟩, ?_⟩
        rw [hn, Text.byteSize_cons, Nat.add_assoc]

theorem matchAt_append (m : Machine) (before after : Text) :
    m.matchAt (before ++ after) (Text.byteSize before) =
      (m.matchLength before.getLast? after).map (Text.byteSize before + ·) := by
  rw [matchAt, Text.truncate_byteSize, Text.dropBytes_byteSize]

theorem matchAt_sound {start stop : Nat} (hstart : isBoundary t start = true)
    (h : m.matchAt t start = some stop) : start ≤ stop ∧ isBoundary t stop = true := by
  obtain ⟨before, after, rfl, rfl⟩ := Text.exists_split_of_isBoundary hstart
  rw [matchAt_append, Option.map_eq_some_iff] at h
  obtain ⟨length, hlength, rfl⟩ := h
  rcases follow_eq_some hlength with hnone | ⟨matched, hmatched, rfl⟩
  · cases hnone
  · rw [Nat.zero_add, ← Text.byteSize_append]
    refine ⟨Text.byteSize_mono (List.prefix_append ..), Text.isBoundary_of_beginning ?_⟩
    exact (List.prefix_append_right_inj before).mpr hmatched

theorem search_eq_some (m : Machine) (before after : Text) :
    m.search before.getLast? (Text.byteSize before) after = some found ↔
      found.IsFirst (before ++ after) (m.matchAt (before ++ after)) (Text.byteSize before) := by
  induction after generalizing before with
  | nil =>
    have hat := Text.isBoundary_of_beginning (List.prefix_append before [])
    have hmatch := m.matchAt_append before []
    rw [search]
    cases hlength : m.matchLength before.getLast? [] with
    | some length =>
      rw [hlength] at hmatch
      rw [Match.IsFirst.of_matchAt hat hmatch, Option.map_some, Option.some.injEq, eq_comm]
    | none =>
      rw [hlength] at hmatch
      rw [Match.IsFirst.succ hmatch]
      refine iff_of_false (by simp) fun h => ?_
      have hend := Text.le_of_isBoundary h.start
      rw [List.append_nil] at hend
      exact Nat.not_lt.mpr hend h.onward
  | cons c after ih =>
    have hat := Text.isBoundary_of_beginning (List.prefix_append before (c :: after))
    have hmatch := m.matchAt_append before (c :: after)
    rw [search]
    cases hlength : m.matchLength before.getLast? (c :: after) with
    | some length =>
      rw [hlength] at hmatch
      rw [Match.IsFirst.of_matchAt hat hmatch, Option.some.injEq, eq_comm]
    | none =>
      rw [hlength] at hmatch
      have hrest := ih (before ++ [c])
      have hsplit : (before ++ [c]) ++ after = before ++ c :: after := List.append_cons .. |>.symm
      have hsize : Text.byteSize (before ++ [c]) = Text.byteSize before + c.utf8Size :=
        Text.byteSize_append before [c]
      rw [hsplit, List.getLast?_concat] at hrest
      rw [Match.IsFirst.succ hmatch, Match.IsFirst.nextBoundary, Text.nextBoundary_succ, ← hrest,
        hsize]

/-- What is found at a boundary is the first match at or behind it. -/
theorem findAt_eq_some {position : Nat} (h : isBoundary t position = true) :
    m.findAt t position = some found ↔ found.IsFirst t (m.matchAt t) position := by
  obtain ⟨before, after, rfl, rfl⟩ := Text.exists_split_of_isBoundary h
  rw [findAt, Text.truncate_byteSize, Text.dropBytes_byteSize]
  exact m.search_eq_some before after

def searcher (m : Machine) (t : Text) : Searcher t where
  find := m.findAt t
  sound h hfound := by
    have hfirst := (findAt_eq_some h).mp hfound
    obtain ⟨hle, hstop⟩ := matchAt_sound hfirst.start hfirst.stop
    exact ⟨hfirst.onward, hle, hfirst.start, hstop⟩

theorem searcher_leftmost (m : Machine) (t : Text) : (m.searcher t).Leftmost (m.matchAt t) :=
  findAt_eq_some

end Machine
end GrantFs.Regex
