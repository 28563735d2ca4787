import GrantFs.Fault
import GrantFs.Regex.Machine

/-! # Scans

A scan lists the matches of a pattern in a text. The plain scan goes on behind each match. The
overlapping scan starts anew inside of the last match, so that two matches may share some bytes.
Both are given a searcher, so what they do can be stated without a pattern; that a searcher finds
nothing before the place where it starts is what lets them end.
-/
namespace GrantFs.Regex

open Text (Cursor isBoundary byteSize)

/-- How many bytes behind the start of a match the next search starts. -/
def stride (overlap size : Nat) : Nat := max 1 (size - overlap)

/-- Where an overlapping scan goes on behind a match. -/
def Match.behind (t : Text) (overlap : Nat) (m : Match) : Cursor t :=
  .onward t (m.start + stride overlap m.size)

structure Search where
  position : Nat
  found : Option Match
deriving DecidableEq, Repr

namespace Searcher

variable {t : Text} {f : Searcher t} {c : Cursor t} {m : Match} {last : Option Nat}

theorem within_of_search (h : f.search c = some m) : m.Within t c.position := by
  rw [search] at h
  split at h
  next hc => exact f.sound (c.sound hc) h
  next => cases h

theorem behind_lt (overlap : Nat) (h : m.Within t c.position) :
    c.position < (m.behind t overlap).position := by
  have hnext := Text.le_nextBoundary t (m.start + stride overlap m.size)
  have hstride : 1 ≤ stride overlap m.size := Nat.le_max_left ..
  have honward := h.onward
  show c.position < Text.nextBoundary t (m.start + stride overlap m.size)
  omega

def searchesFrom (f : Searcher t) (overlap : Nat) (c : Cursor t) : List Search :=
  if hc : c.position ≤ byteSize t then
    match hm : f.find c.position with
    | none => [⟨c.position, none⟩]
    | some m =>
      have := behind_lt overlap (f.sound (c.sound hc) hm)
      ⟨c.position, some m⟩ :: searchesFrom f overlap (m.behind t overlap)
  else []
termination_by byteSize t + 1 - c.position

def searches (f : Searcher t) (overlap : Nat) : List Search := f.searchesFrom overlap (.start t)

/-- The match at or behind a place. An empty one where the last match ended is passed over for the
next one at a later character. -/
def resume (f : Searcher t) (last : Option Nat) (c : Cursor t) : Option Match :=
  match f.search c with
  | none => none
  | some m =>
    if m.start = m.stop ∧ last = some m.stop then f.search (.onward t (m.stop + 1)) else some m

theorem resume_cases (h : f.resume last c = some m) :
    f.search c = some m ∧ ¬ (m.start = m.stop ∧ last = some m.stop) ∨
      ∃ passed, f.search c = some passed ∧ (passed.start = passed.stop ∧ last = some passed.stop) ∧
        f.search (.onward t (passed.stop + 1)) = some m := by
  rw [resume] at h
  split at h
  next => cases h
  next passed hpassed =>
    split at h
    next hempty => exact .inr ⟨passed, hpassed, hempty, h⟩
    next hkept =>
      cases h
      exact .inl ⟨hpassed, hkept⟩

theorem within_of_resume (h : f.resume last c = some m) : m.Within t c.position := by
  rcases resume_cases h with ⟨hm, -⟩ | ⟨passed, hpassed, -, hm⟩
  · exact within_of_search hm
  · have hbefore := within_of_search hpassed
    have hfound := within_of_search hm
    have honward : passed.stop + 1 ≤ m.start :=
      Nat.le_trans (Text.le_nextBoundary t _) hfound.onward
    have hstart := Nat.le_trans hbefore.onward hbefore.ordered
    exact ⟨by omega, hfound.ordered, hfound.start, hfound.stop⟩

theorem lt_stop_of_resume (h : f.resume (some c.position) c = some m) : c.position < m.stop := by
  rcases resume_cases h with ⟨hm, hkept⟩ | ⟨passed, hpassed, -, hm⟩
  · have hfound := within_of_search hm
    have honward := hfound.onward
    have hordered := hfound.ordered
    rw [Option.some.injEq] at hkept
    omega
  · have hbefore := within_of_search hpassed
    have hfound := within_of_search hm
    have hlater : passed.stop + 1 ≤ m.start :=
      Nat.le_trans (Text.le_nextBoundary t _) hfound.onward
    have hstart := Nat.le_trans hbefore.onward hbefore.ordered
    have hordered := hfound.ordered
    omega

def plainFrom (f : Searcher t) (last : Option Nat) (c : Cursor t) : List Match :=
  match hm : f.resume last c with
  | none => []
  | some m => m :: plainFrom f (some m.stop) (.at_ (within_of_resume hm).stop)
termination_by 2 * (byteSize t - c.position) + if last = some c.position then 0 else 1
decreasing_by
  have hwithin := within_of_resume hm
  have hstop := Nat.le_trans hwithin.onward hwithin.ordered
  have hend := Text.le_of_isBoundary hwithin.stop
  show 2 * (byteSize t - m.stop) + (if some m.stop = some m.stop then 0 else 1) < _
  rw [if_pos rfl]
  split
  next hlast =>
    subst hlast
    have hlt := lt_stop_of_resume hm
    omega
  next => omega

def scan (f : Searcher t) : (overlap : Option Nat) → List Match
  | none => f.plainFrom none (.start t)
  | some overlap => (f.searches overlap).filterMap (·.found)

end Searcher

def compile (pattern : Text) : Except Flaw Machine := (parse pattern).map Tree.machine

def check (pattern : Text) : Except Fault Machine :=
  match compile pattern with
  | .ok m => .ok m
  | .error why => .error (.invalidArgument "pattern" (some why.message))

def scan (pattern : Text) (overlap : Option Nat) (t : Text) : Except Fault (List Text) := do
  let m ← check pattern
  pure (((m.searcher t).scan overlap).map (·.slice t))

end GrantFs.Regex
