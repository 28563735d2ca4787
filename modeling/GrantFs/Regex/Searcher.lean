import GrantFs.Text.Boundary

/-! # Searching a text

A searcher looks for a match at or behind a place. What it finds lies within the text and between
characters, so a scan of the text may go on from there.
-/
namespace GrantFs

/-- Where to go on in a text: at a boundary, or behind the end, where there is nothing left. -/
structure Text.Cursor (t : Text) where
  position : Nat
  sound : position ≤ byteSize t → isBoundary t position = true

namespace Text.Cursor

variable {t : Text}

theorem ext_position {c d : Cursor t} (h : c.position = d.position) : c = d := by
  cases c
  cases d
  cases h
  rfl

def start (t : Text) : Cursor t := ⟨0, fun _ => isBoundary_zero t⟩

def at_ {n : Nat} (h : isBoundary t n = true) : Cursor t := ⟨n, fun _ => h⟩

/-- The first boundary at or behind a place. -/
def onward (t : Text) (n : Nat) : Cursor t where
  position := nextBoundary t n
  sound h := (nextBoundary_of_le (Nat.le_trans (le_nextBoundary t n) h)).2.1

end Text.Cursor

namespace Regex

open Text (isBoundary)

structure Match where
  start : Nat
  stop : Nat
deriving DecidableEq, Repr

namespace Match

def size (m : Match) : Nat := m.stop - m.start

def slice (m : Match) (t : Text) : Text := Text.truncate m.size (Text.dropBytes m.start t)

structure Within (t : Text) (position : Nat) (m : Match) : Prop where
  onward : position ≤ m.start
  ordered : m.start ≤ m.stop
  start : isBoundary t m.start = true
  stop : isBoundary t m.stop = true

/-- The match starts at the first boundary at or behind the position at which a match starts; where
the match that starts at a place ends is for `matchAt` to say. -/
structure IsFirst (t : Text) (matchAt : (start : Nat) → Option Nat) (position : Nat) (m : Match) :
    Prop where
  onward : position ≤ m.start
  start : isBoundary t m.start = true
  stop : matchAt m.start = some m.stop
  first : ∀ n, position ≤ n → n < m.start → isBoundary t n = true → matchAt n = none

namespace IsFirst

variable {t : Text} {matchAt : (start : Nat) → Option Nat} {position stop : Nat} {m : Match}

theorem of_matchAt (hat : isBoundary t position = true) (h : matchAt position = some stop) :
    m.IsFirst t matchAt position ↔ m = ⟨position, stop⟩ := by
  constructor
  · intro hm
    have hstart : m.start = position := by
      rcases Nat.eq_or_lt_of_le hm.onward with heq | hlt
      · exact heq.symm
      · rw [hm.first _ (Nat.le_refl _) hlt hat] at h
        cases h
    have hstop := hm.stop
    rw [hstart, h, Option.some.injEq] at hstop
    cases m
    cases hstart
    cases hstop
    rfl
  · rintro rfl
    exact ⟨Nat.le_refl _, hat, h, fun n hle hlt => absurd hlt (Nat.not_lt.mpr hle)⟩

/-- Where no match starts, the first one is the first one behind. -/
theorem succ (h : matchAt position = none) :
    m.IsFirst t matchAt position ↔ m.IsFirst t matchAt (position + 1) := by
  constructor
  · intro hm
    refine ⟨?_, hm.start, hm.stop, fun n hle => hm.first n (Nat.le_of_succ_le hle)⟩
    rcases Nat.eq_or_lt_of_le hm.onward with heq | hlt
    · have hstop := hm.stop
      rw [← heq, h] at hstop
      cases hstop
    · exact hlt
  · intro hm
    refine ⟨Nat.le_of_succ_le hm.onward, hm.start, hm.stop, fun n hle hlt hn => ?_⟩
    rcases Nat.eq_or_lt_of_le hle with rfl | hgt
    · exact h
    · exact hm.first n hgt hlt hn

/-- Between boundaries nothing starts. -/
theorem nextBoundary : m.IsFirst t matchAt position ↔
    m.IsFirst t matchAt (Text.nextBoundary t position) := by
  constructor
  · intro hm
    refine ⟨Text.nextBoundary_le hm.start hm.onward, hm.start, hm.stop, fun n hle => ?_⟩
    exact hm.first n (Nat.le_trans (Text.le_nextBoundary t position) hle)
  · intro hm
    refine ⟨Nat.le_trans (Text.le_nextBoundary t position) hm.onward, hm.start, hm.stop, ?_⟩
    intro n hle hlt hn
    exact hm.first n (Text.nextBoundary_le hn hle) hlt hn

end IsFirst
end Match

structure Searcher (t : Text) where
  find : (position : Nat) → Option Match
  sound : ∀ {position : Nat} {m : Match}, isBoundary t position = true →
    find position = some m → m.Within t position

namespace Searcher

/-- Behind the end of the text nothing is looked for. -/
def search {t : Text} (f : Searcher t) (c : Text.Cursor t) : Option Match :=
  if c.position ≤ Text.byteSize t then f.find c.position else none

/-- The searcher finds the first match there is, wherever it starts to look. -/
def Leftmost {t : Text} (f : Searcher t) (matchAt : (start : Nat) → Option Nat) : Prop :=
  ∀ {position : Nat} {m : Match}, isBoundary t position = true →
    (f.find position = some m ↔ m.IsFirst t matchAt position)

end Searcher
end Regex
end GrantFs
