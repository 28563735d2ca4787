import GrantFs.Text

/-! # Edit scripts

A script turns one row of lines into another. Its steps cover both rows in order: equal steps pair
equal lines, the others delete, insert or replace.
-/
namespace GrantFs.Diff

inductive StepKind where
  | equal
  | delete
  | insert
  | replace
deriving DecidableEq, Repr

/-- A step covers `oldLen` old lines from `old` on and `newLen` new lines from `new` on. -/
structure Step where
  kind : StepKind
  old : Nat
  oldLen : Nat
  new : Nat
  newLen : Nat
deriving DecidableEq, Repr

abbrev Script := List Step

namespace Step

def equal (old new len : Nat) : Step := ⟨.equal, old, len, new, len⟩

def delete (old len new : Nat) : Step := ⟨.delete, old, len, new, 0⟩

def insert (old new len : Nat) : Step := ⟨.insert, old, 0, new, len⟩

def replace (old oldLen new newLen : Nat) : Step := ⟨.replace, old, oldLen, new, newLen⟩

def oldEnd (s : Step) : Nat := s.old + s.oldLen

def newEnd (s : Step) : Nat := s.new + s.newLen

def isEmpty (s : Step) : Bool := s.oldLen == 0 && s.newLen == 0

def touched (s : Step) : Nat := if s.kind = .equal then 0 else max s.oldLen s.newLen

end Step

/-- Whether the script covers the rows from the `i`-th old and the `j`-th new line on. A step has to
begin where the one before it ended on each side that it takes lines from. -/
def coversFrom (old new : List Text) : (i j : Nat) → Script → Bool
  | i, j, [] => i == old.length && j == new.length
  | i, j, s :: rest =>
    !s.isEmpty && (s.oldLen == 0 || s.old == i) && (s.newLen == 0 || s.new == j) &&
      (match s.kind with
        | .equal =>
          s.oldLen == s.newLen && (old.drop i).take s.oldLen == (new.drop j).take s.newLen
        | .delete => s.newLen == 0
        | .insert => s.oldLen == 0
        | .replace => true) &&
      coversFrom old new (i + s.oldLen) (j + s.newLen) rest

def covers (old new : List Text) (script : Script) : Bool := coversFrom old new 0 0 script

def touched (script : Script) : Nat := script.foldr (fun s n => s.touched + n) 0

/-- The lines of a text with their ends: a line feed, a carriage return, or both. -/
def tokens : Text → List Text
  | [] => []
  | '\r' :: '\n' :: rest => ['\r', '\n'] :: tokens rest
  | c :: rest =>
    if c = '\n' ∨ c = '\r' then [c] :: tokens rest
    else
      match tokens rest with
      | [] => [[c]]
      | line :: lines => (c :: line) :: lines

theorem flatten_tokens (t : Text) : (tokens t).flatten = t := by
  fun_induction tokens t with
  | case1 => rfl
  | case2 rest ih => rw [List.flatten_cons, ih]; rfl
  | case3 c rest _ _ ih => rw [List.flatten_cons, ih]; rfl
  | case4 c rest _ _ hnil ih =>
    rw [hnil] at ih
    rw [← ih]
    rfl
  | case5 c rest _ _ line lines hlines ih =>
    rw [hlines] at ih
    rw [← ih]
    rfl

/-- A way to compare texts: it takes a text apart into lines and loses nothing, and finds a script
between any two rows of lines. -/
structure Differ where
  lines : Text → List Text
  script : (old new : List Text) → Script
  flatten_lines : ∀ t, (lines t).flatten = t
  covers_script : ∀ old new, covers old new (script old new) = true

end GrantFs.Diff
