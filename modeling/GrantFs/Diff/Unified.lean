import GrantFs.Diff.Script

/-! # Unified diffs

Steps are gathered into hunks with up to three equal lines around the changes. A line without an
end of its own is marked as such.
-/
namespace GrantFs.Diff

def radius : Nat := 3

def Step.lastLines (s : Step) : Step :=
  let skip := s.oldLen - radius
  .equal (s.old + skip) (s.new + skip) (s.oldLen - skip)

def Step.firstLines (s : Step) : Step := .equal s.old s.new (min s.oldLen radius)

def trimFirst : Script → Script
  | s :: rest => if s.kind = .equal then s.lastLines :: rest else s :: rest
  | [] => []

def trimLast (script : Script) : Script :=
  match script.reverse with
  | s :: rest => (if s.kind = .equal then s.firstLines :: rest else s :: rest).reverse
  | [] => []

/-- Cuts at equal steps that are longer than two radii. -/
def hunksFrom (pending : Script) : Script → List Script
  | [] =>
    match pending with
    | [] => []
    | [s] => if s.kind = .equal then [] else [[s]]
    | _ => [pending]
  | s :: rest =>
    if s.kind = .equal ∧ 2 * radius < s.oldLen then
      (pending ++ [s.firstLines]) :: hunksFrom [s.lastLines] rest
    else hunksFrom (pending ++ [s]) rest

def hunks (script : Script) : List Script := hunksFrom [] (trimLast (trimFirst script))

/-- A range of lines: its first line and its length, which is left out when it is one. -/
def rangeText (start stop : Nat) : Text :=
  let len := stop - start
  if len = 1 then Text.decimal (start + 1)
  else Text.decimal (if len = 0 then start else start + 1) ++ "," ++ Text.decimal len

def headerText (hunk : Script) : Text :=
  match hunk.head?, hunk.getLast? with
  | some first, some last =>
    "@@ -" ++ rangeText first.old last.oldEnd ++ " +" ++ rangeText first.new last.newEnd ++
      " @@\n"
  | _, _ => []

def endsLine (line : Text) : Bool := line.getLast? = some '\n' || line.getLast? = some '\r'

def lineText (mark : Char) (line : Text) : Text :=
  if endsLine line then mark :: line
  else mark :: line ++ "\n\\ No newline at end of file\n"

def stepText (old new : List Text) (s : Step) : Text :=
  let olds := (old.drop s.old).take s.oldLen
  let news := (new.drop s.new).take s.newLen
  match s.kind with
  | .equal => olds.flatMap (lineText ' ')
  | _ => olds.flatMap (lineText '-') ++ news.flatMap (lineText '+')

def hunkText (old new : List Text) (hunk : Script) : Text :=
  headerText hunk ++ hunk.flatMap (stepText old new)

def unified (name : Text) (old new : List Text) (script : Script) : Text :=
  match hunks script with
  | [] => []
  | hs => "--- " ++ name ++ "\n+++ " ++ name ++ "\n" ++ hs.flatMap (hunkText old new)

end GrantFs.Diff
