import GrantFs.Diff.Myers
import GrantFs.Diff.Unified
import GrantFs.Wire

/-! # Literal edits

An edit replaces the first occurrence of one text by another. Edits apply one after the other, each
to the text that the one before it left.
-/
namespace GrantFs

structure Edit where
  oldText : Text
  newText : Text
deriving DecidableEq, Repr, Inhabited

namespace Edit

def toJson (e : Edit) : Json :=
  .object [("oldText", .text e.oldText), ("newText", .text e.newText)]

open Json.Decode in
def decoder : Json.Decoder Edit := record {
  name := "EditOperation"
  fields := [
    required "oldText" string fun e oldText => { e with oldText },
    required "newText" string fun e newText => { e with newText }]
  blank := default }

/-- A text that is quoted in a report: sixty characters at most. -/
def preview (t : Text) : Text := if 60 < t.length then t.take 60 ++ "..." else t

def label (i : Nat) : Text := "edits[" ++ Text.decimal i ++ "].oldText"

def apply (i : Nat) (e : Edit) (content : Text) : Except Fault Text :=
  if e.oldText.isEmpty then .error (.invalidArgument (label i) none)
  else
    match Text.cutAt? e.oldText content with
    | none => .error (.invalidArgument (label i) (some (preview e.oldText)))
    | some (before, after) => .ok (before ++ e.newText ++ after)

def applyFrom (i : Nat) : List Edit → Text → Except Fault Text
  | [], content => .ok content
  | e :: rest, content => do
    let content ← apply i e content
    applyFrom (i + 1) rest content

def applyAll (edits : List Edit) (content : Text) : Except Fault Text :=
  if edits.isEmpty then .error (.invalidArgument "edits" none) else applyFrom 0 edits content

end Edit

structure EditReport where
  diff : Text
  linesChanged : Nat
  changed : Bool
  dryRun : Bool
deriving DecidableEq, Repr, Inhabited

namespace EditReport

open Diff

def toJson (r : EditReport) : Json :=
  .object [("diff", .text r.diff), ("linesChanged", Json.ofNat r.linesChanged),
    ("changed", .bool r.changed), ("dryRun", .bool r.dryRun)]

open Json.Decode in
def decoder : Json.Decoder EditReport := record {
  name := "EditResult"
  fields := [
    required "diff" string fun r diff => { r with diff },
    required "linesChanged" (word "usize") fun r linesChanged => { r with linesChanged },
    required "changed" flag fun r changed => { r with changed },
    required "dryRun" flag fun r dryRun => { r with dryRun }]
  blank := default }

def noChanges : Text := "(no changes)"

def scriptOf (differ : Differ) (original modified : Text) : Script :=
  differ.script (differ.lines original) (differ.lines modified)

def diffText (differ : Differ) (path : Path) (original modified : Text) : Text :=
  if original = modified then noChanges
  else unified path.text (differ.lines original) (differ.lines modified)
    (scriptOf differ original modified)

/-- The lines touched by a change; a replaced block counts with its longer side. -/
def countChanged (differ : Differ) (original modified : Text) : Nat :=
  touched (scriptOf differ original modified)

def ofDryRun (path : Path) (original modified : Text) (differ : Differ := .myers) :
    EditReport where
  diff := diffText differ path original modified
  linesChanged := 0
  changed := false
  dryRun := true

def ofRun (path : Path) (original modified : Text) (differ : Differ := .myers) : EditReport where
  diff := diffText differ path original modified
  linesChanged := if modified = original then 0 else countChanged differ original modified
  changed := modified ≠ original
  dryRun := false

end EditReport
end GrantFs
