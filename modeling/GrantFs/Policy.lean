import GrantFs.Text.Lines
import GrantFs.Wire

/-! # Domain policy

Rules above the grants: what the domain allows even where a grant would permit it, and how much of a
file a reader gets to see.
-/
namespace GrantFs

structure Policy where
  allowWriteUserinput : Bool := false
  allowEditUserinput : Bool := false
  allowDeleteInternal : Bool := false
  allowDeleteWorkspace : Bool := true
  maxLines : Option Nat := none
  maxBytes : Option Nat := none
deriving DecidableEq, Repr, Inhabited

namespace Policy

def toJson (p : Policy) : Json :=
  .object [("allowWriteUserinput", .bool p.allowWriteUserinput),
    ("allowEditUserinput", .bool p.allowEditUserinput),
    ("allowDeleteInternal", .bool p.allowDeleteInternal),
    ("allowDeleteWorkspace", .bool p.allowDeleteWorkspace),
    ("maxLines", Json.ofNat? p.maxLines), ("maxBytes", Json.ofNat? p.maxBytes)]

open Json.Decode in
def decoder : Json.Decoder Policy := record {
  name := "DomainPolicy"
  fields := [
    defaulted "allowWriteUserinput" flag fun p b => { p with allowWriteUserinput := b },
    defaulted "allowEditUserinput" flag fun p b => { p with allowEditUserinput := b },
    defaulted "allowDeleteInternal" flag fun p b => { p with allowDeleteInternal := b },
    defaulted "allowDeleteWorkspace" flag fun p b => { p with allowDeleteWorkspace := b },
    defaulted "maxLines" (optional (word "usize")) fun p n => { p with maxLines := n },
    defaulted "maxBytes" (optional (word "usize")) fun p n => { p with maxBytes := n }]
  blank := {} }

def mayWrite (p : Policy) (path : Path) : Bool :=
  Namespace.of? path.text ≠ some .userinput || p.allowWriteUserinput

def mayEdit (p : Policy) (path : Path) : Bool :=
  Namespace.of? path.text ≠ some .userinput || p.allowEditUserinput

def mayDelete (p : Policy) (path : Path) : Bool :=
  match Namespace.of? path.text with
  | some .internal => p.allowDeleteInternal
  | some .workspace => p.allowDeleteWorkspace
  | some .userinput => false
  | none => true

def lineMarker (limit : Nat) : Text :=
  "[... truncated: showing first " ++ Text.decimal limit ++ " lines]"

def byteMarker (limit : Nat) : Text :=
  "[... truncated: exceeded " ++ Text.decimal limit ++ " bytes]"

/-- The text within the line limit, and the marker if the limit cut it. -/
def limitLines (limit : Option Nat) (t : Text) : Text × List Text :=
  match limit with
  | none => (t, [])
  | some limit =>
    if limit < (Text.lines t).length then
      (Text.unlines ((Text.lines t).take limit), [lineMarker limit])
    else (t, [])

def limitBytes (limit : Option Nat) (t : Text) : Text × List Text :=
  match limit with
  | none => (t, [])
  | some limit =>
    if limit < Text.byteSize t then (Text.takeBytes limit t, [byteMarker limit]) else (t, [])

/-- The text within both limits, followed by one marker line for each limit that cut. -/
def applyLimits (p : Policy) (t : Text) : Text :=
  let (t, lineMarkers) := limitLines p.maxLines t
  let (t, byteMarkers) := limitBytes p.maxBytes t
  t ++ (lineMarkers ++ byteMarkers).flatMap fun marker => '\n' :: marker

end Policy
end GrantFs
