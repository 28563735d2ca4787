import GrantFs.Text

/-! # Lines

A line ends with a line feed, and one carriage return directly before it belongs to the end. A text
that ends with a line feed has no empty line behind it.
-/
namespace GrantFs.Text

/-- The lines with their line feeds; their concatenation is the text. -/
def feedLines : Text → List Text
  | [] => []
  | c :: rest =>
    if c = '\n' then [c] :: feedLines rest
    else
      match feedLines rest with
      | [] => [[c]]
      | line :: lines => (c :: line) :: lines

/-- The line without its line feed and a carriage return before that. -/
def withoutFeed : Text → Text
  | [] => []
  | ['\n'] => []
  | ['\r', '\n'] => []
  | c :: rest => c :: withoutFeed rest

def lines (t : Text) : List Text := (feedLines t).map withoutFeed

def unlines (ls : List Text) : Text := joinWith ['\n'] ls

/-- The lines from the `index`-th on, at most `count` of them; with neither bound the text
itself. -/
def window (index count : Option Nat) (t : Text) : Text :=
  match index, count with
  | none, none => t
  | _, none => unlines ((lines t).drop (index.getD 0))
  | _, some count => unlines (((lines t).drop (index.getD 0)).take count)

end GrantFs.Text
