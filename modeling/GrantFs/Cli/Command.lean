import GrantFs.Cli.Grammar
import GrantFs.Directory.Listing

/-! # Commands

What can be asked on the command line, and how it is read from the arguments. Each command but one
is a call of a tool; the settings file and the root may be given before or behind the command.
-/
namespace GrantFs.Cli

inductive Command where
  | ls (path : Text)
  | du (path : Text) (sortBy : SortBy)
  | cat (path : Text) (startLine lines : Option Int)
  /-- Without content the standard input is written. -/
  | write (path : Text) (content : Option Text)
  | edit (path : Text) (olds news : List Text) (dryRun : Bool)
  | find (path pattern : Text) (excludes : List Text)
  | info (path : Text)
  | tree (path : Text)
  | rm (path : Text)
  | dirs
  | tools
  | call (tool args : Text)
deriving DecidableEq, Repr

structure Invocation where
  config : Option Text
  root : Option Text
  command : Command
deriving DecidableEq, Repr

/-- A whole number from `-2 ^ 63` to `2 ^ 63 - 1`, with an optional sign. -/
def integer? (t : Text) : Option Int :=
  let (negative, digits) :=
    match t with
    | '-' :: digits => (true, digits)
    | '+' :: digits => (false, digits)
    | digits => (false, digits)
  if digits ≠ [] ∧ digits.all Char.isDigit then
    let n := Text.digitsValue digits
    if negative then if n ≤ Nat.pow 2 63 then some (-(n : Int)) else none
    else if n < Nat.pow 2 63 then some n else none
  else none

def sortBy? (t : Text) : Option SortBy := (SortBy.parse t).toOption

def locations : List OptionRule := [
  { name := "config", accepts := (!·.isEmpty) },
  { name := "root", accepts := (!·.isEmpty) }]

def outer : Grammar := { options := locations, least := 0, most := 0, hasVersion := true }

def plain (count : Nat) (options : List OptionRule) : Grammar :=
  { options := locations ++ options, least := count, most := count }

def integerOption (name : Text) : OptionRule := { name, accepts := (integer? · |>.isSome) }

def repeatedOption (name : Text) : OptionRule := { name, repeats := true }

structure Rule where
  name : Text
  grammar : Grammar
  build : Given → Except Refusal Command

/-- The `i`-th positional argument; there is one wherever the grammar asks for it. -/
def Given.positional (g : Given) (i : Nat) : Text := g.positionals.getD i []

/-- The number given for an option; the grammar accepts nothing else. -/
def Given.integer? (g : Given) (name : Text) : Option Int := (g.value? name).bind Cli.integer?

def editRule : Rule where
  name := "edit"
  grammar := { plain 1 [repeatedOption "old", repeatedOption "new"] with flags := ["dry-run"] }
  build g :=
    if g.values "old" = [] ∨ g.values "new" = [] then .error .usage
    else
      .ok (.edit (g.positional 0) (g.values "old") (g.values "new") (g.flags.contains "dry-run"))

def rules : List Rule := [
  ⟨"ls", plain 1 [], fun g => .ok (.ls (g.positional 0))⟩,
  ⟨"du", plain 1 [{ name := "sort", accepts := (sortBy? · |>.isSome) }], fun g =>
    .ok (.du (g.positional 0) (((g.value? "sort").bind sortBy?).getD .name))⟩,
  ⟨"cat", plain 1 [integerOption "start-line", integerOption "lines"], fun g =>
    .ok (.cat (g.positional 0) (g.integer? "start-line") (g.integer? "lines"))⟩,
  ⟨"write", { plain 1 [] with most := 2 }, fun g =>
    .ok (.write (g.positional 0) g.positionals[1]?)⟩,
  editRule,
  ⟨"find", plain 2 [repeatedOption "exclude"], fun g =>
    .ok (.find (g.positional 0) (g.positional 1) (g.values "exclude"))⟩,
  ⟨"info", plain 1 [], fun g => .ok (.info (g.positional 0))⟩,
  ⟨"tree", plain 1 [], fun g => .ok (.tree (g.positional 0))⟩,
  ⟨"rm", plain 1 [], fun g => .ok (.rm (g.positional 0))⟩,
  ⟨"dirs", plain 0 [], fun _ => .ok .dirs⟩,
  ⟨"tools", plain 0 [], fun _ => .ok .tools⟩,
  ⟨"call", { plain 1 [] with most := 2 }, fun g =>
    .ok (.call (g.positional 0) (g.positionals.getD 1 "\x7b\x7d"))⟩]

/-- Help is there for the whole and for each command. -/
def helpRefusal : List Text → Refusal
  | [] => .helpWanted
  | [name] => if name = "help" ∨ rules.any (·.name = name) then .helpWanted else .usage
  | _ => .usage

/-- Reads a command line. A location behind the command replaces the one before it. -/
def parse (args : List Text) : Except Refusal Invocation := do
  let (before, rest) ← scan outer {} args
  match rest with
  | [] => throw .usage
  | name :: rest =>
    match rules.find? (·.name = name) with
    | none => throw (if name = "help" then helpRefusal rest else .usage)
    | some rule =>
      let given ← scanAll rule.grammar rest
      let command ← rule.build given
      pure {
        config := given.value? "config" <|> before.value? "config"
        root := given.value? "root" <|> before.value? "root"
        command }

end GrantFs.Cli
