import GrantFs.Text

/-! # Arguments of a command line

A command takes options with a value, flags and positional arguments, in any order. A value stands
behind its option or is attached to it; it begins with a hyphen only if it is attached. Behind a
double hyphen everything is positional.
-/
namespace GrantFs.Cli

inductive Refusal where
  | usage
  | helpWanted
  | versionWanted
deriving DecidableEq, Repr

structure OptionRule where
  name : Text
  accepts : Text → Bool := fun _ => true
  repeats : Bool := false

structure Grammar where
  options : List OptionRule
  flags : List Text := []
  /-- The least and the greatest number of positional arguments. -/
  least : Nat
  most : Nat
  hasVersion : Bool := false

structure Given where
  options : List (Text × Text) := []
  flags : List Text := []
  positionals : List Text := []

namespace Given

def values (g : Given) (name : Text) : List Text :=
  (g.options.filter (·.1 = name)).map (·.2)

def value? (g : Given) (name : Text) : Option Text := (g.values name).getLast?

def addOption (g : Given) (rule : OptionRule) (value : Text) : Except Refusal Given :=
  if rule.accepts value && (rule.repeats || (g.value? rule.name).isNone) then
    .ok { g with options := g.options ++ [(rule.name, value)] }
  else .error .usage

def addFlag (g : Given) (name : Text) : Except Refusal Given :=
  if g.flags.contains name then .error .usage else .ok { g with flags := g.flags ++ [name] }

def addPositionals (g : Given) (more : List Text) : Given :=
  { g with positionals := g.positionals ++ more }

end Given

/-- Whether an argument cannot be the value of an option before it. -/
def isOptionLike (arg : Text) : Bool :=
  match arg with
  | '-' :: _ :: _ => true
  | _ => false

def shortRefusal (g : Grammar) (letters : Text) : Refusal :=
  if letters.head? = some 'h' then .helpWanted
  else if letters.head? = some 'V' ∧ g.hasVersion then .versionWanted
  else .usage

def longRefusal (g : Grammar) (name : Text) (value? : Option Text) : Refusal :=
  if value?.isSome then .usage
  else if name = "help" then .helpWanted
  else if name = "version" ∧ g.hasVersion then .versionWanted
  else .usage

def splitLong (body : Text) : Text × Option Text :=
  match Text.cutAt? "=" body with
  | some (name, value) => (name, some value)
  | none => (body, none)

/-- Reads arguments up to the first positional one that finds no place. -/
def scan (g : Grammar) : Given → List Text → Except Refusal (Given × List Text)
  | given, [] => .ok (given, [])
  | given, arg :: rest =>
    let positional : Except Refusal (Given × List Text) :=
      if given.positionals.length < g.most then scan g (given.addPositionals [arg]) rest
      else .ok (given, arg :: rest)
    match arg with
    | ['-', '-'] =>
      if given.positionals.length + rest.length ≤ g.most then .ok (given.addPositionals rest, [])
      else .error .usage
    | '-' :: '-' :: body => do
      let (name, attached) := splitLong body
      match g.options.find? (·.name = name) with
      | some rule =>
        match attached, rest with
        | some value, rest => scan g (← given.addOption rule value) rest
        | none, [] => throw .usage
        | none, value :: rest =>
          if isOptionLike value then throw .usage
          else scan g (← given.addOption rule value) rest
      | none =>
        if g.flags.contains name ∧ attached.isNone then scan g (← given.addFlag name) rest
        else throw (longRefusal g name attached)
    | '-' :: letters => if letters = [] then positional else .error (shortRefusal g letters)
    | _ => positional

def scanAll (g : Grammar) (args : List Text) : Except Refusal Given := do
  let (given, rest) ← scan g {} args
  if rest ≠ [] ∨ given.positionals.length < g.least then throw .usage
  pure given

end GrantFs.Cli
