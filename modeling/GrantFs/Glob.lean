import GrantFs.Text

/-! # Glob patterns

`?` stands for one character, `*` for any sequence, `**` between slashes for any number of whole
path components, and brackets for one character of a class. Matching tells a mismatch, which another
choice for an earlier wildcard may mend, from running out of text, which no choice can.
-/
namespace GrantFs.Glob

inductive Item where
  | single (c : Char)
  | range (low high : Char)
deriving DecidableEq, Repr

inductive Token where
  | literal (c : Char)
  | anyChar
  | anySequence
  | anyComponents
  | within (items : List Item)
  | except (items : List Item)
deriving DecidableEq, Repr

abbrev Pattern := List Token

inductive Flaw where
  | wildcards (position : Nat)
  | components (position : Nat)
  | range (position : Nat)
deriving DecidableEq, Repr

def Flaw.message : Flaw → Text
  | wildcards position => at_ position "wildcards are either regular `*` or recursive `**`"
  | components position => at_ position "recursive wildcards must form a single path component"
  | range position => at_ position "invalid range pattern"
where
  at_ (position : Nat) (what : Text) : Text :=
    "Pattern syntax error near position " ++ Text.decimal position ++ ": " ++ what

def items : Text → List Item
  | low :: '-' :: high :: rest => .range low high :: items rest
  | c :: rest => .single c :: items rest
  | [] => []

/-- The characters before the first `]` behind the first `skip` characters, and what follows it. -/
def bracketed (skip : Nat) (t : Text) : Option (Text × Text) :=
  let inside := (t.drop skip).takeWhile (· ≠ ']')
  match (t.drop skip).drop inside.length with
  | _ :: rest => some (t.take skip ++ inside, rest)
  | [] => none

/-- Reads the tokens of the rest of a pattern; `position` characters and the tokens `done`, last one
first, came before, and `behindSlash` tells whether a path component starts here. -/
def parseFrom : (fuel : Nat) → (position : Nat) → (behindSlash : Bool) → (done : List Token) →
    Text → Except Flaw Pattern
  | 0, _, _, done, _ => .ok done.reverse
  | _ + 1, _, _, done, [] => .ok done.reverse
  | fuel + 1, position, behindSlash, done, c :: rest =>
    if c = '?' then parseFrom fuel (position + 1) false (.anyChar :: done) rest
    else if c = '*' then
      let stars := (c :: rest).takeWhile (· = '*')
      let behind := (c :: rest).drop stars.length
      let next := position + stars.length
      if stars.length = 1 then parseFrom fuel next false (.anySequence :: done) behind
      else if 2 < stars.length then .error (.wildcards (position + 2))
      else if ¬ behindSlash then .error (.components (position - 1))
      else
        let done :=
          if 1 < done.length ∧ done.head? = some .anyComponents then done
          else .anyComponents :: done
        match behind with
        | [] => .ok done.reverse
        | '/' :: behind => parseFrom fuel (next + 1) true done behind
        | _ => .error (.components next)
    else if c = '[' then
      match rest with
      | '!' :: inside =>
        match bracketed 1 inside with
        | some (inside, behind) =>
          parseFrom fuel (position + inside.length + 3) false (.except (items inside) :: done)
            behind
        | none => .error (.range position)
      | inside =>
        match bracketed 1 inside with
        | some (inside, behind) =>
          parseFrom fuel (position + inside.length + 2) false (.within (items inside) :: done)
            behind
        | none => .error (.range position)
    else parseFrom fuel (position + 1) (c = '/') (.literal c :: done) rest

def parse (t : Text) : Except Flaw Pattern := parseFrom (t.length + 1) 0 true [] t

def Item.has (c : Char) : Item → Bool
  | single a => a = c
  | range low high => decide (low ≤ c) && decide (c ≤ high)

def Token.fits (c : Char) : Token → Bool
  | literal a => a = c
  | anyChar => true
  | within items => items.any (·.has c)
  | except items => !items.any (·.has c)
  | anySequence => false
  | anyComponents => false

inductive Verdict where
  | matched
  | mismatch
  | exhausted
deriving DecidableEq, Repr

/-- Tries the rest of the pattern behind every admissible share of the text. With `whole` only
shares that end in a slash are admissible, and the whole text. -/
def tryShares (next : Text → Verdict) (whole : Bool) : Text → Verdict
  | [] => next []
  | c :: rest =>
    if whole && c != '/' then tryShares next whole rest
    else
      match next rest with
      | .mismatch => tryShares next whole rest
      | verdict => verdict

def verdict : Pattern → Text → Verdict
  | [], [] => .matched
  | [], _ :: _ => .mismatch
  | .anySequence :: pattern, t =>
    match verdict pattern t with
    | .mismatch => tryShares (verdict pattern) false t
    | v => v
  | .anyComponents :: pattern, t =>
    match verdict pattern t with
    | .mismatch => tryShares (verdict pattern) true t
    | v => v
  | _ :: _, [] => .exhausted
  | token :: pattern, c :: rest => if token.fits c then verdict pattern rest else .mismatch

def «matches» (pattern : Pattern) (t : Text) : Bool := verdict pattern t = .matched

/-- A language of patterns: how a text is read as a pattern, or why it is none, and what a pattern
matches. -/
structure Language where
  Pattern : Type
  parse : Text → Except Text Pattern
  «matches» : Pattern → Text → Bool

def Language.standard : Language where
  Pattern := Glob.Pattern
  parse t := (Glob.parse t).mapError Flaw.message
  «matches» := Glob.«matches»

end GrantFs.Glob
