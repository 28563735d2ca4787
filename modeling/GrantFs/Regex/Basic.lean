import GrantFs.Regex.CharSet

/-! # Patterns

A pattern is a tree of characters, assertions about the place, sequences, ordered alternatives and
repetitions. Of several ways to match at one place the earlier alternative is preferred, and a
greedy repetition prefers to go on. Groups leave no trace, since only whole matches are asked for.
-/
namespace GrantFs.Regex

inductive Anchor where
  | textStart
  | textEnd
  | lineStart (crlf : Bool)
  | lineEnd (crlf : Bool)
  | boundary (unicode : Bool)
  | noBoundary (unicode : Bool)
  | wordStart (unicode : Bool)
  | wordEnd (unicode : Bool)
  | wordStartHalf (unicode : Bool)
  | wordEndHalf (unicode : Bool)
deriving DecidableEq, Repr

namespace Anchor

def isWord (unicode : Bool) : Option Char → Bool
  | none => false
  | some c => if unicode then Unicode.isWord c.toNat else CharSet.isAsciiWord c.toNat

/-- Whether the assertion holds between two characters; none stands for the ends of the text. -/
def holds (before after : Option Char) : Anchor → Bool
  | textStart => before.isNone
  | textEnd => after.isNone
  | lineStart false => before.isNone || before == some '\n'
  | lineStart true =>
    before.isNone || before == some '\n' || (before == some '\r' && after != some '\n')
  | lineEnd false => after.isNone || after == some '\n'
  | lineEnd true =>
    after.isNone || after == some '\r' || (after == some '\n' && before != some '\r')
  | boundary unicode => isWord unicode before != isWord unicode after
  | noBoundary unicode => isWord unicode before == isWord unicode after
  | wordStart unicode => !isWord unicode before && isWord unicode after
  | wordEnd unicode => isWord unicode before && !isWord unicode after
  | wordStartHalf unicode => !isWord unicode before
  | wordEndHalf unicode => !isWord unicode after

end Anchor

inductive Tree where
  | empty
  | char (set : CharSet)
  | look (anchor : Anchor)
  | seq (first second : Tree)
  | alt (first second : Tree)
  | repeated (body : Tree) (least : Nat) (most : Option Nat) (greedy : Bool)

namespace Tree

def nullable : Tree → Bool
  | empty => true
  | char _ => false
  | look _ => true
  | seq a b => a.nullable && b.nullable
  | alt a b => a.nullable || b.nullable
  | repeated body least _ _ => least == 0 || body.nullable

def onlyEmpty : Tree → Bool
  | empty => true
  | char _ => false
  | look _ => true
  | seq a b => a.onlyEmpty && b.onlyEmpty
  | alt a b => a.onlyEmpty && b.onlyEmpty
  | repeated body _ most _ => most == some 0 || body.onlyEmpty

/-- About how many bytes a matcher for the pattern takes. -/
def weight : Tree → Nat
  | empty => 32
  | char set => set.weight
  | look _ => 40
  | seq a b => a.weight + b.weight
  | alt a b => a.weight + b.weight + 40
  | repeated body least most _ => max (least + 1) (most.getD 0) * (body.weight + 40)

/-- Repetition; a body that only matches the empty text is taken once at most. -/
def times (body : Tree) (least : Nat) (most : Option Nat) (greedy : Bool) : Tree :=
  let (least, most) :=
    if body.onlyEmpty then (min least 1, some (min (most.getD 1) 1)) else (least, most)
  if most = some 0 then empty
  else if least = 1 ∧ most = some 1 then body
  else repeated body least most greedy

end Tree

inductive Flaw where
  | unclosedGroup
  | unopenedGroup
  | missingOperand
  | repetitionCount
  | escape
  | characterClass
  | unknownProperty
  | groupName
  | duplicateName
  | flags
  | lookAround
  | beyondUnicode
  | tooDeep
  | tooLarge
deriving DecidableEq, Repr

/-- The defect in a few words, without the pattern and the place in it. -/
def Flaw.message : Flaw → Text
  | unclosedGroup => "unclosed group"
  | unopenedGroup => "unopened group"
  | missingOperand => "repetition operator missing expression"
  | repetitionCount => "invalid repetition count"
  | escape => "invalid escape sequence"
  | characterClass => "invalid character class"
  | unknownProperty => "Unicode property not found"
  | groupName => "invalid capture group name"
  | duplicateName => "duplicate capture group name"
  | flags => "invalid flags"
  | lookAround => "look-around is not supported"
  | beyondUnicode => "pattern can match invalid UTF-8"
  | tooDeep => "exceeded the maximum number of nested groups"
  | tooLarge => "compiled pattern exceeds size limit"

end GrantFs.Regex
