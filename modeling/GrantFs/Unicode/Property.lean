import GrantFs.Unicode.LetterTable
import GrantFs.Unicode.MarkTable
import GrantFs.Unicode.SymbolTable
import GrantFs.Unicode.PropertyTable
import GrantFs.Unicode.EmojiTable
import GrantFs.Unicode.ScriptExtensions

/-! # Properties of code points

The general categories and the derived properties that quoting and pattern classes ask for.
A code point that no category table lists is unassigned.
-/
namespace GrantFs.Unicode

def isLetter (n : Nat) : Bool :=
  inSpans uppercaseLetter n || inSpans lowercaseLetter n || inSpans titlecaseLetter n ||
    inSpans modifierLetter n || inSpans otherLetter n

def isMark (n : Nat) : Bool :=
  inSpans nonspacingMark n || inSpans spacingMark n || inSpans enclosingMark n

def isNumber (n : Nat) : Bool :=
  inSpans decimalNumber n || inSpans letterNumber n || inSpans otherNumber n

def isPunctuation (n : Nat) : Bool :=
  inSpans connectorPunctuation n || inSpans dashPunctuation n || inSpans openPunctuation n ||
    inSpans closePunctuation n || inSpans initialPunctuation n || inSpans finalPunctuation n ||
    inSpans otherPunctuation n

def isSymbol (n : Nat) : Bool :=
  inSpans mathSymbol n || inSpans currencySymbol n || inSpans modifierSymbol n ||
    inSpans otherSymbol n

def isSeparator (n : Nat) : Bool :=
  inSpans spaceSeparator n || inSpans lineSeparator n || inSpans paragraphSeparator n

def isAssigned (n : Nat) : Bool :=
  isLetter n || isMark n || isNumber n || isPunctuation n || isSymbol n || isSeparator n ||
    inSpans control n || inSpans format n || inSpans privateUse n || inSpans surrogate n

def isWhiteSpace (n : Nat) : Bool := inSpans whiteSpace n

def isAlphabetic (n : Nat) : Bool :=
  isLetter n || inSpans letterNumber n || inSpans otherAlphabetic n

def isUppercase (n : Nat) : Bool := inSpans uppercaseLetter n || inSpans otherUppercase n

def isLowercase (n : Nat) : Bool := inSpans lowercaseLetter n || inSpans otherLowercase n

/-- Word characters: alphabetic ones, marks, decimal digits, connectors and the two joiners. -/
def isWord (n : Nat) : Bool :=
  isAlphabetic n || isMark n || inSpans decimalNumber n || inSpans connectorPunctuation n ||
    n == 0x200C || n == 0x200D

def extendsGrapheme (n : Nat) : Bool :=
  inSpans nonspacingMark n || inSpans enclosingMark n || inSpans otherGraphemeExtend n

/-- Characters with a visible form of their own, and the plain space. -/
def isPrintable (n : Nat) : Bool :=
  n == 0x20 || isLetter n || isMark n || isNumber n || isPunctuation n || isSymbol n

/-- The properties that have a value of yes or no. -/
def namedSets : List (String × (Nat → Bool)) := [
  ("any", fun _ => true), ("ascii", fun n => decide (n < 0x80)), ("assigned", isAssigned),
  ("alphabetic", isAlphabetic), ("alpha", isAlphabetic),
  ("uppercase", isUppercase), ("upper", isUppercase),
  ("lowercase", isLowercase), ("lower", isLowercase),
  ("whitespace", isWhiteSpace), ("wspace", isWhiteSpace), ("space", isWhiteSpace),
  ("graphemeextend", extendsGrapheme), ("grext", extendsGrapheme),
  ("emoji", inSpans emoji), ("emojipresentation", inSpans emojiPresentation),
  ("epres", inSpans emojiPresentation), ("emojimodifier", inSpans emojiModifier),
  ("emod", inSpans emojiModifier), ("emojimodifierbase", inSpans emojiModifierBase),
  ("ebase", inSpans emojiModifierBase), ("emojicomponent", inSpans emojiComponent),
  ("ecomp", inSpans emojiComponent), ("extendedpictographic", inSpans extendedPictographic),
  ("extpict", inSpans extendedPictographic)]

def categories : List (String × (Nat → Bool)) := [
  ("l", isLetter), ("letter", isLetter),
  ("lu", inSpans uppercaseLetter), ("uppercaseletter", inSpans uppercaseLetter),
  ("ll", inSpans lowercaseLetter), ("lowercaseletter", inSpans lowercaseLetter),
  ("lt", inSpans titlecaseLetter), ("titlecaseletter", inSpans titlecaseLetter),
  ("lc", fun n => inSpans uppercaseLetter n || inSpans lowercaseLetter n ||
    inSpans titlecaseLetter n),
  ("casedletter", fun n => inSpans uppercaseLetter n || inSpans lowercaseLetter n ||
    inSpans titlecaseLetter n),
  ("lm", inSpans modifierLetter), ("modifierletter", inSpans modifierLetter),
  ("lo", inSpans otherLetter), ("otherletter", inSpans otherLetter),
  ("m", isMark), ("mark", isMark), ("combiningmark", isMark),
  ("mn", inSpans nonspacingMark), ("nonspacingmark", inSpans nonspacingMark),
  ("mc", inSpans spacingMark), ("spacingmark", inSpans spacingMark),
  ("me", inSpans enclosingMark), ("enclosingmark", inSpans enclosingMark),
  ("n", isNumber), ("number", isNumber),
  ("nd", inSpans decimalNumber), ("decimalnumber", inSpans decimalNumber),
  ("digit", inSpans decimalNumber),
  ("nl", inSpans letterNumber), ("letternumber", inSpans letterNumber),
  ("no", inSpans otherNumber), ("othernumber", inSpans otherNumber),
  ("p", isPunctuation), ("punctuation", isPunctuation), ("punct", isPunctuation),
  ("pc", inSpans connectorPunctuation), ("connectorpunctuation", inSpans connectorPunctuation),
  ("pd", inSpans dashPunctuation), ("dashpunctuation", inSpans dashPunctuation),
  ("ps", inSpans openPunctuation), ("openpunctuation", inSpans openPunctuation),
  ("pe", inSpans closePunctuation), ("closepunctuation", inSpans closePunctuation),
  ("pi", inSpans initialPunctuation), ("initialpunctuation", inSpans initialPunctuation),
  ("pf", inSpans finalPunctuation), ("finalpunctuation", inSpans finalPunctuation),
  ("po", inSpans otherPunctuation), ("otherpunctuation", inSpans otherPunctuation),
  ("s", isSymbol), ("symbol", isSymbol),
  ("sm", inSpans mathSymbol), ("mathsymbol", inSpans mathSymbol),
  ("sc", inSpans currencySymbol), ("currencysymbol", inSpans currencySymbol),
  ("sk", inSpans modifierSymbol), ("modifiersymbol", inSpans modifierSymbol),
  ("so", inSpans otherSymbol), ("othersymbol", inSpans otherSymbol),
  ("z", isSeparator), ("separator", isSeparator),
  ("zs", inSpans spaceSeparator), ("spaceseparator", inSpans spaceSeparator),
  ("zl", inSpans lineSeparator), ("lineseparator", inSpans lineSeparator),
  ("zp", inSpans paragraphSeparator), ("paragraphseparator", inSpans paragraphSeparator),
  ("c", fun n => !isAssigned n || inSpans control n || inSpans format n ||
    inSpans privateUse n || inSpans surrogate n),
  ("other", fun n => !isAssigned n || inSpans control n || inSpans format n ||
    inSpans privateUse n || inSpans surrogate n),
  ("cc", inSpans control), ("control", inSpans control), ("cntrl", inSpans control),
  ("cf", inSpans format), ("format", inSpans format),
  ("co", inSpans privateUse), ("privateuse", inSpans privateUse),
  ("cs", inSpans surrogate), ("surrogate", inSpans surrogate),
  ("cn", fun n => !isAssigned n), ("unassigned", fun n => !isAssigned n)]

def script? (name : String) : Option (Nat → Bool) :=
  ((scriptsA ++ scriptsB).lookup name).map inSpans

def usedScript? (name : String) : Option (Nat → Bool) :=
  ((scriptsA ++ scriptsB).lookup name).map isUsedWith

def category? (name : String) : Option (Nat → Bool) := categories.lookup name

/-- The set a bare name stands for: a property, a category or a script, in this order. -/
def namedSet? (name : String) : Option (Nat → Bool) :=
  (namedSets.lookup name) <|> (category? name) <|> (script? name)

end GrantFs.Unicode
