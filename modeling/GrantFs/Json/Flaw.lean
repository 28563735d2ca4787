import GrantFs.Instant
import GrantFs.Json.Value
import GrantFs.Path

/-! # What can be wrong with a JSON document

Flaws of the notation, and flaws of its content for the value that is to be read from it.
-/
namespace GrantFs.Json

inductive Malformed where
  | expectedValue
  | endOfValue
  | endOfString
  | endOfList
  | endOfObject
  | expectedColon
  | expectedCommaOrBracket
  | expectedCommaOrBrace
  | expectedIdent
  | invalidNumber
  | numberOutOfRange
  | invalidEscape
  | controlCharacter
  | keyMustBeString
  | trailingComma
  | trailingCharacters
  | nestingLimit
  | loneSurrogate
  | unfinishedPair
deriving DecidableEq, Repr

def Malformed.message : Malformed → Text
  | expectedValue => "expected value"
  | endOfValue => "EOF while parsing a value"
  | endOfString => "EOF while parsing a string"
  | endOfList => "EOF while parsing a list"
  | endOfObject => "EOF while parsing an object"
  | expectedColon => "expected `:`"
  | expectedCommaOrBracket => "expected `,` or `]`"
  | expectedCommaOrBrace => "expected `,` or `\x7d`"
  | expectedIdent => "expected ident"
  | invalidNumber => "invalid number"
  | numberOutOfRange => "number out of range"
  | invalidEscape => "invalid escape"
  | controlCharacter => "control character (\\u0000-\\u001F) found while parsing a string"
  | keyMustBeString => "key must be a string"
  | trailingComma => "trailing comma"
  | trailingCharacters => "trailing characters"
  | nestingLimit => "recursion limit exceeded"
  | loneSurrogate => "lone leading surrogate in hex escape"
  | unfinishedPair => "unexpected end of hex escape"

inductive Found where
  | null
  | bool (b : Bool)
  | number (n : Number)
  | text (t : Text)
  | sequence
  | map
deriving DecidableEq, Repr

def Found.message : Found → Text
  | null => "null"
  | bool true => "boolean `true`"
  | bool false => "boolean `false`"
  | number (.real x) => "floating point `" ++ x.text ++ "`"
  | number n => "integer `" ++ n.text ++ "`"
  | text t => "string " ++ Text.quoted t
  | sequence => "sequence"
  | map => "map"

inductive Flaw where
  | malformed (why : Malformed)
  | wrongKind (found : Found) (expected : Text)
  | wrongValue (found : Found) (expected : Text)
  | wrongLength (length : Nat) (expected : Text)
  | missingField (name : Text)
  | duplicateField (name : Text)
  | unknownVariant (name : Text) (known : List Text)
  | refusedPath (path : Text) (why : PathFlaw)
  | refusedInstant (why : Instant.Flaw)
deriving DecidableEq, Repr

def ticked (t : Text) : Text := '`' :: t ++ ['`']

def choices : List Text → Text
  | [] => "there are no variants"
  | [a] => "expected " ++ ticked a
  | [a, b] => "expected " ++ ticked a ++ " or " ++ ticked b
  | names => "expected one of " ++ Text.joinWith ", " (names.map ticked)

/-- The reason alone, without the line and the column. -/
def Flaw.message : Flaw → Text
  | malformed why => why.message
  | wrongKind found expected => "invalid type: " ++ found.message ++ ", expected " ++ expected
  | wrongValue found expected => "invalid value: " ++ found.message ++ ", expected " ++ expected
  | wrongLength length expected =>
    "invalid length " ++ Text.decimal length ++ ", expected " ++ expected
  | missingField name => "missing field " ++ ticked name
  | duplicateField name => "duplicate field " ++ ticked name
  | unknownVariant name known => "unknown variant " ++ ticked name ++ ", " ++ choices known
  | refusedPath path why =>
    "Filesystem error: Invalid path " ++ Text.quoted path ++ ": " ++ why.message
  | refusedInstant why => why.message

end GrantFs.Json
