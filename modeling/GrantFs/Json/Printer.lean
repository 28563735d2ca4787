import GrantFs.Json.Value

/-! # Written JSON

The compact form holds no blank outside of strings. The spread form puts every item and member on a
line of its own, indented by two blanks for each level.
-/
namespace GrantFs.Json

def escape (c : Char) : Text :=
  if c = '"' then "\\\""
  else if c = '\\' then "\\\\"
  else if c = '\x08' then "\\b"
  else if c = '\x0c' then "\\f"
  else if c = '\n' then "\\n"
  else if c = '\r' then "\\r"
  else if c = '\t' then "\\t"
  else if c.toNat < 0x10 then "\\u000" ++ Nat.toDigits 16 c.toNat
  else if c.toNat < 0x20 then "\\u00" ++ Nat.toDigits 16 c.toNat
  else [c]

def stringText (t : Text) : Text := '"' :: t.flatMap escape ++ ['"']

mutual

def compact : Json → Text
  | null => "null"
  | bool true => "true"
  | bool false => "false"
  | number n => n.text
  | text t => stringText t
  | array items => '[' :: compactItems items
  | object members => '\x7b' :: compactMembers members

def compactItems : List Json → Text
  | [] => "]"
  | [j] => compact j ++ "]"
  | j :: rest => compact j ++ ',' :: compactItems rest

def compactMembers : List (Text × Json) → Text
  | [] => "\x7d"
  | [(key, j)] => stringText key ++ ':' :: compact j ++ "\x7d"
  | (key, j) :: rest => stringText key ++ ':' :: compact j ++ ',' :: compactMembers rest

end

def newLine (level : Nat) : Text := '\n' :: List.replicate (2 * level) ' '

mutual

def spreadAt (level : Nat) : Json → Text
  | null => "null"
  | bool true => "true"
  | bool false => "false"
  | number n => n.text
  | text t => stringText t
  | array [] => "[]"
  | array items => '[' :: spreadItems level items
  | object [] => "\x7b\x7d"
  | object members => '\x7b' :: spreadMembers level members

def spreadItems (level : Nat) : List Json → Text
  | [] => newLine level ++ "]"
  | [j] => newLine (level + 1) ++ spreadAt (level + 1) j ++ newLine level ++ "]"
  | j :: rest => newLine (level + 1) ++ spreadAt (level + 1) j ++ ',' :: spreadItems level rest

def spreadMembers (level : Nat) : List (Text × Json) → Text
  | [] => newLine level ++ "\x7d"
  | [(key, j)] =>
    newLine (level + 1) ++ stringText key ++ ": " ++ spreadAt (level + 1) j ++ newLine level ++
      "\x7d"
  | (key, j) :: rest =>
    newLine (level + 1) ++ stringText key ++ ": " ++ spreadAt (level + 1) j ++ ',' ::
      spreadMembers level rest

end

def spread (j : Json) : Text := spreadAt 0 j

end GrantFs.Json
