import GrantFs.Text
import GrantFs.Unicode.Property

/-! # Quoted text

Text between double quotes as it stands in messages: quotes and backslashes are escaped, and so is
every character without a visible form of its own.
-/
namespace GrantFs.Text
namespace Quoted

def escape (c : Char) : Text :=
  if c = '"' then "\\\""
  else if c = '\\' then "\\\\"
  else if c = '\x00' then "\\0"
  else if c = '\t' then "\\t"
  else if c = '\r' then "\\r"
  else if c = '\n' then "\\n"
  else if Unicode.extendsGrapheme c.toNat || !Unicode.isPrintable c.toNat then
    "\\u\x7b" ++ Nat.toDigits 16 c.toNat ++ "\x7d"
  else [c]

end Quoted

def quoted (t : Text) : Text := '"' :: t.flatMap Quoted.escape ++ ['"']

end GrantFs.Text
