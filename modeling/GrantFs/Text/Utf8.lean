import GrantFs.Text

/-! # UTF-8

Encoding of text and decoding of bytes. Decoding reads one character at a time: a first byte fixes
how many bytes follow and which second bytes are allowed, so overlong forms, surrogates and values
beyond the last code point are refused where they become visible.
-/
namespace GrantFs.Utf8

def encodeChar (c : Char) : Bytes :=
  let n := c.toNat
  if n < 0x80 then [UInt8.ofNat n]
  else if n < 0x800 then [UInt8.ofNat (0xC0 + n / 64), UInt8.ofNat (0x80 + n % 64)]
  else if n < 0x10000 then
    [UInt8.ofNat (0xE0 + n / 4096), UInt8.ofNat (0x80 + n / 64 % 64), UInt8.ofNat (0x80 + n % 64)]
  else
    [UInt8.ofNat (0xF0 + n / 262144), UInt8.ofNat (0x80 + n / 4096 % 64),
      UInt8.ofNat (0x80 + n / 64 % 64), UInt8.ofNat (0x80 + n % 64)]

def encode (t : Text) : Bytes := t.flatMap encodeChar

/-- What a first byte promises: its payload, the number of bytes that follow and the bounds of the
second byte. -/
structure Lead where
  payload : Nat
  followers : Nat
  low : Nat
  high : Nat
deriving DecidableEq, Repr

def lead? (b : Nat) : Option Lead :=
  if b < 0x80 then some ⟨b, 0, 0x80, 0xBF⟩
  else if b < 0xC2 then none
  else if b < 0xE0 then some ⟨b - 0xC0, 1, 0x80, 0xBF⟩
  else if b = 0xE0 then some ⟨b - 0xE0, 2, 0xA0, 0xBF⟩
  else if b = 0xED then some ⟨b - 0xE0, 2, 0x80, 0x9F⟩
  else if b < 0xF0 then some ⟨b - 0xE0, 2, 0x80, 0xBF⟩
  else if b = 0xF0 then some ⟨b - 0xF0, 3, 0x90, 0xBF⟩
  else if b < 0xF4 then some ⟨b - 0xF0, 3, 0x80, 0xBF⟩
  else if b = 0xF4 then some ⟨b - 0xF0, 3, 0x80, 0x8F⟩
  else none

inductive Piece where
  | char (c : Char) (rest : Bytes)
  /-- The first `width` bytes begin no character. -/
  | broken (width : Nat) (rest : Bytes)
  /-- The input ends inside a character. -/
  | cut
deriving DecidableEq

/-- Reads the remaining bytes of a character of which `width` bytes and `value` are known. -/
def follow : (followers low high value width : Nat) → Bytes → Piece
  | 0, _, _, value, _, rest => .char (Char.ofNat value) rest
  | _ + 1, _, _, _, _, [] => .cut
  | followers + 1, low, high, value, width, b :: rest =>
    if low ≤ b.toNat ∧ b.toNat ≤ high then
      follow followers 0x80 0xBF (value * 64 + b.toNat % 64) (width + 1) rest
    else .broken width (b :: rest)

def piece (b : UInt8) (rest : Bytes) : Piece :=
  match lead? b.toNat with
  | none => .broken 1 rest
  | some l => follow l.followers l.low l.high l.payload 1 rest

inductive Defect where
  | broken (width index : Nat)
  | cut (index : Nat)
deriving DecidableEq, Repr

def Defect.message : Defect → Text
  | .broken width index =>
    "invalid utf-8 sequence of " ++ Text.decimal width ++ " bytes from index " ++
      Text.decimal index
  | .cut index => "incomplete utf-8 byte sequence from index " ++ Text.decimal index

/-- Decodes at most `fuel` characters; `index` counts the bytes already read. -/
def decodeFrom : (fuel index : Nat) → Bytes → Except Defect Text
  | _, _, [] => .ok []
  | 0, _, _ :: _ => .ok []
  | fuel + 1, index, b :: rest =>
    match piece b rest with
    | .char c rest' => (decodeFrom fuel (index + c.utf8Size) rest').map (c :: ·)
    | .broken width _ => .error (.broken width index)
    | .cut => .error (.cut index)

/-- Strict decoding: the whole input or the first defect. -/
def decode (bytes : Bytes) : Except Defect Text := decodeFrom bytes.length 0 bytes

/-- Decodes at most `fuel` pieces, with one replacement character for each broken one. -/
def decodeLossyFrom : (fuel : Nat) → Bytes → Text
  | _, [] => []
  | 0, _ :: _ => []
  | fuel + 1, b :: rest =>
    match piece b rest with
    | .char c rest' => c :: decodeLossyFrom fuel rest'
    | .broken _ rest' => '\uFFFD' :: decodeLossyFrom fuel rest'
    | .cut => ['\uFFFD']

/-- Lossy decoding: never fails, and agrees with `decode` where that succeeds. -/
def decodeLossy (bytes : Bytes) : Text := decodeLossyFrom bytes.length bytes

end GrantFs.Utf8
