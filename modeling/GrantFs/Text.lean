/-! # Text

Text is a list of characters, so statements about it are statements about lists. String literals
stand for their characters. Lengths are counted in characters unless a name says bytes.
-/
namespace GrantFs

abbrev Text := List Char

abbrev Bytes := List UInt8

instance : Coe String Text := ⟨String.toList⟩

namespace Text

def occurs (word : Text) : Text → Bool
  | [] => word.isEmpty
  | c :: rest => word.isPrefixOf (c :: rest) || occurs word rest

theorem occurs_iff_infix {word t : Text} : occurs word t = true ↔ word <:+: t := by
  induction t with
  | nil => simp [occurs]
  | cons c rest ih => simp [occurs, List.infix_cons_iff, ih]

theorem infix_append_cases {word s t : Text} (h : word <:+: s ++ t) :
    word <:+: s ∨ word <:+: t ∨ ∃ a b, word = a ++ b ∧ a <:+ s ∧ b <+: t ∧ a ≠ [] ∧ b ≠ [] := by
  obtain ⟨before, after, hword⟩ := h
  rw [List.append_assoc, List.append_eq_append_iff] at hword
  obtain ⟨a, rfl, hword⟩ | ⟨b, -, rfl⟩ := hword
  · obtain ⟨rest, rfl, -⟩ | ⟨b, rfl, rfl⟩ := List.append_eq_append_iff.mp hword
    · exact .inl ⟨before, rest, List.append_assoc ..⟩
    · by_cases ha : a = []
      · subst ha
        exact .inr (.inl (List.prefix_append ..).isInfix)
      by_cases hb : b = []
      · subst hb
        rw [List.append_nil]
        exact .inl (List.suffix_append ..).isInfix
      exact .inr (.inr ⟨a, b, rfl, List.suffix_append .., List.prefix_append .., ha, hb⟩)
  · exact .inr (.inl ⟨b, after, List.append_assoc ..⟩)

/-- What follows `start`, if the text begins with it. -/
def stripStart? : (start t : Text) → Option Text
  | [], t => some t
  | _ :: _, [] => none
  | a :: start, b :: t => if a = b then stripStart? start t else none

theorem stripStart?_eq_some {start t rest : Text} :
    stripStart? start t = some rest ↔ t = start ++ rest := by
  induction start generalizing t with
  | nil => simp [stripStart?, eq_comm]
  | cons a start ih =>
    cases t with
    | nil => simp [stripStart?]
    | cons b t =>
      rw [stripStart?]
      by_cases hab : a = b
      · rw [if_pos hab, ih, hab, List.cons_append, List.cons.injEq, and_iff_right rfl]
      · rw [if_neg hab]
        simp [Ne.symm hab]

def cutAt? (word : Text) : Text → Option (Text × Text)
  | [] => (stripStart? word []).map ([], ·)
  | c :: rest =>
    match stripStart? word (c :: rest) with
    | some after => some ([], after)
    | none => (cutAt? word rest).map fun (before, after) => (c :: before, after)

/-- The stretches between the separators: one more than there are separators. -/
def split (separator : Char) : Text → List Text
  | [] => [[]]
  | c :: rest =>
    if c = separator then [] :: split separator rest
    else
      match split separator rest with
      | [] => [[c]]
      | part :: parts => (c :: part) :: parts

def segments (t : Text) : List Text := (split '/' t).filter (· ≠ [])

def joinWith (separator : Text) (parts : List Text) : Text := separator.intercalate parts

def decimal (n : Nat) : Text := Nat.toDigits 10 n

def decimalInt : Int → Text
  | .ofNat n => decimal n
  | .negSucc n => '-' :: decimal (n + 1)

def digitsValue (digits : Text) : Nat :=
  digits.foldl (fun n c => n * 10 + (c.toNat - '0'.toNat)) 0

def byteSize (t : Text) : Nat := t.foldr (fun c n => c.utf8Size + n) 0

/-- Whether the first `n` bytes are whole characters. -/
def isBoundary : Text → (n : Nat) → Bool
  | _, 0 => true
  | [], _ + 1 => false
  | c :: rest, n + 1 => c.utf8Size ≤ n + 1 && isBoundary rest (n + 1 - c.utf8Size)

/-- The boundary that is met first on the way back from `n`, if one is met before the way leads
below zero. -/
def boundaryBack? (t : Text) : (n : Nat) → Option Nat
  | 0 => if isBoundary t 0 then some 0 else none
  | n + 1 => if isBoundary t (n + 1) then some (n + 1) else boundaryBack? t n

/-- The characters that begin within the first `n` bytes. -/
def truncate : (n : Nat) → Text → Text
  | 0, _ => []
  | _ + 1, [] => []
  | n + 1, c :: rest => c :: truncate (n + 1 - c.utf8Size) rest

def takeBytes (limit : Nat) (t : Text) : Text :=
  match boundaryBack? t limit with
  | some n => truncate n t
  | none => []

def padRight (width : Nat) (t : Text) : Text := t ++ List.replicate (width - t.length) ' '

def padLeft (width : Nat) (t : Text) : Text := List.replicate (width - t.length) ' ' ++ t

end Text
end GrantFs
