import GrantFs.Json.Decode
import GrantFs.Json.Printer
import Mathlib.Data.List.Basic
import Mathlib.Data.Nat.Digits.Defs

/-! # Written JSON read back

What is written of a value, in the compact form or spread over lines, is read back as the value.
The way goes over the spellings of a value: the texts that differ from the compact form in nothing
but blanks between the parts. -/
namespace GrantFs.Json

def Blank (t : Text) : Prop := ∀ c ∈ t, isBlank c = true

theorem skipBlanks_append {blanks t : Text} (h : Blank blanks) :
    skipBlanks (blanks ++ t) = skipBlanks t :=
  List.dropWhile_append_of_pos h

theorem skipBlanks_cons {c : Char} {t : Text} (h : isBlank c = false) :
    skipBlanks (c :: t) = c :: t := by
  simp [skipBlanks, h]

theorem blank_nil : Blank [] := by simp [Blank]

theorem blank_space : Blank [' '] := by simp [Blank, isBlank]

theorem blank_newLine (level : Nat) : Blank (newLine level) := by
  intro c hc
  obtain rfl | hc := List.mem_cons.mp hc
  · rfl
  · rw [List.eq_of_mem_replicate hc]
    rfl

theorem hexDigit_digitChar : ∀ n < 16, hexDigit? (Nat.digitChar n) = some n := by decide

theorem toDigits_control : ∀ n < 0x20,
    (if n < 0x10 then '0' :: Nat.toDigits 16 n else Nat.toDigits 16 n) =
      [Nat.digitChar (n / 16), Nat.digitChar (n % 16)] := by
  decide

theorem readHex_of_digits {a b c d : Char} {w x y z : Nat} (ha : hexDigit? a = some w)
    (hb : hexDigit? b = some x) (hc : hexDigit? c = some y) (hd : hexDigit? d = some z)
    (rest : Text) :
    readHex (a :: b :: c :: d :: rest) = .ok (((w * 16 + x) * 16 + y) * 16 + z, rest) := by
  have hsize : ¬ Text.byteSize (a :: b :: c :: d :: rest) < 4 := by
    have := a.utf8Size_pos
    have := b.utf8Size_pos
    have := c.utf8Size_pos
    have := d.utf8Size_pos
    simp only [Text.byteSize, List.foldr_cons]
    omega
  rw [readHex, if_neg hsize]
  simp only [ha, hb, hc, hd]

theorem readUnicodeEscape_control {c : Char} (hc : c.toNat < 0x20) (rest : Text) :
    readUnicodeEscape ('0' :: '0' :: Nat.digitChar (c.toNat / 16) ::
      Nat.digitChar (c.toNat % 16) :: rest) = .ok (c, rest) := by
  have hzero : hexDigit? '0' = some 0 := rfl
  have hhigh := hexDigit_digitChar (c.toNat / 16) (by omega)
  have hlow := hexDigit_digitChar (c.toNat % 16) (by omega)
  have hvalue : ((0 * 16 + 0) * 16 + c.toNat / 16) * 16 + c.toNat % 16 = c.toNat := by omega
  rw [readUnicodeEscape, readHex_of_digits hzero hzero hhigh hlow, hvalue]
  show (if 0xDC00 ≤ c.toNat ∧ c.toNat ≤ 0xDFFF then _ else _) = _
  rw [if_neg (by omega), if_neg (by omega), Char.ofNat_toNat]
  rfl

theorem escape_cases (c : Char) :
    (∃ e, escape c = ['\\', e] ∧ e ≠ 'u' ∧ simpleEscape? e = some c) ∨
    (c.toNat < 0x20 ∧ escape c =
      ['\\', 'u', '0', '0', Nat.digitChar (c.toNat / 16), Nat.digitChar (c.toNat % 16)]) ∨
    (escape c = [c] ∧ c ≠ '"' ∧ c ≠ '\\' ∧ ¬ c.toNat < 0x20) := by
  unfold escape
  split_ifs with hquote hslash hb hf hn hr ht hlow hcontrol
  · exact .inl ⟨'"', rfl, by decide, by rw [hquote]; rfl⟩
  · exact .inl ⟨'\\', rfl, by decide, by rw [hslash]; rfl⟩
  · exact .inl ⟨'b', rfl, by decide, by rw [hb]; rfl⟩
  · exact .inl ⟨'f', rfl, by decide, by rw [hf]; rfl⟩
  · exact .inl ⟨'n', rfl, by decide, by rw [hn]; rfl⟩
  · exact .inl ⟨'r', rfl, by decide, by rw [hr]; rfl⟩
  · exact .inl ⟨'t', rfl, by decide, by rw [ht]; rfl⟩
  · have hdigits := toDigits_control c.toNat (by omega)
    rw [if_pos hlow] at hdigits
    refine .inr (.inl ⟨by omega, ?_⟩)
    rw [← hdigits]
    rfl
  · have hdigits := toDigits_control c.toNat hcontrol
    rw [if_neg hlow] at hdigits
    refine .inr (.inl ⟨hcontrol, ?_⟩)
    rw [← hdigits]
    rfl
  · exact .inr (.inr ⟨rfl, hquote, hslash, hcontrol⟩)

theorem readStringFrom_escape {c : Char} {fuel : Nat} {t rest behind : Text}
    (h : readStringFrom fuel rest = .ok (t, behind)) :
    readStringFrom (fuel + 1) (escape c ++ rest) = .ok (c :: t, behind) := by
  obtain ⟨e, hescape, hletter, hsimple⟩ | ⟨hcontrol, hescape⟩ | ⟨hescape, hquote, hslash, hplain⟩ :=
    escape_cases c
  · rw [hescape]
    simp [readStringFrom, hletter, hsimple, h]
  · rw [hescape]
    simp only [List.cons_append, List.nil_append, readStringFrom]
    rw [readUnicodeEscape_control hcontrol]
    simp [h, bind, Except.bind, pure, Except.pure]
  · rw [hescape]
    simp [readStringFrom, hquote, hslash, hplain, h]

theorem readStringFrom_escaped {t : Text} {fuel : Nat} (hfuel : t.length < fuel) (rest : Text) :
    readStringFrom fuel (t.flatMap escape ++ '"' :: rest) = .ok (t, rest) := by
  induction t generalizing fuel with
  | nil =>
    obtain ⟨fuel, rfl⟩ : ∃ m, fuel = m + 1 := ⟨fuel - 1, by omega⟩
    rfl
  | cons c t ih =>
    obtain ⟨fuel, rfl⟩ : ∃ m, fuel = m + 1 := ⟨fuel - 1, by omega⟩
    rw [List.flatMap_cons, List.append_assoc]
    exact readStringFrom_escape (ih (by simpa using hfuel))

theorem length_le_length_escaped (t : Text) : t.length ≤ (t.flatMap escape).length := by
  induction t with
  | nil => simp
  | cons c t ih =>
    have hone : 1 ≤ (escape c).length := by
      obtain ⟨e, h, -⟩ | ⟨-, h⟩ | ⟨h, -⟩ := escape_cases c <;> simp [h]
    rw [List.flatMap_cons, List.length_append, List.length_cons]
    omega

theorem readString_escaped (t rest : Text) :
    readString (t.flatMap escape ++ '"' :: rest) = .ok (t, rest) := by
  refine readStringFrom_escaped ?_ rest
  have := length_le_length_escaped t
  rw [List.length_append]
  omega

/-- What may stand behind a value; no number goes on there. -/
def Delimited (t : Text) : Prop :=
  ∀ c ∈ t.head?, isBlank c = true ∨ c = ',' ∨ c = ']' ∨ c = '\x7d'

theorem Delimited.of_blank {blanks t : Text} (h : Blank blanks) (ht : Delimited t) :
    Delimited (blanks ++ t) := by
  cases blanks with
  | nil => exact ht
  | cons c blanks =>
    rintro _ ⟨⟩
    exact .inl (h c List.mem_cons_self)

theorem Delimited.head {c : Char} {t : Text} (h : Delimited (c :: t)) :
    c.isDigit = false ∧ c ≠ '.' ∧ c ≠ 'e' ∧ c ≠ 'E' := by
  obtain hblank | rfl | rfl | rfl := h c rfl
  · simp only [isBlank, Bool.or_eq_true, decide_eq_true_eq] at hblank
    obtain ((rfl | rfl) | rfl) | rfl := hblank <;> decide
  all_goals decide

theorem Delimited.takeWhile_digits {t : Text} (h : Delimited t) :
    t.takeWhile Char.isDigit = [] := by
  cases t with
  | nil => rfl
  | cons c t => exact List.takeWhile_cons_of_neg (by simp [h.head.1])

def Number.Fits : Number → Prop
  | natural n => n ≤ largestWord
  | negative n => 0 < n ∧ n ≤ Nat.pow 2 63
  | real _ => False

theorem le_ofDigitChars (digits : Text) (n : Nat) : n ≤ Nat.ofDigitChars 10 digits n := by
  induction digits generalizing n with
  | nil => exact le_rfl
  | cons c digits ih =>
    rw [Nat.ofDigitChars_cons]
    exact le_trans (by omega) (ih _)

theorem accumulate_of_fits {digits : Text} {n : Nat}
    (h : Nat.ofDigitChars 10 digits n ≤ largestWord) :
    accumulate n digits = (Nat.ofDigitChars 10 digits n, []) := by
  induction digits generalizing n with
  | nil => rfl
  | cons c digits ih =>
    rw [Nat.ofDigitChars_cons, Nat.mul_comm] at h ⊢
    have hnext := (le_ofDigitChars digits _).trans h
    rw [accumulate]
    simp only [if_neg (not_lt.mpr hnext)]
    exact ih h

theorem head_digitChar : ∀ n < 10, 0 < n → [Nat.digitChar n].head? ≠ some '0' := by decide

theorem head_decimal {n : Nat} (h : 0 < n) : (Text.decimal n).head? ≠ some '0' := by
  induction n using Nat.strong_induction_on with
  | _ n ih =>
    obtain hsmall | hlarge := Nat.lt_or_ge n 10
    · rw [Text.decimal, Nat.toDigits_of_lt_base hsmall]
      exact head_digitChar n hsmall h
    · have hhead := ih (n / 10) (by omega) (by omega)
      rw [Text.decimal] at hhead ⊢
      rwa [Nat.toDigits_of_base_le (by omega) hlarge,
        List.head?_append_of_ne_nil _ Nat.toDigits_ne_nil]

theorem decimal_no_leading_zero (n : Nat) :
    ¬ ((Text.decimal n).head? = some '0' ∧ 1 < (Text.decimal n).length) := by
  obtain rfl | hpos := Nat.eq_zero_or_pos n
  · decide
  · exact fun h => head_decimal hpos h.1

theorem isDigit_of_mem_decimal {n : Nat} {c : Char} (h : c ∈ Text.decimal n) : c.isDigit = true :=
  Nat.isDigit_of_mem_toDigits (by omega) (by omega) h

theorem readNumber_decimal {negative : Bool} {n : Nat} {rest : Text} (hfits : n ≤ largestWord)
    (hrest : Delimited rest) :
    readNumber negative (Text.decimal n ++ rest) =
      if negative = false then .ok (.natural n, rest)
      else if n = 0 ∨ Nat.pow 2 63 < n then readScaled negative n 0 rest
      else .ok (.negative n, rest) := by
  have hdigits : (Text.decimal n ++ rest).takeWhile Char.isDigit = Text.decimal n := by
    rw [List.takeWhile_append_of_pos fun _ => isDigit_of_mem_decimal, hrest.takeWhile_digits,
      List.append_nil]
  have hvalue : Nat.ofDigitChars 10 (Text.decimal n) 0 = n := Nat.ofDigitChars_ten_toDigits
  have haccumulate : accumulate 0 (Text.decimal n) = (n, []) := by
    rw [accumulate_of_fits (by rwa [hvalue]), hvalue]
  have hne : Text.decimal n ≠ [] := Nat.toDigits_ne_nil
  simp only [readNumber, hdigits, haccumulate, List.drop_left]
  rw [if_neg (by simp [hne]), if_neg (by simp [hne]), if_neg (decimal_no_leading_zero n)]
  cases rest with
  | nil => cases negative <;> simp
  | cons c rest =>
    obtain ⟨-, hpoint, he, hE⟩ := hrest.head
    split
    · rename_i heq
      exact absurd (List.cons.inj heq).1 hpoint
    · cases negative <;> simp [he, hE]

theorem readNumber_natural {n : Nat} {rest : Text} (hfits : (Number.natural n).Fits)
    (hrest : Delimited rest) :
    readNumber false (Text.decimal n ++ rest) = .ok (.natural n, rest) :=
  (readNumber_decimal hfits hrest).trans (if_pos rfl)

theorem readNumber_negative {n : Nat} {rest : Text} (hfits : (Number.negative n).Fits)
    (hrest : Delimited rest) :
    readNumber true (Text.decimal n ++ rest) = .ok (.negative n, rest) := by
  obtain ⟨hpos, hbound⟩ := hfits
  have hword : n ≤ largestWord := hbound.trans (by decide)
  rw [readNumber_decimal hword hrest, if_neg (by simp), if_neg (by omega)]

mutual

/-- The text `t` spells a value in which at most `levels` containers stand within each other. -/
inductive Spells : (levels : Nat) → Json → (t : Text) → Prop where
  | null {levels} : Spells levels .null "null"
  | yes {levels} : Spells levels (.bool true) "true"
  | no {levels} : Spells levels (.bool false) "false"
  | number {levels n} (fits : n.Fits) : Spells levels (.number n) n.text
  | text {levels} (t) : Spells levels (.text t) (stringText t)
  | array {levels items t} (inside : SpellsItems levels true items t) :
      Spells (levels + 1) (.array items) ('[' :: t)
  | object {levels members t} (inside : SpellsMembers levels true members t) :
      Spells (levels + 1) (.object members) ('\x7b' :: t)

/-- The rest of a list; `first` tells that no item stands in front. -/
inductive SpellsItems : (levels : Nat) → (first : Bool) → List Json → (t : Text) → Prop where
  | close {levels first blanks} (hblanks : Blank blanks) :
      SpellsItems levels first [] (blanks ++ "]")
  | item {levels first j items blanks t rest} (hblanks : Blank blanks) (value : Spells levels j t)
      (others : SpellsItems levels false items rest) :
      SpellsItems levels first (j :: items) ((if first then [] else [',']) ++ blanks ++ t ++ rest)

/-- The rest of an object; `first` tells that no member stands in front. -/
inductive SpellsMembers : (levels : Nat) → (first : Bool) → List (Text × Json) → (t : Text) → Prop
    where
  | close {levels first blanks} (hblanks : Blank blanks) :
      SpellsMembers levels first [] (blanks ++ "\x7d")
  | member {levels first key j members blanks blanks' t rest} (hblanks : Blank blanks)
      (hblanks' : Blank blanks') (value : Spells levels j t)
      (others : SpellsMembers levels false members rest) :
      SpellsMembers levels first ((key, j) :: members)
        ((if first then [] else [',']) ++ blanks ++ stringText key ++ ':' :: blanks' ++ t ++ rest)

end

variable {levels depth fuel : Nat} {first : Bool} {j : Json} {items : List Json}
  {members : List (Text × Json)} {t rest : Text}

theorem decimal_eq_cons (n : Nat) :
    ∃ c digits, Text.decimal n = c :: digits ∧ c.isDigit = true := by
  obtain ⟨c, digits, h⟩ := List.exists_cons_of_ne_nil (Nat.toDigits_ne_nil (n := n) (b := 10))
  exact ⟨c, digits, h, isDigit_of_mem_decimal (by rw [Text.decimal, h]; exact List.mem_cons_self)⟩

theorem isBlank_of_isDigit {c : Char} (h : c.isDigit = true) : isBlank c = false := by
  by_contra hblank
  simp only [isBlank, Bool.not_eq_false, Bool.or_eq_true, decide_eq_true_eq] at hblank
  obtain ((rfl | rfl) | rfl) | rfl := hblank <;> exact absurd h (by decide)

/-- A spelling begins with something that is neither a blank nor the end of a list. -/
theorem Spells.head (h : Spells levels j t) :
    ∃ c tail, t = c :: tail ∧ isBlank c = false ∧ c ≠ ']' := by
  cases h with
  | null | yes | no | text | array | object => exact ⟨_, _, rfl, rfl, by decide⟩
  | @number _ n _ =>
    cases n with
    | natural n =>
      obtain ⟨c, digits, h, hc⟩ := decimal_eq_cons n
      refine ⟨c, digits, h, isBlank_of_isDigit hc, ?_⟩
      rintro rfl
      exact absurd hc (by decide)
    | negative n => exact ⟨_, _, rfl, rfl, by decide⟩
    | real x => contradiction

theorem SpellsItems.delimited (h : SpellsItems levels false items t) (rest : Text) :
    Delimited (t ++ rest) := by
  cases h with
  | close hblanks =>
    rw [List.append_assoc]
    exact .of_blank hblanks (by rintro _ ⟨⟩; decide)
  | item =>
    rintro _ ⟨⟩
    simp

theorem SpellsItems.length_pos (h : SpellsItems levels first items t) : 0 < t.length := by
  cases h with
  | close => simp
  | item _ value _ =>
    obtain ⟨c, tail, rfl, -⟩ := value.head
    simp only [List.length_append, List.length_cons]
    omega

theorem SpellsMembers.length_pos (h : SpellsMembers levels first members t) : 0 < t.length := by
  cases h <;> simp

theorem SpellsMembers.delimited (h : SpellsMembers levels false members t) (rest : Text) :
    Delimited (t ++ rest) := by
  cases h with
  | close hblanks =>
    rw [List.append_assoc]
    exact .of_blank hblanks (by rintro _ ⟨⟩; decide)
  | member =>
    rintro _ ⟨⟩
    simp

structure Doc.ReadsWith (fuel : Nat) : Prop where
  value {levels depth : Nat} {j : Json} {blanks t rest : Text} (spelling : Spells levels j t)
    (hblanks : Blank blanks) (hfuel : t.length < fuel) (hdepth : depth + levels ≤ nestingLimit)
    (hrest : Delimited rest) :
    ∃ d, readFrom fuel depth (blanks ++ t ++ rest) = (d, .ok rest) ∧ Decode.anyValue d = .ok j
  items {levels depth : Nat} {first : Bool} {items : List Json} {t : Text}
    (spelling : SpellsItems levels first items t) (hfuel : t.length < fuel)
    (hdepth : depth + levels ≤ nestingLimit) (rest : Text) :
    ∃ ds, readItems fuel depth first (t ++ rest) = (ds, .closed, some rest) ∧
      Decode.anyItems ds = .ok items
  members {levels depth : Nat} {first : Bool} {members : List (Text × Json)} {t : Text}
    (spelling : SpellsMembers levels first members t) (hfuel : t.length < fuel)
    (hdepth : depth + levels ≤ nestingLimit) (rest : Text) :
    ∃ ms, readMembers fuel depth first (t ++ rest) = (ms, none, some rest) ∧
      Decode.anyMembers ms = .ok members

namespace Doc

theorem readFrom_text {u s : Text} (ht : skipBlanks u = '"' :: t)
    (hread : readString t = .ok (s, rest)) :
    readFrom (fuel + 1) depth u = (.text s, .ok rest) := by
  rw [readFrom, ht]
  simp [hread, scalar, Except.map]

theorem readFrom_natural {u : Text} {c : Char} {n : Number} (ht : skipBlanks u = c :: t)
    (hc : c.isDigit = true) (hread : readNumber false (c :: t) = .ok (n, rest)) :
    readFrom (fuel + 1) depth u = (.number n, .ok rest) := by
  have hquote : c ≠ '"' := by
    rintro rfl
    contradiction
  have hminus : c ≠ '-' := by
    rintro rfl
    contradiction
  rw [readFrom, ht]
  simp [hc, hquote, hminus, hread, scalar, Except.map]

theorem readFrom_negative {u : Text} {n : Number} (ht : skipBlanks u = '-' :: t)
    (hread : readNumber true t = .ok (n, rest)) :
    readFrom (fuel + 1) depth u = (.number n, .ok rest) := by
  rw [readFrom, ht]
  simp [hread, scalar, Except.map]

theorem readFrom_list {u : Text} {ds : List Doc} {close : Close} (ht : skipBlanks u = '[' :: t)
    (hdepth : depth < nestingLimit)
    (hread : readItems fuel (depth + 1) true t = (ds, close, some rest)) :
    readFrom (fuel + 1) depth u = (.array ds close false none, .ok rest) := by
  rw [readFrom, ht]
  simp [hread, Nat.not_le.mpr hdepth]

theorem readFrom_object {u : Text} {ms : List (Text × Doc)} {close : Option Malformed}
    (ht : skipBlanks u = '\x7b' :: t) (hdepth : depth < nestingLimit)
    (hread : readMembers fuel (depth + 1) true t = (ms, close, some rest)) :
    ∃ variant, readFrom (fuel + 1) depth u = (.object ms close false none variant, .ok rest) := by
  rw [readFrom, ht]
  simp [hread, Nat.not_le.mpr hdepth]

/-- The next part of a list or an object begins at `next`: behind blanks if it is the first one, and
otherwise behind a comma as well. -/
def Leads (first : Bool) (t next : Text) : Prop :=
  first = true ∧ skipBlanks t = next ∨
    ∃ behind, first = false ∧ skipBlanks t = ',' :: behind ∧ skipBlanks behind = next

theorem leads_part {blanks : Text} {c : Char} (hblanks : Blank blanks) (hc : isBlank c = false) :
    Leads first ((if first then [] else [',']) ++ blanks ++ c :: t) (c :: t) := by
  have hskip : skipBlanks (blanks ++ c :: t) = c :: t := by
    rw [skipBlanks_append hblanks, skipBlanks_cons hc]
  cases first with
  | true => exact .inl ⟨rfl, by simpa using hskip⟩
  | false => exact .inr ⟨_, rfl, skipBlanks_cons rfl, by simpa using hskip⟩

theorem readItems_close {u : Text} (ht : skipBlanks u = ']' :: rest) :
    readItems (fuel + 1) depth first u = ([], .closed, some rest) := by
  rw [readItems, ht]
  rfl

theorem readItems_item {u : Text} {c : Char} {d : Doc} {ds : List Doc} {close : Close}
    {after : Option Text} (ht : Leads first u (c :: t)) (hc : c ≠ ']')
    (hvalue : readFrom fuel depth (c :: t) = (d, .ok rest))
    (hothers : readItems fuel depth false rest = (ds, close, after)) :
    readItems (fuel + 1) depth first u = (d :: ds, close, after) := by
  obtain ⟨rfl, hu⟩ | ⟨v, rfl, hu, hv⟩ := ht
  · rw [readItems, hu]
    simp [hvalue, hothers]
  · rw [readItems, hu]
    simp only [↓Char.isValue, Char.reduceEq, imp_self, Bool.false_eq_true, ↓reduceIte, hv,
      Prod.mk.eta]
    split
    · rename_i heq
      simp at heq
    · rename_i heq
      exact absurd (List.cons.inj heq).1 hc
    · simp [hvalue, hothers]

theorem readMembers_close {u : Text} (ht : skipBlanks u = '\x7d' :: rest) :
    readMembers (fuel + 1) depth first u = ([], none, some rest) := by
  rw [readMembers, ht]
  rfl

theorem readMembers_member {u keyText behindKey key : Text} {d : Doc} {ms : List (Text × Doc)}
    {close : Option Malformed} {after : Option Text} (ht : Leads first u ('"' :: keyText))
    (hkey : readString keyText = .ok (key, behindKey)) (hcolon : skipBlanks behindKey = ':' :: t)
    (hvalue : readFrom fuel depth t = (d, .ok rest))
    (hothers : readMembers fuel depth false rest = (ms, close, after)) :
    readMembers (fuel + 1) depth first u = ((key, d) :: ms, close, after) := by
  obtain ⟨rfl, hu⟩ | ⟨v, rfl, hu, hv⟩ := ht
  · rw [readMembers, hu]
    simp [hkey, hcolon, hvalue, hothers]
  · rw [readMembers, hu]
    simp [hv, hkey, hcolon, hvalue, hothers]

end Doc

namespace Doc.ReadsWith

theorem value_step (ih : ReadsWith fuel) {blanks : Text} (spelling : Spells levels j t)
    (hblanks : Blank blanks) (hfuel : t.length < fuel + 1) (hdepth : depth + levels ≤ nestingLimit)
    (hrest : Delimited rest) :
    ∃ d, readFrom (fuel + 1) depth (blanks ++ t ++ rest) = (d, .ok rest) ∧
      Decode.anyValue d = .ok j := by
  obtain ⟨c, tail, ht, hc, -⟩ := spelling.head
  have hskip : skipBlanks (blanks ++ t ++ rest) = t ++ rest := by
    rw [List.append_assoc, skipBlanks_append hblanks, ht, List.cons_append, skipBlanks_cons hc]
  cases spelling with
  | null => exact ⟨.null, by rw [readFrom, hskip]; rfl, rfl⟩
  | yes => exact ⟨.bool true, by rw [readFrom, hskip]; rfl, rfl⟩
  | no => exact ⟨.bool false, by rw [readFrom, hskip]; rfl, rfl⟩
  | @number _ n fits =>
    refine ⟨.number n, ?_, rfl⟩
    cases n with
    | natural n =>
      have hread := readNumber_natural fits hrest
      obtain ⟨c, digits, hdigits, hdigit⟩ := decimal_eq_cons n
      rw [hdigits] at hread
      exact readFrom_natural (hskip.trans (by rw [Number.text, hdigits]; rfl)) hdigit hread
    | negative n => exact readFrom_negative hskip (readNumber_negative fits hrest)
    | real x => contradiction
  | text s =>
    refine ⟨.text s, readFrom_text (hskip.trans ?_) (readString_escaped s rest), rfl⟩
    simp [stringText]
  | @array levels _ _ inside =>
    have hdeep : depth < nestingLimit := by omega
    have hinside : depth + 1 + levels ≤ nestingLimit := by omega
    obtain ⟨ds, hread, hvalues⟩ := ih.items inside (by simpa using hfuel) hinside rest
    refine ⟨_, readFrom_list hskip hdeep hread, ?_⟩
    simp [Decode.anyValue, hvalues, Decode.Close.finish, bind, Except.bind, pure, Except.pure]
  | @object levels _ _ inside =>
    have hdeep : depth < nestingLimit := by omega
    have hinside : depth + 1 + levels ≤ nestingLimit := by omega
    obtain ⟨ms, hread, hvalues⟩ := ih.members inside (by simpa using hfuel) hinside rest
    obtain ⟨variant, hobject⟩ := readFrom_object hskip hdeep hread
    refine ⟨_, hobject, ?_⟩
    simp [Decode.anyValue, hvalues, bind, Except.bind, pure, Except.pure]

theorem items_step (ih : ReadsWith fuel) (spelling : SpellsItems levels first items t)
    (hfuel : t.length < fuel + 1) (hdepth : depth + levels ≤ nestingLimit) (rest : Text) :
    ∃ ds, readItems (fuel + 1) depth first (t ++ rest) = (ds, .closed, some rest) ∧
      Decode.anyItems ds = .ok items := by
  cases spelling with
  | close hblanks =>
    refine ⟨[], readItems_close ?_, rfl⟩
    rw [List.append_assoc, skipBlanks_append hblanks]
    rfl
  | @item _ _ _ _ blanks s others hblanks value hothers =>
    obtain ⟨c, tail, rfl, hc, hbracket⟩ := value.head
    have hlength : (c :: tail).length < fuel ∧ others.length < fuel := by
      have := hothers.length_pos
      simp only [List.length_append, List.length_cons] at hfuel ⊢
      omega
    obtain ⟨d, hread, hvalue⟩ :=
      ih.value value blank_nil hlength.1 hdepth (hothers.delimited rest)
    obtain ⟨ds, hreads, hvalues⟩ := ih.items hothers hlength.2 hdepth rest
    have hleads : Leads first ((if first then [] else [',']) ++ blanks ++ (c :: tail) ++ others ++
        rest) (c :: (tail ++ (others ++ rest))) := by
      simpa using leads_part hblanks hc
    refine ⟨d :: ds, readItems_item hleads hbracket (by simpa using hread) hreads, ?_⟩
    simp [Decode.anyItems, hvalue, hvalues, bind, Except.bind, pure, Except.pure]

theorem members_step (ih : ReadsWith fuel) (spelling : SpellsMembers levels first members t)
    (hfuel : t.length < fuel + 1) (hdepth : depth + levels ≤ nestingLimit) (rest : Text) :
    ∃ ms, readMembers (fuel + 1) depth first (t ++ rest) = (ms, none, some rest) ∧
      Decode.anyMembers ms = .ok members := by
  cases spelling with
  | close hblanks =>
    refine ⟨[], readMembers_close ?_, rfl⟩
    rw [List.append_assoc, skipBlanks_append hblanks]
    rfl
  | @member _ _ key j _ blanks blanks' s others hblanks hblanks' value hothers =>
    have hlength : s.length < fuel ∧ others.length < fuel := by
      have := hothers.length_pos
      simp only [List.length_append, List.length_cons] at hfuel
      omega
    obtain ⟨d, hread, hvalue⟩ := ih.value value hblanks' hlength.1 hdepth (hothers.delimited rest)
    obtain ⟨ms, hreads, hvalues⟩ := ih.members hothers hlength.2 hdepth rest
    have hleads : Leads first ((if first then [] else [',']) ++ blanks ++ stringText key ++
        ':' :: blanks' ++ s ++ others ++ rest)
        ('"' :: (key.flatMap escape ++ '"' :: (':' :: (blanks' ++ s ++ (others ++ rest))))) := by
      simpa [stringText] using leads_part hblanks rfl
    refine ⟨(key, d) :: ms, readMembers_member hleads (readString_escaped _ _) (skipBlanks_cons rfl)
      hread hreads, ?_⟩
    simp [Decode.anyMembers, hvalue, hvalues, bind, Except.bind, pure, Except.pure]

end Doc.ReadsWith

/-- The induction is on the fuel: a part is shorter than the text it stands in, so the step that is
spent on the brackets or the comma around it is never missing. -/
theorem Doc.readsWith (fuel : Nat) : ReadsWith fuel := by
  induction fuel with
  | zero =>
    exact ⟨fun _ _ hfuel => absurd hfuel (Nat.not_lt_zero _),
      fun _ hfuel => absurd hfuel (Nat.not_lt_zero _),
      fun _ hfuel => absurd hfuel (Nat.not_lt_zero _)⟩
  | succ fuel ih => exact ⟨ih.value_step, ih.items_step, ih.members_step⟩

def parse (t : Text) : Except Flaw Json := decodeText (fun _ => Decode.anyValue) t

theorem Spells.parse_eq (h : Spells Doc.nestingLimit j t) : parse t = .ok j := by
  have hlength : t.length < 2 * t.length + 2 := by omega
  have hend : Delimited [] := by simp [Delimited]
  obtain ⟨d, hread, hvalue⟩ :=
    (Doc.readsWith _).value h blank_nil hlength (Nat.zero_add _).le hend
  rw [List.nil_append, List.append_nil] at hread
  rw [parse, decodeText, Document.ofText, hread, Document.decode]
  simp only [hvalue]
  rfl

mutual

/-- A value that is written without loss: its numbers are whole and fit in a word, and at most
`levels` containers stand within each other. -/
def Fits : (levels : Nat) → Json → Prop
  | _, null => True
  | _, bool _ => True
  | _, number n => n.Fits
  | _, text _ => True
  | levels, array items => 0 < levels ∧ ItemsFit (levels - 1) items
  | levels, object members => 0 < levels ∧ MembersFit (levels - 1) members

def ItemsFit : (levels : Nat) → List Json → Prop
  | _, [] => True
  | levels, j :: rest => j.Fits levels ∧ ItemsFit levels rest

def MembersFit : (levels : Nat) → List (Text × Json) → Prop
  | _, [] => True
  | levels, (_, j) :: rest => j.Fits levels ∧ MembersFit levels rest

end

theorem SpellsItems.last {blanks blanks' : Text} (hblanks : Blank blanks) (h : Spells levels j t)
    (hblanks' : Blank blanks') : SpellsItems levels true [j] (blanks ++ t ++ (blanks' ++ "]")) :=
  .item hblanks h (.close hblanks')

theorem SpellsItems.more {blanks : Text} (hblanks : Blank blanks) (h : Spells levels j t)
    (hrest : SpellsItems levels true items rest) (hne : items ≠ []) :
    SpellsItems levels true (j :: items) (blanks ++ t ++ ',' :: rest) := by
  refine .item hblanks h ?_
  cases hrest with
  | close => contradiction
  | item hblanks value others => exact .item hblanks value others

theorem SpellsMembers.last {key blanks blanks' blanks'' : Text} (hblanks : Blank blanks)
    (hblanks' : Blank blanks') (h : Spells levels j t) (hblanks'' : Blank blanks'') :
    SpellsMembers levels true [(key, j)]
      (blanks ++ stringText key ++ ':' :: blanks' ++ t ++ (blanks'' ++ "\x7d")) :=
  .member hblanks hblanks' h (.close hblanks'')

theorem SpellsMembers.more {key blanks blanks' : Text} (hblanks : Blank blanks)
    (hblanks' : Blank blanks') (h : Spells levels j t)
    (hrest : SpellsMembers levels true members rest) (hne : members ≠ []) :
    SpellsMembers levels true ((key, j) :: members)
      (blanks ++ stringText key ++ ':' :: blanks' ++ t ++ ',' :: rest) := by
  refine .member hblanks hblanks' h ?_
  cases hrest with
  | close => contradiction
  | member hblanks hblanks' value others => exact .member hblanks hblanks' value others

mutual

theorem spells_compact {j : Json} {levels : Nat} (h : j.Fits levels) :
    Spells levels j j.compact := by
  match j with
  | .null => exact .null
  | .bool true => exact .yes
  | .bool false => exact .no
  | .number n => exact .number h
  | .text t => exact .text t
  | .array items =>
    obtain ⟨hpos, hitems⟩ := h
    obtain ⟨levels, rfl⟩ := Nat.exists_eq_succ_of_ne_zero hpos.ne'
    exact .array (spellsItems_compact hitems)
  | .object members =>
    obtain ⟨hpos, hmembers⟩ := h
    obtain ⟨levels, rfl⟩ := Nat.exists_eq_succ_of_ne_zero hpos.ne'
    exact .object (spellsMembers_compact hmembers)

theorem spellsItems_compact {items : List Json} {levels : Nat} (h : ItemsFit levels items) :
    SpellsItems levels true items (compactItems items) := by
  match items with
  | [] => exact .close blank_nil
  | [j] => simpa [compactItems] using SpellsItems.last blank_nil (spells_compact h.1) blank_nil
  | j :: k :: rest =>
    simpa [compactItems] using
      SpellsItems.more blank_nil (spells_compact h.1) (spellsItems_compact h.2) (by simp)

theorem spellsMembers_compact {members : List (Text × Json)} {levels : Nat}
    (h : MembersFit levels members) :
    SpellsMembers levels true members (compactMembers members) := by
  match members with
  | [] => exact .close blank_nil
  | [(key, j)] =>
    simpa [compactMembers] using
      SpellsMembers.last blank_nil blank_nil (spells_compact h.1) blank_nil
  | (key, j) :: next :: rest =>
    simpa [compactMembers] using SpellsMembers.more blank_nil blank_nil (spells_compact h.1)
      (spellsMembers_compact h.2) (by simp)

end

mutual

theorem spells_spreadAt {j : Json} {levels : Nat} (h : j.Fits levels) (level : Nat) :
    Spells levels j (j.spreadAt level) := by
  match j with
  | .null => exact .null
  | .bool true => exact .yes
  | .bool false => exact .no
  | .number n => exact .number h
  | .text t => exact .text t
  | .array items =>
    obtain ⟨hpos, hitems⟩ := h
    obtain ⟨levels, rfl⟩ := Nat.exists_eq_succ_of_ne_zero hpos.ne'
    match items with
    | [] => exact .array (.close blank_nil)
    | j :: rest => exact .array (spellsItems_spread hitems level)
  | .object members =>
    obtain ⟨hpos, hmembers⟩ := h
    obtain ⟨levels, rfl⟩ := Nat.exists_eq_succ_of_ne_zero hpos.ne'
    match members with
    | [] => exact .object (.close blank_nil)
    | (key, j) :: rest => exact .object (spellsMembers_spread hmembers level)

theorem spellsItems_spread {items : List Json} {levels : Nat} (h : ItemsFit levels items)
    (level : Nat) : SpellsItems levels true items (spreadItems level items) := by
  match items with
  | [] => exact .close (blank_newLine level)
  | [j] =>
    simpa [spreadItems] using SpellsItems.last (blank_newLine (level + 1))
      (spells_spreadAt h.1 (level + 1)) (blank_newLine level)
  | j :: k :: rest =>
    simpa [spreadItems] using SpellsItems.more (blank_newLine (level + 1))
      (spells_spreadAt h.1 (level + 1)) (spellsItems_spread h.2 level) (by simp)

theorem spellsMembers_spread {members : List (Text × Json)} {levels : Nat}
    (h : MembersFit levels members) (level : Nat) :
    SpellsMembers levels true members (spreadMembers level members) := by
  match members with
  | [] => exact .close (blank_newLine level)
  | [(key, j)] =>
    simpa [spreadMembers] using SpellsMembers.last (blank_newLine (level + 1)) blank_space
      (spells_spreadAt h.1 (level + 1)) (blank_newLine level)
  | (key, j) :: next :: rest =>
    simpa [spreadMembers] using SpellsMembers.more (blank_newLine (level + 1)) blank_space
      (spells_spreadAt h.1 (level + 1)) (spellsMembers_spread h.2 level) (by simp)

end

/-- What is written of a value is read as the value. -/
theorem parse_written (h : j.Fits Doc.nestingLimit) (ht : t = j.compact ∨ t = j.spread) :
    parse t = .ok j := by
  obtain rfl | rfl := ht
  · exact (spells_compact h).parse_eq
  · exact (spells_spreadAt h 0).parse_eq

end GrantFs.Json
