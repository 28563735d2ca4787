import GrantFs.Text.Utf8
import Mathlib.Order.Basic
import Mathlib.Tactic.IntervalCases
import Mathlib.Tactic.SplitIfs

/-! # UTF-8 read back

Each character is read back from its encoding, and whatever is read as a character is the encoding
of it. Main statements: bytes decode to a text if and only if they are its encoding, and encodings
are ordered as their texts. -/
namespace GrantFs.Utf8

theorem encodeChar_ne_nil (c : Char) : encodeChar c ≠ [] := by
  simp only [encodeChar]
  split_ifs <;> simp

theorem toNat_ofNat_of_lt {n : Nat} (h : n < 256) : (UInt8.ofNat n).toNat = n := by
  simp [h]

theorem follow_cons {followers low high value width m : Nat} {rest : Bytes} (hm : m < 64)
    (hlow : low ≤ 0x80 + m) (hhigh : 0x80 + m ≤ high) :
    follow (followers + 1) low high value width (UInt8.ofNat (0x80 + m) :: rest) =
      follow followers 0x80 0xBF (value * 64 + m) (width + 1) rest := by
  have hb : (UInt8.ofNat (0x80 + m)).toNat = 0x80 + m := toNat_ofNat_of_lt (by omega)
  have hbits : (0x80 + m) % 64 = m := by omega
  rw [follow, hb, if_pos ⟨hlow, hhigh⟩, hbits]

theorem piece_of_lead {n payload followers low high : Nat} {rest : Bytes} (hn : n < 256)
    (hl : lead? n = some ⟨payload, followers, low, high⟩) :
    piece (UInt8.ofNat n) rest = follow followers low high payload 1 rest := by
  rw [piece, toNat_ofNat_of_lt hn, hl]

theorem lead_one {n : Nat} (h : n < 0x80) : lead? n = some ⟨n, 0, 0x80, 0xBF⟩ := if_pos h

theorem lead_two {m : Nat} (hlow : 2 ≤ m) (hhigh : m < 32) :
    lead? (0xC0 + m) = some ⟨m, 1, 0x80, 0xBF⟩ := by
  unfold lead?
  rw [if_neg (by omega), if_neg (by omega), if_pos (by omega), Nat.add_sub_cancel_left]

/-- A first byte of three: which second bytes it allows depends on it. -/
theorem lead_three {m : Nat} (h : m < 16) :
    lead? (0xE0 + m) =
      some ⟨m, 2, if m = 0 then 0xA0 else 0x80, if m = 13 then 0x9F else 0xBF⟩ := by
  interval_cases m <;> rfl

theorem lead_four {m : Nat} (h : m < 5) :
    lead? (0xF0 + m) = some ⟨m, 3, if m = 0 then 0x90 else 0x80, if m = 4 then 0x8F else 0xBF⟩ := by
  interval_cases m <;> rfl

theorem piece_encodeChar (c : Char) (rest : Bytes) :
    ∃ b tail, encodeChar c = b :: tail ∧ piece b (tail ++ rest) = .char c rest := by
  have hvalid : c.toNat < 0xD800 ∨ 0xDFFF < c.toNat ∧ c.toNat < 0x110000 := c.valid
  have hback : Char.ofNat c.toNat = c := Char.ofNat_toNat c
  unfold encodeChar
  generalize c.toNat = n at hvalid hback
  subst hback
  simp only
  split
  next h1 =>
    refine ⟨_, _, rfl, ?_⟩
    rw [piece_of_lead (by omega) (lead_one h1)]
    rfl
  next h1 =>
    split
    next h2 =>
      refine ⟨_, _, rfl, ?_⟩
      rw [piece_of_lead (by omega) (lead_two (by omega) (by omega))]
      simp only [List.cons_append, List.nil_append]
      rw [follow_cons (by omega) (by omega) (by omega), follow]
      congr 2
      omega
    next h2 =>
      split
      next h3 =>
        refine ⟨_, _, rfl, ?_⟩
        rw [piece_of_lead (by omega) (lead_three (by omega))]
        simp only [List.cons_append, List.nil_append]
        rw [follow_cons (by omega) (by split <;> omega) (by split <;> omega),
          follow_cons (by omega) (by omega) (by omega), follow]
        congr 2
        omega
      next h3 =>
        refine ⟨_, _, rfl, ?_⟩
        rw [piece_of_lead (by omega) (lead_four (by omega))]
        simp only [List.cons_append, List.nil_append]
        rw [follow_cons (by omega) (by split <;> omega) (by split <;> omega),
          follow_cons (by omega) (by omega) (by omega),
          follow_cons (by omega) (by omega) (by omega), follow]
        congr 2
        omega

theorem follow_eq_char {followers low high value width : Nat} {rest rest' : Bytes} {c : Char}
    (h80 : 0x80 ≤ low) (hBF : high ≤ 0xBF)
    (h : follow (followers + 1) low high value width rest = .char c rest') :
    ∃ m r, m < 64 ∧ low ≤ 0x80 + m ∧ 0x80 + m ≤ high ∧ rest = UInt8.ofNat (0x80 + m) :: r ∧
      follow followers 0x80 0xBF (value * 64 + m) (width + 1) r = .char c rest' := by
  cases rest with
  | nil => simp [follow] at h
  | cons b r =>
    rw [follow] at h
    split at h
    next hb =>
      have hbits : 0x80 + b.toNat % 64 = b.toNat := by omega
      refine ⟨b.toNat % 64, r, by omega, by omega, by omega, ?_, h⟩
      rw [hbits, UInt8.ofNat_toNat]
    next => cases h

theorem follow_zero_eq_char {low high value width : Nat} {rest rest' : Bytes} {c : Char}
    (h : follow 0 low high value width rest = .char c rest') :
    c = Char.ofNat value ∧ rest' = rest := by
  rw [follow] at h
  cases h
  exact ⟨rfl, rfl⟩

theorem encodeChar_ofNat {n : Nat} (h : n < 0xD800 ∨ 0xDFFF < n ∧ n < 0x110000) :
    encodeChar (Char.ofNat n) =
      if n < 0x80 then [UInt8.ofNat n]
      else if n < 0x800 then [UInt8.ofNat (0xC0 + n / 64), UInt8.ofNat (0x80 + n % 64)]
      else if n < 0x10000 then
        [UInt8.ofNat (0xE0 + n / 4096), UInt8.ofNat (0x80 + n / 64 % 64),
          UInt8.ofNat (0x80 + n % 64)]
      else
        [UInt8.ofNat (0xF0 + n / 262144), UInt8.ofNat (0x80 + n / 4096 % 64),
          UInt8.ofNat (0x80 + n / 64 % 64), UInt8.ofNat (0x80 + n % 64)] := by
  have hn : (Char.ofNat n).toNat = n := by
    rw [Char.ofNat, dif_pos h]
    rfl
  rw [encodeChar, hn]

theorem encodeChar_two {m m₁ : Nat} (hlow : 2 ≤ m) (hhigh : m < 32) (h₁ : m₁ < 64) :
    encodeChar (Char.ofNat (m * 64 + m₁)) = [UInt8.ofNat (0xC0 + m), UInt8.ofNat (0x80 + m₁)] := by
  rw [encodeChar_ofNat (by omega), if_neg (by omega), if_pos (by omega)]
  have hfirst : 0xC0 + (m * 64 + m₁) / 64 = 0xC0 + m := by omega
  have hlast : (m * 64 + m₁) % 64 = m₁ := by omega
  rw [hfirst, hlast]

theorem encodeChar_three {m m₁ m₂ : Nat} (hm : m < 16)
    (hlow : (if m = 0 then 0xA0 else 0x80) ≤ 0x80 + m₁)
    (hhigh : 0x80 + m₁ ≤ if m = 13 then 0x9F else 0xBF) (h₂ : m₂ < 64) :
    encodeChar (Char.ofNat ((m * 64 + m₁) * 64 + m₂)) =
      [UInt8.ofNat (0xE0 + m), UInt8.ofNat (0x80 + m₁), UInt8.ofNat (0x80 + m₂)] := by
  have hvalid : (m * 64 + m₁) * 64 + m₂ < 0xD800 ∨
      0xDFFF < (m * 64 + m₁) * 64 + m₂ ∧ (m * 64 + m₁) * 64 + m₂ < 0x110000 := by
    split at hhigh <;> omega
  have hlong : 0x7FF < (m * 64 + m₁) * 64 + m₂ := by
    split at hlow <;> omega
  have h₁ : m₁ < 64 := by
    split at hhigh <;> omega
  rw [encodeChar_ofNat hvalid, if_neg (by omega), if_neg (by omega), if_pos (by omega)]
  have hfirst : 0xE0 + ((m * 64 + m₁) * 64 + m₂) / 4096 = 0xE0 + m := by omega
  have hsecond : ((m * 64 + m₁) * 64 + m₂) / 64 % 64 = m₁ := by omega
  have hlast : ((m * 64 + m₁) * 64 + m₂) % 64 = m₂ := by omega
  rw [hfirst, hsecond, hlast]

theorem encodeChar_four {m m₁ m₂ m₃ : Nat} (hm : m < 5)
    (hlow : (if m = 0 then 0x90 else 0x80) ≤ 0x80 + m₁)
    (hhigh : 0x80 + m₁ ≤ if m = 4 then 0x8F else 0xBF) (h₂ : m₂ < 64) (h₃ : m₃ < 64) :
    encodeChar (Char.ofNat (((m * 64 + m₁) * 64 + m₂) * 64 + m₃)) =
      [UInt8.ofNat (0xF0 + m), UInt8.ofNat (0x80 + m₁), UInt8.ofNat (0x80 + m₂),
        UInt8.ofNat (0x80 + m₃)] := by
  have hlong : 0xFFFF < ((m * 64 + m₁) * 64 + m₂) * 64 + m₃ := by
    split at hlow <;> omega
  have hvalid : ((m * 64 + m₁) * 64 + m₂) * 64 + m₃ < 0x110000 := by
    split at hhigh <;> omega
  have h₁ : m₁ < 64 := by
    split at hhigh <;> omega
  rw [encodeChar_ofNat (by omega), if_neg (by omega), if_neg (by omega), if_neg (by omega)]
  have hfirst : 0xF0 + (((m * 64 + m₁) * 64 + m₂) * 64 + m₃) / 262144 = 0xF0 + m := by omega
  have hsecond : (((m * 64 + m₁) * 64 + m₂) * 64 + m₃) / 4096 % 64 = m₁ := by omega
  have hthird : (((m * 64 + m₁) * 64 + m₂) * 64 + m₃) / 64 % 64 = m₂ := by omega
  have hlast : (((m * 64 + m₁) * 64 + m₂) * 64 + m₃) % 64 = m₃ := by omega
  rw [hfirst, hsecond, hthird, hlast]

/-- What is read as a character is its encoding. -/
theorem eq_encodeChar_of_piece {b : UInt8} {rest rest' : Bytes} {c : Char}
    (h : piece b rest = .char c rest') : b :: rest = encodeChar c ++ rest' := by
  have hb : UInt8.ofNat b.toNat = b := UInt8.ofNat_toNat
  have hlt : b.toNat < 256 := UInt8.toNat_lt b
  generalize b.toNat = n at hb hlt
  subst hb
  by_cases h1 : n < 0x80
  · rw [piece_of_lead hlt (lead_one h1)] at h
    obtain ⟨rfl, rfl⟩ := follow_zero_eq_char h
    rw [encodeChar_ofNat (by omega), if_pos h1]
    rfl
  by_cases h2 : n < 0xC2
  · have hnone : lead? n = none := by
      rw [lead?, if_neg h1, if_pos h2]
    rw [piece, toNat_ofNat_of_lt hlt, hnone] at h
    cases h
  by_cases h3 : n < 0xE0
  · obtain ⟨m, rfl⟩ : ∃ m, n = 0xC0 + m := ⟨n - 0xC0, by omega⟩
    rw [piece_of_lead hlt (lead_two (by omega) (by omega))] at h
    obtain ⟨m₁, r, hm₁, -, -, rfl, hend⟩ := follow_eq_char (by omega) (by omega) h
    obtain ⟨rfl, rfl⟩ := follow_zero_eq_char hend
    rw [encodeChar_two (by omega) (by omega) hm₁]
    rfl
  by_cases h4 : n < 0xF0
  · obtain ⟨m, rfl⟩ : ∃ m, n = 0xE0 + m := ⟨n - 0xE0, by omega⟩
    rw [piece_of_lead hlt (lead_three (by omega))] at h
    obtain ⟨m₁, r, -, hlow, hhigh, rfl, hnext⟩ :=
      follow_eq_char (by split <;> omega) (by split <;> omega) h
    obtain ⟨m₂, r, hm₂, -, -, rfl, hend⟩ := follow_eq_char (by omega) (by omega) hnext
    obtain ⟨rfl, rfl⟩ := follow_zero_eq_char hend
    rw [encodeChar_three (by omega) hlow hhigh hm₂]
    rfl
  by_cases h5 : n < 0xF5
  · obtain ⟨m, rfl⟩ : ∃ m, n = 0xF0 + m := ⟨n - 0xF0, by omega⟩
    rw [piece_of_lead hlt (lead_four (by omega))] at h
    obtain ⟨m₁, r, -, hlow, hhigh, rfl, hnext⟩ :=
      follow_eq_char (by split <;> omega) (by split <;> omega) h
    obtain ⟨m₂, r, hm₂, -, -, rfl, hnext'⟩ := follow_eq_char (by omega) (by omega) hnext
    obtain ⟨m₃, r, hm₃, -, -, rfl, hend⟩ := follow_eq_char (by omega) (by omega) hnext'
    obtain ⟨rfl, rfl⟩ := follow_zero_eq_char hend
    rw [encodeChar_four (by omega) hlow hhigh hm₂ hm₃]
    rfl
  · have hnone : lead? n = none := by
      unfold lead?
      repeat rw [if_neg (by omega)]
    rw [piece, toNat_ofNat_of_lt hlt, hnone] at h
    cases h

theorem encode_cons (c : Char) (t : Text) : encode (c :: t) = encodeChar c ++ encode t := rfl

theorem encode_append (s t : Text) : encode (s ++ t) = encode s ++ encode t := List.flatMap_append

theorem decodeFrom_encode (t : Text) {fuel : Nat} (index : Nat)
    (hfuel : (encode t).length ≤ fuel) : decodeFrom fuel index (encode t) = .ok t := by
  induction t generalizing fuel index with
  | nil => cases fuel <;> rfl
  | cons c t ih =>
    obtain ⟨b, tail, hc, hpiece⟩ := piece_encodeChar c (encode t)
    rw [encode_cons, hc] at hfuel ⊢
    simp only [List.cons_append, List.length_cons, List.length_append] at hfuel
    cases fuel with
    | zero => omega
    | succ fuel =>
      rw [List.cons_append, decodeFrom, hpiece]
      have hrest : decodeFrom fuel (index + c.utf8Size) (encode t) = .ok t :=
        ih (index + c.utf8Size) (by omega)
      simp only [hrest]
      rfl

theorem encode_of_decodeFrom {fuel index : Nat} {bytes : Bytes} {t : Text}
    (hfuel : bytes.length ≤ fuel) (h : decodeFrom fuel index bytes = .ok t) :
    encode t = bytes := by
  induction fuel generalizing index bytes t with
  | zero =>
    obtain rfl : bytes = [] := List.length_eq_zero_iff.mp (by omega)
    rw [decodeFrom] at h
    cases h
    rfl
  | succ fuel ih =>
    cases bytes with
    | nil =>
      rw [decodeFrom] at h
      cases h
      rfl
    | cons b rest =>
      rw [decodeFrom] at h
      cases hpiece : piece b rest with
      | broken width rest' => simp [hpiece] at h
      | cut => simp [hpiece] at h
      | char c rest' =>
        simp only [hpiece] at h
        have heq := eq_encodeChar_of_piece hpiece
        have hlen : rest'.length < (b :: rest).length := by
          rw [heq, List.length_append]
          have := List.length_pos_iff.mpr (encodeChar_ne_nil c)
          omega
        cases hrest : decodeFrom fuel (index + c.utf8Size) rest' with
        | error why => simp [hrest, Except.map] at h
        | ok t' =>
          simp only [hrest, Except.map, Except.ok.injEq] at h
          subst h
          rw [encode_cons, ih (by simp at hfuel hlen; omega) hrest, heq]

theorem decode_encode (t : Text) : decode (encode t) = .ok t := decodeFrom_encode t 0 le_rfl

theorem decode_eq_ok {bytes : Bytes} {t : Text} : decode bytes = .ok t ↔ bytes = encode t := by
  constructor
  · intro h
    exact (encode_of_decodeFrom le_rfl h).symm
  · rintro rfl
    exact decode_encode t

theorem encode_injective : Function.Injective encode := by
  intro s t h
  have hs := decode_encode s
  rw [h, decode_encode] at hs
  cases hs
  rfl

theorem encode_eq_nil {t : Text} : encode t = [] ↔ t = [] :=
  ⟨fun h => encode_injective (h.trans rfl), fun h => h ▸ rfl⟩

theorem decodeLossyFrom_encode (t : Text) {fuel : Nat} (hfuel : (encode t).length ≤ fuel) :
    decodeLossyFrom fuel (encode t) = t := by
  induction t generalizing fuel with
  | nil => cases fuel <;> rfl
  | cons c t ih =>
    obtain ⟨b, tail, hc, hpiece⟩ := piece_encodeChar c (encode t)
    rw [encode_cons, hc] at hfuel ⊢
    simp only [List.cons_append, List.length_cons, List.length_append] at hfuel
    cases fuel with
    | zero => omega
    | succ fuel =>
      rw [List.cons_append, decodeLossyFrom, hpiece]
      have hrest : decodeLossyFrom fuel (encode t) = t := ih (by omega)
      simp only [hrest]

theorem decodeLossy_encode (t : Text) : decodeLossy (encode t) = t :=
  decodeLossyFrom_encode t le_rfl

theorem length_encodeChar (c : Char) : (encodeChar c).length = c.utf8Size := by
  have hval : c.toNat = c.val.toNat := rfl
  simp only [encodeChar, Char.utf8Size, UInt32.le_iff_toNat_le, hval]
  grind

theorem length_encode (t : Text) : (encode t).length = Text.byteSize t := by
  induction t with
  | nil => rfl
  | cons c t ih => 
    rw [encode_cons, List.length_append, length_encodeChar, ih]
    rfl

theorem mem_encodeChar_slash {c : Char} : 0x2F ∈ encodeChar c ↔ c = '/' := by
  have hslash : ∀ n < 256, (0x2F : UInt8) = UInt8.ofNat n ↔ n = 0x2F := by
    intro n hn
    rw [← UInt8.toNat_inj, toNat_ofNat_of_lt hn]
    exact eq_comm
  have hchar : c = '/' ↔ c.toNat = 0x2F := by
    rw [← Char.toNat_inj]
    rfl
  have hvalid : c.toNat < 0x110000 := by
    have : c.toNat < 0xD800 ∨ 0xDFFF < c.toNat ∧ c.toNat < 0x110000 := c.valid
    omega
  rw [hchar, encodeChar]
  generalize c.toNat = n at hvalid
  split_ifs <;> simp only [List.mem_cons, List.not_mem_nil, or_false] <;>
    repeat rw [hslash _ (by omega)]
  all_goals omega

theorem mem_encode_slash {t : Text} : 0x2F ∈ encode t ↔ '/' ∈ t := by
  simp only [encode, List.mem_flatMap, mem_encodeChar_slash]
  constructor
  · rintro ⟨c, hc, rfl⟩
    exact hc
  · intro h
    exact ⟨'/', h, rfl⟩

theorem compare_char (c d : Char) : compare c d = compare c.toNat d.toNat := by
  simp only [compare, compareOfLessAndEq, Char.lt_def, UInt32.lt_iff_toNat_lt, ← Char.toNat_inj]
  rfl

theorem compare_byte (a b : UInt8) : compare a b = compare a.toNat b.toNat := by
  simp only [compare, compareOfLessAndEq, UInt8.lt_iff_toNat_lt, UInt8.toNat_inj]

theorem compare_cons_eq_lt {n m : Nat} (hn : n < 256) (hm : m < 256) {s t : Bytes} :
    compare (UInt8.ofNat n :: s) (UInt8.ofNat m :: t) = .lt ↔
      n < m ∨ n = m ∧ compare s t = .lt := by
  rw [List.compare_cons_cons, compare_byte, toNat_ofNat_of_lt hn, toNat_ofNat_of_lt hm,
    Ordering.then_eq_lt, Nat.compare_eq_lt, Nat.compare_eq_eq]

theorem compare_append_left (b s t : Bytes) : compare (b ++ s) (b ++ t) = compare s t := by
  induction b with
  | nil => rfl
  | cons x b ih =>
    rw [List.cons_append, List.cons_append, List.compare_cons_cons, compare_byte,
      Nat.compare_eq_eq.mpr rfl, ih]
    rfl

/-- The first byte in which two encodings differ is smaller in that of the smaller character. -/
theorem compare_encodeChar {c d : Char} (h : c.toNat < d.toNat) (s t : Bytes) :
    compare (encodeChar c ++ s) (encodeChar d ++ t) = .lt := by
  have hd : d.toNat < 0x110000 := by
    have : d.toNat < 0xD800 ∨ 0xDFFF < d.toNat ∧ d.toNat < 0x110000 := d.valid
    omega
  simp only [encodeChar]
  generalize c.toNat = n at *
  generalize d.toNat = m at *
  split_ifs <;> simp only [List.cons_append, List.nil_append]
  all_goals
    repeat rw [compare_cons_eq_lt (by omega) (by omega)]
    omega

/-- The order of the code points is the order of the bytes. -/
theorem compare_encode (s t : Text) : compare (encode s) (encode t) = compare s t := by
  induction s generalizing t with
  | nil =>
    cases t with
    | nil => rfl
    | cons d t =>
      obtain ⟨b, tail, hd⟩ := List.exists_cons_of_ne_nil (encodeChar_ne_nil d)
      rw [encode_cons, hd]
      rfl
  | cons c s ih =>
    cases t with
    | nil =>
      obtain ⟨b, tail, hc⟩ := List.exists_cons_of_ne_nil (encodeChar_ne_nil c)
      rw [encode_cons, hc]
      rfl
    | cons d t =>
      rw [encode_cons, encode_cons, List.compare_cons_cons, compare_char]
      rcases Nat.lt_trichotomy c.toNat d.toNat with hlt | heq | hgt
      · rw [compare_encodeChar hlt, Nat.compare_eq_lt.mpr hlt]
        rfl
      · obtain rfl : c = d := Char.toNat_inj.mp heq
        rw [compare_append_left, ih, Nat.compare_eq_eq.mpr rfl]
        rfl
      · rw [Std.OrientedCmp.gt_of_lt (compare_encodeChar hgt _ _), Nat.compare_eq_gt.mpr hgt]
        rfl

end GrantFs.Utf8
