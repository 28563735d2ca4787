import GrantFs.Text.Quoted

/-! # Logical paths

A logical path is absolute, holds no control character and none of the forbidden sequences; it
never names a location of the operating system. The check lists its reasons in a fixed order and
the first one found is the one reported.
-/
namespace GrantFs

inductive PathFlaw where
  | notAbsolute
  | controlCharacter
  | forbidden (sequence : Text)
  | namesDirectory
  | symbolicLink
  | outsideRoot
  /-- A reason that is given in words. -/
  | stated (reason : Text)
deriving DecidableEq, Repr

def PathFlaw.message : PathFlaw → Text
  | .notAbsolute => "must be absolute"
  | .controlCharacter => "contains control characters"
  | .forbidden sequence => "contains forbidden sequence " ++ Text.quoted sequence
  | .namesDirectory => "names a directory"
  | .symbolicLink => "traverses a symbolic link"
  | .outsideRoot => "escapes its namespace root"
  | .stated reason => reason

namespace Path

/-- Sequences that never occur in a path, in the order in which they are looked for. -/
def forbidden : List Text := ["..", "*", "?", "\\", "//"]

def isControl (c : Char) : Bool := c.toNat < 0x20

def flaw? (t : Text) : Option PathFlaw :=
  if t.head? ≠ some '/' then some .notAbsolute
  else if t.any isControl then some .controlCharacter
  else (forbidden.find? fun word => Text.occurs word t).map .forbidden

end Path

structure Path where
  text : Text
  sound : Path.flaw? text = none
deriving DecidableEq

namespace Path

theorem ext_text {p q : Path} (h : p.text = q.text) : p = q := by
  cases p; cases q; simp_all

instance : Repr Path := ⟨fun p _ => Text.quoted p.text |> String.ofList |> Std.Format.text⟩

instance : Ord Path := ⟨fun p q => compare p.text q.text⟩

instance : Std.TransOrd Path where
  eq_swap := by intro a b; exact @Std.OrientedCmp.eq_swap _ (compare (α := Text)) _ _ _
  isLE_trans := by intro a b c; exact @Std.TransCmp.isLE_trans _ (compare (α := Text)) _ _ _ _

instance : Std.LawfulEqOrd Path where
  compare_self := by intro a; exact @Std.ReflCmp.compare_self _ (compare (α := Text)) _ _
  eq_of_compare := by
    intro a b h
    exact ext_text (@Std.LawfulEqCmp.eq_of_compare _ (compare (α := Text)) _ _ _ h)

def ofText (t : Text) : Except PathFlaw Path :=
  match h : flaw? t with
  | none => .ok ⟨t, h⟩
  | some flaw => .error flaw

/-- Plain prefix test on the text, as grants use it. -/
def startsWith (p : Path) (start : Text) : Bool := start.isPrefixOf p.text

def isDirLike (p : Path) : Bool := p.text.getLast? = some '/'

/-- The part behind the last slash; empty for a path that ends in one. -/
def name (p : Path) : Text := (p.text.reverse.takeWhile (· ≠ '/')).reverse

theorem flaw?_eq_none_iff {t : Text} :
    flaw? t = none ↔
      t.head? = some '/' ∧ (∀ c ∈ t, isControl c = false) ∧ ∀ word ∈ forbidden, ¬ word <:+: t := by
  unfold flaw?
  split
  · simp_all
  · split
    next h =>
      obtain ⟨c, hc, hbad⟩ := List.any_eq_true.1 h
      simp only [reduceCtorEq, false_iff, not_and]
      intro _ plain
      simp [plain c hc] at hbad
    · simp_all [← Text.occurs_iff_infix]

theorem slash_of_forbidden {word a b : Text} (hword : word ∈ forbidden) (h : word = a ++ b)
    (ha : a ≠ []) (hb : b.head? = some '/') : a.getLast? = some '/' := by
  obtain ⟨c, a, rfl⟩ := List.exists_cons_of_ne_nil ha
  subst h
  simp only [forbidden, List.mem_cons, List.not_mem_nil, or_false] at hword
  rcases a with _ | ⟨d, a⟩ <;> rcases b with _ | ⟨e, b⟩ <;> simp_all

/-- A sound text goes on soundly, if it does not end in a slash where the other begins with one. -/
theorem flaw?_append {s t : Text} (hs : flaw? s = none) (ht : flaw? t = none)
    (unclosed : s.getLast? ≠ some '/') : flaw? (s ++ t) = none := by
  rw [flaw?_eq_none_iff] at hs ht ⊢
  obtain ⟨absolute, plain, free⟩ := hs
  obtain ⟨absolute', plain', free'⟩ := ht
  refine ⟨by cases s <;> simp_all, fun c hc => ?_, fun word hword hin => ?_⟩
  · exact (List.mem_append.1 hc).elim (plain c) (plain' c)
  · obtain h | h | ⟨a, b, hsplit, hends, hbegins, ha, hb⟩ := Text.infix_append_cases hin
    · exact free word hword h
    · exact free' word hword h
    · have hhead : b.head? = some '/' := by
        obtain ⟨c, b, rfl⟩ := List.exists_cons_of_ne_nil hb
        obtain ⟨rest, rfl⟩ := hbegins
        exact absolute'
      have hlast : a.getLast? = some '/' := slash_of_forbidden hword hsplit ha hhead
      obtain ⟨before, rfl⟩ := hends
      exact unclosed (by rw [List.getLast?_append, hlast, Option.some_or])

theorem flaw?_append_slash {t : Text} (sound : flaw? t = none) (unclosed : t.getLast? ≠ some '/') :
    flaw? (t ++ ['/']) = none :=
  flaw?_append sound (by decide) unclosed

def asDir (p : Path) : Path :=
  if h : p.text.getLast? = some '/' then p
  else ⟨p.text ++ ['/'], flaw?_append_slash p.sound h⟩

end Path
end GrantFs
