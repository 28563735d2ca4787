import GrantFs.Json.Decode
import Mathlib.Data.List.Nodup

/-! # What decoders make of a value

A decoder meets a document, from text or from a value, whose parts are in order as far as the
document holds a value at all. Main statements: a record whose members fill its fields one after the
other is decoded to what they fill it with, whatever document holds them, and a tagged union is
taken apart into its variant and its content. -/
namespace GrantFs.Json

mutual

theorem Decode.anyValue_ofJson (j : Json) : anyValue (Doc.ofJson j) = .ok j := by
  match j with
  | .null | .bool _ | .number _ | .text _ => rfl
  | .array items =>
    rw [Doc.ofJson, anyValue]
    simp [anyItems_ofItems items, Close.finish, bind, Except.bind, pure, Except.pure]
  | .object members =>
    rw [Doc.ofJson, anyValue]
    simp [anyMembers_ofMembers members, bind, Except.bind, pure, Except.pure]

theorem Decode.anyItems_ofItems (items : List Json) : anyItems (Doc.ofItems items) = .ok items := by
  match items with
  | [] => rfl
  | j :: rest =>
    rw [Doc.ofItems, anyItems, Decode.anyValue_ofJson j, Decode.anyItems_ofItems rest]
    rfl

theorem Decode.anyMembers_ofMembers (members : List (Text × Json)) :
    anyMembers (Doc.ofMembers members) = .ok members := by
  match members with
  | [] => rfl
  | (key, j) :: rest =>
    rw [Doc.ofMembers, anyMembers, Decode.anyValue_ofJson j, Decode.anyMembers_ofMembers rest]
    rfl

end

namespace Decode

inductive Holds : Doc → Json → Prop where
  | null : Holds .null .null
  | bool (b) : Holds (.bool b) (.bool b)
  | number (n) : Holds (.number n) (.number n)
  | text (t) : Holds (.text t) (.text t)
  | array {ds items onSkip} (h : anyItems ds = .ok items) :
      Holds (.array ds .closed false onSkip) (.array items)
  | object {ms members onSkip named} (h : anyMembers ms = .ok members) :
      Holds (.object ms none false onSkip named) (.object members)

theorem holds_of_anyValue {d : Doc} {j : Json} (h : anyValue d = .ok j) : Holds d j := by
  cases d with
  | null | bool | number | text =>
    cases h
    constructor
  | flawed => cases h
  | array ds close deep onSkip =>
    cases deep
    · cases hitems : anyItems ds with
      | error why => simp [anyValue, hitems, bind, Except.bind] at h
      | ok items =>
        cases close with
        | closed =>
          obtain rfl : Json.array items = j := by
            simpa [anyValue, hitems, Close.finish, bind, Except.bind, pure, Except.pure] using h
          exact .array hitems
        | stopped => simp [anyValue, hitems, Close.finish, bind, Except.bind] at h
    · cases h
  | object ms close deep onSkip named =>
    cases deep
    · cases hmembers : anyMembers ms with
      | error why => simp [anyValue, hmembers, bind, Except.bind] at h
      | ok members =>
        cases close with
        | none =>
          obtain rfl : Json.object members = j := by
            simpa [anyValue, hmembers, bind, Except.bind, pure, Except.pure] using h
          exact .object hmembers
        | some why => simp [anyValue, hmembers, bind, Except.bind] at h
    · cases h

theorem anyItems_nil {ds : List Doc} (h : anyItems ds = .ok []) : ds = [] := by
  cases ds with
  | nil => rfl
  | cons d rest =>
    cases hd : anyValue d <;> cases hrest : anyItems rest <;>
      simp [anyItems, hd, hrest, bind, Except.bind, pure, Except.pure] at h

theorem anyItems_cons {ds : List Doc} {j : Json} {items : List Json}
    (h : anyItems ds = .ok (j :: items)) :
    ∃ d rest, ds = d :: rest ∧ anyValue d = .ok j ∧ anyItems rest = .ok items := by
  cases ds with
  | nil => cases h
  | cons d rest =>
    cases hd : anyValue d <;> cases hrest : anyItems rest <;>
      simp [anyItems, hd, hrest, bind, Except.bind, pure, Except.pure] at h
    obtain ⟨rfl, rfl⟩ := h
    exact ⟨d, rest, rfl, hd, hrest⟩

theorem anyMembers_nil {ms : List (Text × Doc)} (h : anyMembers ms = .ok []) : ms = [] := by
  cases ms with
  | nil => rfl
  | cons m rest =>
    obtain ⟨key, d⟩ := m
    cases hd : anyValue d <;> cases hrest : anyMembers rest <;>
      simp [anyMembers, hd, hrest, bind, Except.bind, pure, Except.pure] at h

theorem anyMembers_cons {ms : List (Text × Doc)} {key : Text} {j : Json}
    {members : List (Text × Json)} (h : anyMembers ms = .ok ((key, j) :: members)) :
    ∃ d rest, ms = (key, d) :: rest ∧ anyValue d = .ok j ∧ anyMembers rest = .ok members := by
  cases ms with
  | nil => cases h
  | cons m rest =>
    obtain ⟨key', d⟩ := m
    cases hd : anyValue d <;> cases hrest : anyMembers rest <;>
      simp [anyMembers, hd, hrest, bind, Except.bind, pure, Except.pure] at h
    obtain ⟨⟨rfl, rfl⟩, rfl⟩ := h
    exact ⟨d, rest, rfl, hd, hrest⟩

mutual

theorem height_of_anyValue {j : Json} {d : Doc} (h : anyValue d = .ok j) :
    d.height = (Doc.ofJson j).height := by
  match j with
  | .null | .bool _ | .number _ | .text _ =>
    cases holds_of_anyValue h
    rfl
  | .array items =>
    cases holds_of_anyValue h with
    | array hds => rw [Doc.ofJson, Doc.height, Doc.height, itemsHeight_of_anyItems hds]
  | .object members =>
    cases holds_of_anyValue h with
    | object hms => rw [Doc.ofJson, Doc.height, Doc.height, membersHeight_of_anyMembers hms]

theorem itemsHeight_of_anyItems {items : List Json} {ds : List Doc}
    (h : anyItems ds = .ok items) : Doc.itemsHeight ds = Doc.itemsHeight (Doc.ofItems items) := by
  match items with
  | [] => rw [anyItems_nil h, Doc.ofItems]
  | j :: items =>
    obtain ⟨d, rest, rfl, hd, hrest⟩ := anyItems_cons h
    rw [Doc.ofItems, Doc.itemsHeight, Doc.itemsHeight, height_of_anyValue hd,
      itemsHeight_of_anyItems hrest]

theorem membersHeight_of_anyMembers {members : List (Text × Json)} {ms : List (Text × Doc)}
    (h : anyMembers ms = .ok members) :
    Doc.membersHeight ms = Doc.membersHeight (Doc.ofMembers members) := by
  match members with
  | [] => rw [anyMembers_nil h, Doc.ofMembers]
  | (key, j) :: members =>
    obtain ⟨d, rest, rfl, hd, hrest⟩ := anyMembers_cons h
    rw [Doc.ofMembers, Doc.membersHeight, Doc.membersHeight, height_of_anyValue hd,
      membersHeight_of_anyMembers hrest]

end

theorem height_le_of_mem {j : Json} {items : List Json} (h : j ∈ items) :
    (Doc.ofJson j).height ≤ Doc.itemsHeight (Doc.ofItems items) := by
  induction items with
  | nil => cases h
  | cons i items ih =>
    rw [Doc.ofItems, Doc.itemsHeight]
    obtain rfl | h := List.mem_cons.mp h
    · exact Nat.le_max_left ..
    · exact Nat.le_trans (ih h) (Nat.le_max_right ..)

variable {α β : Type}

/-- Whatever document holds the value `j`, the decoder makes `a` of it. -/
def Decodes (decode : Decoder α) (j : Json) (a : α) : Prop :=
  ∀ source d, anyValue d = .ok j → decode source d = .ok a

variable {decode : Decoder β} {j : Json} {b : β}

theorem decodes_string (t : Text) : Decodes string (.text t) t := by
  intro source d h
  cases holds_of_anyValue h
  rfl

theorem decodes_location (t : Text) : Decodes location (.text t) t := by
  intro source d h
  cases holds_of_anyValue h
  rfl

theorem decodes_flag (b : Bool) : Decodes flag (.bool b) b := by
  intro source d h
  cases holds_of_anyValue h
  rfl

theorem decodes_word (expected : Text) (n : Nat) :
    Decodes (word expected) (.number (.natural n)) n := by
  intro source d h
  cases holds_of_anyValue h
  rfl

theorem decodes_none (decode : Decoder β) : Decodes (optional decode) .null none := by
  intro source d h
  cases holds_of_anyValue h
  rfl

theorem decodes_some (h : Decodes decode j b) (hj : j ≠ .null) :
    Decodes (optional decode) j (some b) := by
  intro source d hd
  have hnull : d ≠ .null := by
    rintro rfl
    cases hd
    exact hj rfl
  have hread : optional decode source d = (decode source d).map some := by
    cases d with
    | null => contradiction
    | _ => rfl
  rw [hread, h source d hd]
  rfl

theorem decodes_ofText? (t : Option Text) : Decodes (optional location) (ofText? t) t := by
  cases t with
  | none => exact decodes_none _
  | some t => exact decodes_some (decodes_location t) (by rintro ⟨⟩)

theorem decodes_ofNat? (expected : Text) (n : Option Nat) :
    Decodes (optional (word expected)) (ofNat? n) n := by
  cases n with
  | none => exact decodes_none _
  | some n => exact decodes_some (decodes_word expected n) (by rintro ⟨⟩)

theorem decodes_variant {variants : List (Text × β)} {name : Text}
    (h : variants.lookup name = some b) : Decodes (variant variants) (.text name) b := by
  intro source d hd
  cases holds_of_anyValue hd
  rw [variant, choose, h]

theorem decodes_list {encode : β → Json} {bs : List β}
    (h : ∀ b ∈ bs, Decodes decode (encode b) b) :
    Decodes (list decode) (.array (bs.map encode)) bs := by
  have hitems : ∀ source ds, anyItems ds = .ok (bs.map encode) →
      ds.mapM (decode source) = .ok bs := by
    intro source
    induction bs with
    | nil =>
      intro ds hds
      rw [anyItems_nil hds]
      rfl
    | cons b bs ih =>
      intro ds hds
      obtain ⟨d, rest, rfl, hd, hrest⟩ := anyItems_cons hds
      have hfirst := h b List.mem_cons_self source d hd
      have hothers := ih (fun b hb => h b (List.mem_cons_of_mem _ hb)) rest hrest
      simp [hfirst, hothers, bind, Except.bind, pure, Except.pure]
  intro source d hd
  cases holds_of_anyValue hd with
  | array hds =>
    simp [list, hitems source _ hds, Close.finish, bind, Except.bind, pure, Except.pure]

/-- Whatever document holds the value `j`, the field makes of the draft what `draft'` is. -/
def Field.Stores (f : Field α) (j : Json) (draft draft' : α) : Prop :=
  ∀ source d, anyValue d = .ok j → f.store source d draft = .ok draft'

theorem stores_of_decodes {name : Text} {set : α → β → α} {mayLack mayTrail : Bool} {draft : α}
    (h : Decodes decode j b) :
    (Field.mk name (fun source d draft => (decode source d).map (set draft)) mayLack
      mayTrail).Stores j draft (set draft b) := by
  intro source d hd
  show (decode source d).map (set draft) = _
  rw [h source d hd]
  rfl

/-- The members fill the fields in their order; a field without a member may be lacking and leaves
the draft as it is. -/
inductive Fills : (fields : List (Field α)) → (members : List (Text × Json)) → (draft filled : α) →
    Prop where
  | done {draft} : Fills [] [] draft draft
  | field {f fields j members draft draft' filled} (h : f.Stores j draft draft')
      (others : Fills fields members draft' filled) :
      Fills (f :: fields) ((f.name, j) :: members) draft filled
  | lack {f fields members draft filled} (h : f.mayLack = true)
      (others : Fills fields members draft filled) : Fills (f :: fields) members draft filled

theorem Fills.set {name : Text} {set : α → β → α} {mayLack mayTrail : Bool}
    {fields : List (Field α)} {members : List (Text × Json)} {draft filled : α}
    (h : Decodes decode j b) (others : Fills fields members (set draft b) filled) :
    Fills
      (⟨name, fun source d draft => (decode source d).map (set draft), mayLack, mayTrail⟩ :: fields)
      ((name, j) :: members) draft filled :=
  .field (stores_of_decodes h) others

theorem name_not_mem_before {before after : List (Field α)} {f : Field α}
    (h : ((before ++ f :: after).map (·.name)).Nodup) : f.name ∉ before.map (·.name) := by
  rw [List.map_append, List.map_cons, List.nodup_middle, List.nodup_cons] at h
  exact fun hmem => h.1 (List.mem_append_left _ hmem)

theorem find?_name_of_nodup {before after : List (Field α)} {f : Field α}
    (h : ((before ++ f :: after).map (·.name)).Nodup) :
    (before ++ f :: after).find? (·.name = f.name) = some f := by
  have hbefore : before.find? (·.name = f.name) = none := by
    rw [List.find?_eq_none]
    intro g hg heq
    exact name_not_mem_before h (List.mem_map.mpr ⟨g, hg, by simpa using heq⟩)
  rw [List.find?_append, hbefore]
  simp

variable {r : Record α} {source : Source} {draft filled : α}

/-- Members that fill the fields from some field on are put into the draft, where only fields before
it have been met. -/
theorem fillFromMembers_of_fills {before after : List (Field α)} {members : List (Text × Json)}
    {ms : List (Text × Doc)} {seen : List Text}
    (hnodup : ((before ++ after).map (·.name)).Nodup) (hseen : seen ⊆ before.map (·.name))
    (h : Fills after members draft filled) (hms : anyMembers ms = .ok members) :
    ∃ seen', fillFromMembers (before ++ after) source seen draft ms = .ok (seen', filled) ∧
      seen ⊆ seen' ∧ ∀ f ∈ after, f.mayLack = false → f.name ∈ seen' := by
  induction h generalizing before ms seen with
  | done =>
    rw [anyMembers_nil hms]
    exact ⟨seen, rfl, List.Subset.refl _, by simp⟩
  | @field f fields j members draft draft' filled hstore others ih =>
    obtain ⟨d, rest, rfl, hd, hrest⟩ := anyMembers_cons hms
    have hfound := find?_name_of_nodup hnodup
    have hnew : f.name ∉ seen := fun hmem => name_not_mem_before hnodup (hseen hmem)
    have happend : before ++ f :: fields = (before ++ [f]) ++ fields := by simp
    have hseen' : f.name :: seen ⊆ (before ++ [f]).map (·.name) := by
      intro name hname
      obtain rfl | hname := List.mem_cons.mp hname
      · simp
      · simpa using .inl (List.mem_map.mp (hseen hname))
    rw [happend] at hnodup hfound ⊢
    obtain ⟨seen', hfill, hkept, hmet⟩ := ih hnodup hseen' hrest
    refine ⟨seen', ?_, fun name hname => hkept (List.mem_cons_of_mem _ hname), ?_⟩
    · rw [fillFromMembers, hfound]
      simpa [hnew, hstore source d hd, bind, Except.bind] using hfill
    · rintro g hg hlack
      obtain rfl | hg := List.mem_cons.mp hg
      · exact hkept List.mem_cons_self
      · exact hmet g hg hlack
  | @lack f fields members draft filled hlack others ih =>
    have happend : before ++ f :: fields = (before ++ [f]) ++ fields := by simp
    rw [happend] at hnodup ⊢
    have hseen' : seen ⊆ (before ++ [f]).map (·.name) := by
      intro name hname
      simpa using .inl (List.mem_map.mp (hseen hname))
    obtain ⟨seen', hfill, hkept, hmet⟩ := ih hnodup hseen' hms
    refine ⟨seen', hfill, hkept, ?_⟩
    rintro g hg hlack'
    obtain rfl | hg := List.mem_cons.mp hg
    · rw [hlack] at hlack'
      cases hlack'
    · exact hmet g hg hlack'

theorem decodes_record {members : List (Text × Json)} (hnodup : (r.fields.map (·.name)).Nodup)
    (h : Fills r.fields members r.blank filled) : Decodes (record r) (.object members) filled := by
  intro source d hd
  cases holds_of_anyValue hd with
  | object hms =>
    have hstart : ((([] : List (Field α)) ++ r.fields).map (·.name)).Nodup := hnodup
    obtain ⟨seen, hfill, -, hmet⟩ :=
      fillFromMembers_of_fills hstart (List.nil_subset _) h hms
    have hall : r.fields.find? (fun f => !f.mayLack && !decide (f.name ∈ seen)) = none := by
      rw [List.find?_eq_none]
      intro f hf
      cases hlack : f.mayLack with
      | true => simp
      | false => simp [hmet f hf hlack]
    change fillFromMembers r.fields source [] r.blank _ = _ at hfill
    simp [record, hfill, hall, bind, Except.bind, pure, Except.pure]

theorem gatherMembers_of_untagged {tag : Text} {variants : List (Text × β)} {chosen : Option β}
    {members : List (Text × Json)} {ms : List (Text × Doc)}
    (htag : tag ∉ members.map (·.1)) (h : anyMembers ms = .ok members) :
    gatherMembers tag variants source chosen ms = .ok (chosen, members) := by
  induction members generalizing ms with
  | nil =>
    rw [anyMembers_nil h]
    rfl
  | cons member members ih =>
    obtain ⟨key, j⟩ := member
    obtain ⟨d, rest, rfl, hd, hrest⟩ := anyMembers_cons h
    rw [List.map_cons, List.mem_cons, not_or] at htag
    rw [gatherMembers.eq_def]
    simp only [if_neg (Ne.symm htag.1)]
    simp [hd, ih htag.2 hrest, bind, Except.bind, pure, Except.pure]

theorem decodes_tagged {union tag name : Text} {variants : List (Text × β)}
    {members : List (Text × Json)} (hname : variants.lookup name = some b)
    (htag : tag ∉ members.map (·.1)) :
    Decodes (tagged union tag variants) (.object ((tag, .text name) :: members))
      (b, .object members) := by
  intro source d hd
  cases holds_of_anyValue hd with
  | object hms =>
    obtain ⟨d, rest, rfl, hd, hrest⟩ := anyMembers_cons hms
    cases holds_of_anyValue hd
    have hgather : gatherMembers tag variants source none ((tag, .text name) :: rest) =
        .ok (some b, members) := by
      rw [gatherMembers, if_pos rfl]
      simp [variantTag, choose, hname, gatherMembers_of_untagged htag hrest, bind, Except.bind]
    simp [tagged, hgather, bind, Except.bind, pure, Except.pure]

end Decode
end GrantFs.Json
