import GrantFs.Tool.Arguments

/-! # Where the arguments of a tool come from

A record is read from the members of an object or from the items of a list. Main statement: what a
decoded record holds for a field comes from the member with the name of the field or from the item
at its place; only where neither is given, it is the default. -/
namespace GrantFs

namespace Json

def argument? (name : Text) (place : Nat) : Json → Option Json
  | object members => members.lookup name
  | array items => items[place]?
  | _ => none

theorem lookup_ofMembers (members : List (Text × Json)) (name : Text) :
    (Doc.ofMembers members).lookup name = (members.lookup name).map Doc.ofJson := by
  induction members with
  | nil => rfl
  | cons member rest ih =>
    rw [Doc.ofMembers, List.lookup_cons, List.lookup_cons]
    split
    · rfl
    · exact ih

theorem getElem?_ofItems (items : List Json) (place : Nat) :
    (Doc.ofItems items)[place]? = items[place]?.map Doc.ofJson := by
  induction items generalizing place with
  | nil => simp [Doc.ofItems]
  | cons item rest ih => cases place <;> simp [Doc.ofItems, ih]

namespace Decode

variable {α β : Type}

/-- What `decode` reads is what `get` then finds in the draft. -/
def Field.Sets (f : Field α) (decode : Decoder β) (get : α → β) : Prop :=
  ∀ source d draft draft', f.store source d draft = .ok draft' → decode source d = .ok (get draft')

def Field.Keeps (f : Field α) (get : α → β) : Prop :=
  ∀ source d draft draft', f.store source d draft = .ok draft' → get draft' = get draft

theorem sets_of_set {γ : Type} {name : Text} {decode : Decoder γ} {set : α → γ → α} {get : α → γ}
    {mayLack mayTrail : Bool} (h : ∀ a c, get (set a c) = c) :
    (Field.mk name (fun source d draft => (decode source d).map (set draft)) mayLack mayTrail).Sets
      decode get := by
  intro source d draft draft' hstore
  cases hread : decode source d with
  | error why => simp [hread, Except.map] at hstore
  | ok c =>
    obtain rfl : set draft c = draft' := by simpa [hread, Except.map] using hstore
    rw [h]

theorem keeps_of_set {γ : Type} {name : Text} {decode : Decoder γ} {set : α → γ → α} {get : α → β}
    {mayLack mayTrail : Bool} (h : ∀ a c, get (set a c) = get a) :
    (Field.mk name (fun source d draft => (decode source d).map (set draft)) mayLack mayTrail).Keeps
      get := by
  intro source d draft draft' hstore
  cases hread : decode source d with
  | error why => simp [hread, Except.map] at hstore
  | ok c =>
    obtain rfl : set draft c = draft' := by simpa [hread, Except.map] using hstore
    exact h draft c

structure Record.Part (r : Record α) (before : List (Field α)) (f : Field α)
    (after : List (Field α)) (decode : Decoder β) (get : α → β) : Prop where
  fields : r.fields = before ++ f :: after
  named : ∀ g ∈ before, g.name ≠ f.name
  sets : f.Sets decode get
  keeps : ∀ g ∈ before ++ after, g.Keeps get

variable {r : Record α} {before after : List (Field α)} {f : Field α} {decode : Decoder β}
  {get : α → β} {source : Source} {draft draft' : α}

theorem Record.Part.find?_name (h : r.Part before f after decode get) :
    r.fields.find? (·.name = f.name) = some f := by
  rw [h.fields, List.find?_append, List.find?_eq_none.mpr (by simpa using h.named)]
  simp

theorem Record.Part.keeps_other (h : r.Part before f after decode get) {g : Field α}
    (hg : g ∈ r.fields) (hname : g.name ≠ f.name) : g.Keeps get := by
  refine h.keeps g ?_
  rw [h.fields, List.mem_append, List.mem_cons] at hg
  rcases hg with hbefore | rfl | hafter
  · exact List.mem_append_left _ hbefore
  · exact absurd rfl hname
  · exact List.mem_append_right _ hafter

theorem fillFromMembers_cons {fields : List (Field α)} {seen : List Text} {key : Text} {d : Doc}
    {rest : List (Text × Doc)} {out : List Text × α}
    (h : fillFromMembers fields source seen draft ((key, d) :: rest) = .ok out) :
    (fields.find? (·.name = key) = none ∧ fillFromMembers fields source seen draft rest = .ok out) ∨
      ∃ g draft₁, fields.find? (·.name = key) = some g ∧ key ∉ seen ∧
        g.store source d draft = .ok draft₁ ∧
        fillFromMembers fields source (key :: seen) draft₁ rest = .ok out := by
  rw [fillFromMembers] at h
  cases hfound : fields.find? (·.name = key) with
  | none =>
    cases hskip : d.skip with
    | error why => simp [hfound, hskip, bind, Except.bind] at h
    | ok u => exact .inl ⟨rfl, by simpa [hfound, hskip, bind, Except.bind] using h⟩
  | some g =>
    by_cases hseen : key ∈ seen
    · simp [hfound, hseen] at h
    · cases hstore : g.store source d draft with
      | error why => simp [hfound, hseen, hstore, bind, Except.bind] at h
      | ok draft₁ =>
        refine .inr ⟨g, draft₁, rfl, hseen, hstore, ?_⟩
        simpa [hfound, hseen, hstore, bind, Except.bind] using h

/-- Only the first member with the name of the field is read; a second one would be refused. -/
theorem Record.Part.of_members (h : r.Part before f after decode get) {seen seen' : List Text}
    {members : List (Text × Doc)}
    (hfill : fillFromMembers r.fields source seen draft members = .ok (seen', draft')) :
    (members.lookup f.name = none ∧ get draft' = get draft ∧ (f.name ∈ seen' → f.name ∈ seen)) ∨
      (f.name ∉ seen ∧
        ∃ d, members.lookup f.name = some d ∧ decode source d = .ok (get draft')) := by
  induction members generalizing seen draft with
  | nil =>
    obtain ⟨rfl, rfl⟩ : seen = seen' ∧ draft = draft' := by simpa [fillFromMembers] using hfill
    exact .inl ⟨rfl, rfl, id⟩
  | cons member rest ih =>
    obtain ⟨key, d⟩ := member
    by_cases hkey : f.name = key
    · subst hkey
      rcases fillFromMembers_cons hfill with ⟨hnone, -⟩ | ⟨g, draft₁, hg, hseen, hstore, hrest⟩
      · simp [h.find?_name] at hnone
      · obtain rfl : f = g := by simpa [h.find?_name] using hg
        refine .inr ⟨hseen, d, List.lookup_cons_self, ?_⟩
        rcases ih hrest with ⟨-, hget, -⟩ | ⟨hunseen, -⟩
        · rw [hget]
          exact h.sets source d draft draft₁ hstore
        · exact absurd List.mem_cons_self hunseen
    · rw [List.lookup_cons, beq_eq_false_iff_ne.mpr hkey]
      rcases fillFromMembers_cons hfill with ⟨-, hrest⟩ | ⟨g, draft₁, hg, -, hstore, hrest⟩
      · exact ih hrest
      · have hname : g.name = key := by simpa using List.find?_some hg
        have hkeeps : g.Keeps get :=
          h.keeps_other (List.mem_of_find?_eq_some hg) (hname ▸ Ne.symm hkey)
        simpa [hkey, hkeeps source d draft draft₁ hstore] using ih hrest

theorem fillFromItems_nil {name : Text} {total : Nat} {close : Close} {items : List Doc}
    (h : fillFromItems name total source close ([] : List (Field α)) items draft = .ok draft') :
    draft' = draft := by
  cases items with
  | nil =>
    cases close with
    | closed => simpa [fillFromItems] using h.symm
    | stopped onNext onEnd => simp [fillFromItems] at h
  | cons d rest => cases source <;> simp [fillFromItems] at h

theorem fillFromItems_cons {name : Text} {total : Nat} {close : Close} {fields : List (Field α)}
    {items : List Doc}
    (h : fillFromItems name total source close (f :: fields) items draft = .ok draft') :
    (items = [] ∧ f.mayTrail = true ∧
      fillFromItems name total source close fields [] draft = .ok draft') ∨
      ∃ d rest draft₁, items = d :: rest ∧ f.store source d draft = .ok draft₁ ∧
        fillFromItems name total source close fields rest draft₁ = .ok draft' := by
  cases items with
  | nil =>
    cases close with
    | stopped onNext onEnd => simp [fillFromItems] at h
    | closed =>
      rw [fillFromItems] at h
      cases htrail : f.mayTrail with
      | false => simp [htrail] at h
      | true => exact .inl ⟨rfl, rfl, by simpa [htrail] using h⟩
  | cons d rest =>
    rw [fillFromItems] at h
    cases hstore : f.store source d draft with
    | error why => simp [hstore, bind, Except.bind] at h
    | ok draft₁ =>
      exact .inr ⟨d, rest, draft₁, rfl, hstore, by simpa [hstore, bind, Except.bind] using h⟩

theorem fillFromItems_keeps {name : Text} {total : Nat} {close : Close} {fields : List (Field α)}
    {items : List Doc} (hkeeps : ∀ g ∈ fields, g.Keeps get)
    (h : fillFromItems name total source close fields items draft = .ok draft') :
    get draft' = get draft := by
  induction fields generalizing items draft with
  | nil => rw [fillFromItems_nil h]
  | cons g fields ih =>
    have hrest : ∀ g' ∈ fields, g'.Keeps get := fun g' hg' => hkeeps g' (List.mem_cons_of_mem _ hg')
    rcases fillFromItems_cons h with ⟨-, -, hfill⟩ | ⟨d, rest, draft₁, -, hstore, hfill⟩
    · exact ih hrest hfill
    · exact (ih hrest hfill).trans (hkeeps g List.mem_cons_self source d draft draft₁ hstore)

theorem fillFromItems_sets {name : Text} {total : Nat} {close : Close} {items : List Doc}
    (hkeeps : ∀ g ∈ before ++ after, g.Keeps get) (hsets : f.Sets decode get)
    (h : fillFromItems name total source close (before ++ f :: after) items draft = .ok draft') :
    (items[before.length]? = none ∧ get draft' = get draft ∧ f.mayTrail = true) ∨
      ∃ d, items[before.length]? = some d ∧ decode source d = .ok (get draft') := by
  induction before generalizing items draft with
  | nil =>
    rcases fillFromItems_cons h with ⟨rfl, htrail, hfill⟩ | ⟨d, rest, draft₁, rfl, hstore, hfill⟩
    · exact .inl ⟨rfl, fillFromItems_keeps hkeeps hfill, htrail⟩
    · refine .inr ⟨d, rfl, ?_⟩
      rw [fillFromItems_keeps hkeeps hfill]
      exact hsets source d draft draft₁ hstore
  | cons g before ih =>
    have hrest : ∀ g' ∈ before ++ after, g'.Keeps get :=
      fun g' hg' => hkeeps g' (List.mem_cons_of_mem _ hg')
    rcases fillFromItems_cons h with ⟨rfl, -, hfill⟩ | ⟨d, rest, draft₁, rfl, hstore, hfill⟩
    · simpa using ih hrest hfill
    · have hget : get draft₁ = get draft := hkeeps g List.mem_cons_self source d draft draft₁ hstore
      simpa [hget] using ih hrest hfill

/-- A record that is read from the members of a value lacks no field but those that it may lack. -/
theorem record_of_members {members : List (Text × Doc)} {onSkip : Option Malformed}
    {variant : VariantName} {a : α}
    (h : record r source (.object members none false onSkip variant) = .ok a) :
    ∃ seen, fillFromMembers r.fields source [] r.blank members = .ok (seen, a) ∧
      ∀ f ∈ r.fields, f.mayLack = false → f.name ∈ seen := by
  cases hfill : fillFromMembers r.fields source [] r.blank members with
  | error why => simp [record, hfill, bind, Except.bind] at h
  | ok out =>
    obtain ⟨seen, draft⟩ := out
    simp only [record, hfill, bind, Except.bind, Bool.false_eq_true, if_false] at h
    split at h
    next => cases h
    next hlacking =>
      obtain rfl : draft = a := Except.ok.inj h
      refine ⟨seen, rfl, fun f hf => ?_⟩
      simpa using List.find?_eq_none.mp hlacking f hf

theorem record_of_items {items : List Doc} {close : Close} {onSkip : Option Malformed} {a : α}
    (h : record r source (.array items close false onSkip) = .ok a) :
    fillFromItems r.name r.fields.length source close r.fields items r.blank = .ok a := by
  simpa [record, bind, Except.bind] using h

/-- What a decoded record holds for the field is read from the argument of the field; if there is
none, the field may be absent and the record holds the default. -/
theorem Record.Part.of_value (h : r.Part before f after decode get) {j : Json} {a : α}
    (hread : decodeValue (record r) j = .ok a) :
    (j.argument? f.name before.length = none ∧ get a = get r.blank ∧
      (f.mayLack = true ∨ f.mayTrail = true)) ∨
      ∃ j', j.argument? f.name before.length = some j' ∧
        decode .value (Doc.ofJson j') = .ok (get a) := by
  have hrecord : record r .value (Doc.ofJson j) = .ok a := by
    cases hdecoded : record r .value (Doc.ofJson j) with
    | error why =>
      simp [decodeValue, Document.decode, Document.ofJson, hdecoded, bind, Except.bind] at hread
    | ok a' =>
      simpa [decodeValue, Document.decode, Document.ofJson, hdecoded, bind, Except.bind, pure,
        Except.pure] using hread
  cases j with
  | object members =>
    obtain ⟨seen, hfill, hlacks⟩ := record_of_members hrecord
    have hf : f ∈ r.fields := by simp [h.fields]
    rcases h.of_members hfill with ⟨hnone, hget, hseen⟩ | ⟨-, d, hd, hdecode⟩
    · rw [lookup_ofMembers, Option.map_eq_none_iff] at hnone
      have hlack : f.mayLack ≠ false := fun hlack => List.not_mem_nil (hseen (hlacks f hf hlack))
      exact .inl ⟨hnone, hget, .inl (eq_true_of_ne_false hlack)⟩
    · rw [lookup_ofMembers, Option.map_eq_some_iff] at hd
      obtain ⟨j', hj', rfl⟩ := hd
      exact .inr ⟨j', hj', hdecode⟩
  | array items =>
    have hfill := record_of_items hrecord
    rw [h.fields] at hfill
    rcases fillFromItems_sets h.keeps h.sets hfill with ⟨hnone, hget, htrail⟩ | ⟨d, hd, hdecode⟩
    · rw [getElem?_ofItems, Option.map_eq_none_iff] at hnone
      exact .inl ⟨hnone, hget, .inr htrail⟩
    · rw [getElem?_ofItems, Option.map_eq_some_iff] at hd
      obtain ⟨j', hj', rfl⟩ := hd
      exact .inr ⟨j', hj', hdecode⟩
  | _ => cases hrecord

theorem text_of_string {j : Json} {t : Text} (h : string source (Doc.ofJson j) = .ok t) :
    j = .text t := by
  cases j with
  | text t' =>
    obtain rfl : t' = t := Except.ok.inj h
    rfl
  | _ => cases h

theorem bool_of_flag {j : Json} {b : Bool} (h : flag source (Doc.ofJson j) = .ok b) :
    j = .bool b := by
  cases j with
  | bool b' =>
    obtain rfl : b' = b := Except.ok.inj h
    rfl
  | _ => cases h

end Decode
end Json

namespace Tool

open Json.Decode

variable {α β : Type} {r : Record α} {before after : List (Json.Decode.Field α)}
  {f : Json.Decode.Field α} {decode : Json.Decoder β} {args : Json}

theorem argument_of_readArgs (before : List (Json.Decode.Field α)) (get : α → β) {a : α}
    (h : readArgs (record r) args = .ok a) (hpart : r.Part before f after decode get) :
    (args.argument? f.name before.length = none ∧ get a = get r.blank ∧
      (f.mayLack = true ∨ f.mayTrail = true)) ∨
      ∃ j, args.argument? f.name before.length = some j ∧
        decode .value (Json.Doc.ofJson j) = .ok (get a) := by
  simp only [readArgs] at h
  split at h
  next a' hdecode =>
    obtain rfl : a' = a := Except.ok.inj h
    cases args with
    | null =>
      have hvalue := hpart.of_value hdecode
      exact hvalue
    | _ => exact hpart.of_value hdecode
  next => cases h

theorem text_argument (before : List (Json.Decode.Field α)) (get : α → Text) {a : α}
    (h : readArgs (record r) args = .ok a) (hpart : r.Part before f after string get)
    (hlack : f.mayLack = false) (htrail : f.mayTrail = false) :
    args.argument? f.name before.length = some (.text (get a)) := by
  rcases argument_of_readArgs before get h hpart with ⟨-, -, hmay⟩ | ⟨j, hj, hdecode⟩
  · simp [hlack, htrail] at hmay
  · rw [hj, text_of_string hdecode]

theorem path_of_writeFileArgs {a : WriteFileArgs} (h : readArgs writeFileArgs args = .ok a) :
    args.argument? "path" 0 = some (.text a.path) :=
  text_argument [] WriteFileArgs.path h
    ⟨rfl, by simp, sets_of_set fun _ _ => rfl,
      List.forall_mem_singleton.mpr (keeps_of_set fun _ _ => rfl)⟩ rfl rfl

theorem path_of_pathArgs {path : Text} (h : readArgs pathArgs args = .ok path) :
    args.argument? "path" 0 = some (.text path) :=
  text_argument [] id h ⟨rfl, by simp, sets_of_set fun _ _ => rfl, by simp⟩ rfl rfl

theorem path_of_editFileArgs {a : EditFileArgs} (h : readArgs editFileArgs args = .ok a) :
    args.argument? "path" 0 = some (.text a.path) :=
  text_argument [] EditFileArgs.path h
    ⟨rfl, by simp, sets_of_set fun _ _ => rfl, List.forall_mem_cons.mpr
      ⟨keeps_of_set fun _ _ => rfl, List.forall_mem_singleton.mpr (keeps_of_set fun _ _ => rfl)⟩⟩
    rfl rfl

theorem dryRun_of_editFileArgs {a : EditFileArgs} (h : readArgs editFileArgs args = .ok a) :
    (args.argument? "dry_run" 2 = none ∧ a.dryRun = false) ∨
      args.argument? "dry_run" 2 = some (.bool a.dryRun) := by
  have hpart := argument_of_readArgs
    [required "path" string fun a path => { a with path },
      required "edits" (list Edit.decoder) fun a edits => { a with edits }]
    EditFileArgs.dryRun h
    ⟨rfl, by decide, sets_of_set fun _ _ => rfl, List.forall_mem_cons.mpr
      ⟨keeps_of_set fun _ _ => rfl, List.forall_mem_singleton.mpr (keeps_of_set fun _ _ => rfl)⟩⟩
  rcases hpart with ⟨hnone, hblank, -⟩ | ⟨j, hj, hdecode⟩
  · exact .inl ⟨hnone, hblank⟩
  · refine .inr (hj.trans ?_)
    rw [bool_of_flag hdecode]

end Tool
end GrantFs
