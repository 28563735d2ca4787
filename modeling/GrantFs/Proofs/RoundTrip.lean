import GrantFs.Directory.Tree
import GrantFs.Proofs.Decoding
import GrantFs.Proofs.JsonText
import GrantFs.Proofs.OsShown
import GrantFs.Settings

/-! # Settings and trees in their JSON forms

Main statement: settings that are written to a file are loaded from it, or refused as their check
refuses them, and a tree is read back from its JSON form, however deep it is. -/
namespace GrantFs

open Json Json.Decode

namespace Json

variable {α : Type} {decode : Decoder α} {a : α}

theorem decodeValue_of_decodes {j : Json} (h : Decodes decode j a) :
    decodeValue decode j = .ok a := by
  rw [decodeValue, Document.decode, h _ (Document.ofJson j).root (anyValue_ofJson j)]
  rfl

theorem decodeText_of_decodes {j : Json} {t : Text} (h : Decodes decode j a)
    (ht : parse t = .ok j) : decodeText decode t = .ok a := by
  rw [parse, decodeText, Document.decode] at ht
  cases hvalue : anyValue (Document.ofText t).root with
  | error why =>
    rw [hvalue] at ht
    cases ht
  | ok value =>
    rw [hvalue] at ht
    cases htrailing : (Document.ofText t).trailing with
    | true =>
      simp [htrailing, bind, Except.bind] at ht
    | false =>
      obtain rfl : value = j := by
        simpa [htrailing, bind, Except.bind, pure, Except.pure] using ht
      rw [decodeText, Document.decode, h _ _ hvalue, htrailing]
      rfl

end Json

theorem DiskConfig.decodes (c : DiskConfig) : Decodes decoder c.toJson c :=
  decodes_record (by decide) <|
    .set (decodes_location _) <|
    .set (decodes_ofText? _) <|
    .set (decodes_ofText? _) <|
    .set (decodes_ofText? _) <|
    .set (decodes_flag _) .done

theorem Policy.decodes (p : Policy) : Decodes decoder p.toJson p :=
  decodes_record (by decide) <|
    .set (decodes_flag _) <|
    .set (decodes_flag _) <|
    .set (decodes_flag _) <|
    .set (decodes_flag _) <|
    .set (decodes_ofNat? _ _) <|
    .set (decodes_ofNat? _ _) .done

theorem Namespace.decodes (ns : Namespace) : Decodes decoder ns.toJson ns :=
  decodes_variant (by cases ns <;> rfl)

theorem EntryKind.decodes (k : EntryKind) : Decodes decoder k.toJson k :=
  decodes_variant (by cases k <;> rfl)

/-- The tag is taken out, and the rest is the form of the content alone. -/
theorem StorageConfig.decodes (c : StorageConfig) : Decodes decoder c.toJson c := by
  intro source d hd
  cases c with
  | memory =>
    have htagged : tagged "StorageConfig" "kind" [("memory", Kind.memory), ("disk", Kind.disk)]
        source d = .ok (.memory, .object []) :=
      decodes_tagged rfl (by simp) source d hd
    rw [decoder, htagged]
    rfl
  | disk c =>
    have htag : ("kind" : Text) ∉
        (["baseDir", "internal", "userinput", "workspace", "freshSession"] : List Text) := by
      decide
    have htagged : tagged "StorageConfig" "kind" [("memory", Kind.memory), ("disk", Kind.disk)]
        source d = .ok (.disk, c.toJson) :=
      decodes_tagged rfl htag source d hd
    rw [decoder, htagged]
    show (DiskConfig.decoder .gathered (Doc.ofJson c.toJson)).map disk = .ok (disk c)
    rw [c.decodes .gathered _ (anyValue_ofJson _)]
    rfl

theorem Settings.decodes (blank s : Settings) : Decodes (decoder blank) s.toJson s := by
  have hnames : (["storage", "namespaces", "policy"] : List Text).Nodup := by decide
  exact decodes_record hnames <|
    .set s.storage.decodes <|
    .set (decodes_list fun ns _ => ns.decodes) <|
    .set s.policy.decodes .done

namespace TreeNode

theorem listJson_eq_map (nodes : List TreeNode) : listJson nodes = nodes.map toJson := by
  induction nodes with
  | nil => rfl
  | cons n rest ih => rw [listJson, ih, List.map_cons]

/-- The induction is on the depth. The height of the form falls by two from a node to its children,
since a list stands between them. -/
theorem decodes_decoderTo {depth : Nat} {n : TreeNode} (h : (Doc.ofJson n.toJson).height ≤ depth) :
    Decodes (decoderTo depth) n.toJson n := by
  have hnames : (["name", "type", "children"] : List Text).Nodup := by decide
  induction depth generalizing n with
  | zero =>
    obtain ⟨name, kind, _ | children⟩ := n <;> cases h
  | succ depth ih =>
    obtain ⟨name, kind, _ | children⟩ := n
    · exact decodes_record hnames <|
        .set (decodes_string name) <| .set kind.decodes <| .lack rfl .done
    · have hchildren : ∀ c ∈ children, Decodes (decoderTo depth) c.toJson c := by
        intro c hc
        have hitem := height_le_of_mem (List.mem_map_of_mem (f := toJson) hc)
        refine ih ?_
        simp only [toJson, Doc.ofJson, Doc.ofMembers, Doc.height, Doc.membersHeight,
          listJson_eq_map] at h
        omega
      rw [toJson, listJson_eq_map]
      exact decodes_record hnames <|
        .set (decodes_string name) <| .set kind.decodes <|
        .set (decodes_some (decodes_list hchildren) (by rintro ⟨⟩)) .done

theorem decodes (n : TreeNode) : Decodes decoder n.toJson n := by
  intro source d hd
  exact decodes_decoderTo (height_of_anyValue hd).ge source d hd

end TreeNode

theorem Json.itemsFit_iff {levels : Nat} {items : List Json} :
    ItemsFit levels items ↔ ∀ j ∈ items, j.Fits levels := by
  induction items with
  | nil => simp [ItemsFit]
  | cons j rest ih => simp [ItemsFit, ih]

theorem Json.fits_ofText? (t : Option Text) (levels : Nat) : (ofText? t).Fits levels := by
  cases t <;> trivial

theorem Json.fits_ofNat? {n : Option Nat} (h : ∀ m ∈ n, m ≤ largestWord) (levels : Nat) :
    (ofNat? n).Fits levels := by
  cases n with
  | none => trivial
  | some n => exact h n rfl

/-- Read limits that fit in a word are written without loss, and so is everything else. -/
theorem Settings.fits {s : Settings} (hlines : ∀ n ∈ s.policy.maxLines, n ≤ largestWord)
    (hbytes : ∀ n ∈ s.policy.maxBytes, n ≤ largestWord) : s.toJson.Fits Doc.nestingLimit := by
  have hstorage : ∀ c : StorageConfig, c.toJson.Fits 126 := by
    rintro (_ | c)
    · simp [StorageConfig.toJson, Fits, MembersFit]
    · simp [StorageConfig.toJson, DiskConfig.toJson, Fits, MembersFit, fits_ofText?]
  have hnamespaces : ∀ ns : Namespace, ns.toJson.Fits 125 := fun _ => trivial
  have hpolicy : s.policy.toJson.Fits 126 := by
    simp [Policy.toJson, Fits, MembersFit, fits_ofNat? hlines, fits_ofNat? hbytes]
  simp [toJson, Fits, MembersFit, itemsFit_iff, Doc.nestingLimit, hstorage, hnamespaces, hpolicy]

namespace OsTree

variable {t u : OsTree} {now : Instant} {blank s : Settings} {location text : Text} {place : Place}
  {modified : Instant}

theorem exec_load_of_parse (htext : parse text = .ok s.toJson)
    (hshows : t.Shows location place (.file (Utf8.encode text) modified)) :
    t.exec now (Settings.load blank location) = (s.validate.map fun _ => s, t) := by
  have hfile : Settings.fileText location (.ok (Utf8.encode text)) = .ok text := by
    rw [Settings.fileText, Utf8.decode_encode]
  have hof : Settings.ofText blank text = s.validate.map fun _ => s := by
    rw [Settings.ofText, decodeText_of_decodes (Settings.decodes blank s) htext]
    show (do s.validate; pure s : Except Fault Settings) = _
    cases s.validate <;> rfl
  rw [Settings.load, exec_bind_program, run_ask, read_of_shows hshows,
    exec_bind_ok ((exec_check _).trans (by rw [hfile]))]
  exact (exec_check _).trans (by rw [hof])

end OsTree

/-- Settings whose form has been written to a file,
compact or spread over lines, are loaded from the file as they were, whatever the defaults are, or
are refused with what their check says. A tree of any depth is read back from its form, and from
every text that is read as its form; what is written of a tree is such a text, up to the depth to
which values are read at all. -/
theorem settings_and_trees_restored :
    (∀ (blank s : Settings) (location text : Text) (t u : OsTree) (now later : Instant)
        (input : Bytes),
      (∀ n ∈ s.policy.maxLines, n ≤ largestWord) → (∀ n ∈ s.policy.maxBytes, n ≤ largestWord) →
      (text = s.toJson.compact ∨ text = s.toJson.spread) →
      OsTree.answer now input (.write location (Utf8.encode text)) t = (.ok (), u) →
        u.exec later (Settings.load blank location) = (s.validate.map fun _ => s, u)) ∧
    (∀ n : TreeNode, decodeValue TreeNode.decoder n.toJson = .ok n) ∧
    (∀ (n : TreeNode) (text : Text), parse text = .ok n.toJson →
      decodeText TreeNode.decoder text = .ok n) ∧
    ∀ (n : TreeNode) (text : Text), n.toJson.Fits Doc.nestingLimit →
      (text = n.toJson.compact ∨ text = n.toJson.spread) →
        parse text = .ok n.toJson ∧ decodeText TreeNode.decoder text = .ok n := by
  refine ⟨?settings, ?value, ?text, ?written⟩
  case settings =>
    intro blank s location text t u now later input hlines hbytes htext hwrite
    obtain ⟨place, hshows⟩ := OsTree.shows_of_write hwrite
    exact OsTree.exec_load_of_parse (parse_written (s.fits hlines hbytes) htext) hshows
  case value => exact fun n => decodeValue_of_decodes n.decodes
  case text => exact fun n text htext => decodeText_of_decodes n.decodes htext
  case written =>
    intro n text hfits htext
    have hparsed := parse_written hfits htext
    exact ⟨hparsed, decodeText_of_decodes n.decodes hparsed⟩

theorem settings_and_trees_with_unicode_restored :
    let s : Settings := {
      storage := .disk ⟨"/daten/größe", some "/\x22 \\", none, some "/съёмка\n", true⟩
      namespaces := [.workspace, .internal, .workspace]
      policy := { maxLines := some (2 ^ 64 - 1) } }
    let refused : Settings := { s with policy := { s.policy with maxBytes := some 0 } }
    let written (s : Settings) : OsTree :=
      (OsTree.answer ⟨0, 0⟩ [] (.write "/s" (Utf8.encode s.toJson.spread)) .empty).2
    let blank := Settings.ofBaseDir "/other"
    let tree : TreeNode := .node "ö" .dir (some [.node "" .file none, .node "b" .dir (some [])])
    (written s).exec ⟨0, 0⟩ (Settings.load blank "/s") = (.ok s, written s) ∧
      (written refused).exec ⟨0, 0⟩ (Settings.load blank "/s") =
        (.error (.config "read limits must be positive"), written refused) ∧
      decodeText TreeNode.decoder tree.toJson.compact = .ok tree := by
  intro s refused written blank tree
  obtain ⟨hload, -, -, htree⟩ := settings_and_trees_restored
  have hwritten : ∀ s : Settings, OsTree.answer ⟨0, 0⟩ []
      (.write "/s" (Utf8.encode s.toJson.spread)) .empty = (.ok (), written s) := fun _ => rfl
  have hfits : tree.toJson.Fits Doc.nestingLimit := by
    simp [tree, TreeNode.toJson, TreeNode.listJson, EntryKind.toJson, Fits, ItemsFit, MembersFit,
      Doc.nestingLimit]
  refine ⟨?_, ?_, (htree tree _ hfits (.inl rfl)).2⟩
  · exact hload blank s "/s" _ _ _ ⟨0, 0⟩ ⟨0, 0⟩ [] (by decide +kernel) (by decide +kernel)
      (.inr rfl) (hwritten s)
  · exact hload blank refused "/s" _ _ _ ⟨0, 0⟩ ⟨0, 0⟩ [] (by decide +kernel) (by decide +kernel)
      (.inr rfl) (hwritten refused)

end GrantFs
