import TagFilter.Proofs.JsonText
import TagFilter.Proofs.Piece
import TagFilter.Tree.Dump

/-!
# What JSON dumps tell

The JSON document of a tree leaves out empty texts and missing children.  A tree that is put together
from leaves and nodes (`Tree.Built`) is still told by the members that are there, level by level
(`Tree.Built.eq_of_toJson_eq`).  As the text of a document tells the document, the JSON dump loses
nothing (`toJson_lossless`).
-/

namespace TagFilter

namespace Json

/-- The value of the first member with a key; what is missing counts as `null`. -/
def member (key : Text) : Json → Json
  | obj members => (members.lookup key).getD null
  | _ => null

end Json

namespace Tree

variable {t u l r : Tree} {tag : Tag}

/-- The trees that can be put together: no node without tag and children, which is a leaf. -/
inductive Built : Tree → Prop where
  | absent : Built absent
  | leaf (text : Text) : Built (leaf text)
  | unary (tag : Tag) {l : Tree} (hl : Built l) : Built (unary tag l)
  | binary (tag : Tag) {l r : Tree} (hl : Built l) (hr : Built r) : Built (binary tag l r)

theorem Built.node (h : (node tag l r).Built) :
    l.Built ∧ r.Built ∧ ¬(tag = .op .nop ∧ l = .absent ∧ r = .absent) := by
  generalize ht : Tree.node tag l r = t at h
  cases h with
  | absent => cases ht
  | leaf text => cases ht
  | unary tag' hl =>
    rw [Tree.unary, Tree.binary] at ht
    split at ht
    · cases ht
    · next hne =>
      cases ht
      exact ⟨hl, .absent, hne⟩
  | binary tag' hl hr =>
    rw [Tree.binary] at ht
    split at ht
    · cases ht
    · next hne =>
      cases ht
      exact ⟨hl, hr, hne⟩

theorem Built.left (h : t.Built) : t.left.Built := by
  cases t with
  | absent => exact .absent
  | leaf text => exact .absent
  | node tag l r => exact h.node.1

theorem Built.right (h : t.Built) : t.right.Built := by
  cases t with
  | absent => exact .absent
  | leaf text => exact .absent
  | node tag l r => exact h.node.2.1

theorem toJson_eq_null : t.toJson = .null ↔ t = absent := by
  cases t <;> simp [toJson]

theorem member_op (h : t ≠ absent) : t.toJson.member "op" = .str t.tag.name := by
  cases t with
  | absent => exact absurd rfl h
  | leaf text => rfl
  | node tag l r => rfl

theorem member_value (t : Tree) :
    t.toJson.member "value" = if t.text.isEmpty then .null else .str t.text := by
  cases t with
  | absent => rfl
  | leaf text => cases text <;> rfl
  | node tag l r => cases l <;> cases r <;> rfl

theorem member_left (t : Tree) : t.toJson.member "left" = t.left.toJson := by
  cases t with
  | absent => rfl
  | leaf text => cases text <;> rfl
  | node tag l r => cases l <;> cases r <;> rfl

theorem member_right (t : Tree) : t.toJson.member "right" = t.right.toJson := by
  cases t with
  | absent => rfl
  | leaf text => cases text <;> rfl
  | node tag l r => cases l <;> cases r <;> rfl

theorem tag_eq_of_toJson_eq (ht : t ≠ absent) (hu : u ≠ absent) (h : t.toJson = u.toJson) :
    t.tag = u.tag := by
  have hname : t.tag.name = u.tag.name := by
    rw [← Json.str.injEq, ← member_op ht, h, member_op hu]
  exact Tag.name_inj hname

theorem text_eq_of_toJson_eq (h : t.toJson = u.toJson) : t.text = u.text := by
  have hvalue := member_value t
  rw [h, member_value] at hvalue
  cases ht : t.text <;> cases hu : u.text <;> simp_all

/-- A tree that can be put together is told by its tag, its text and its children. -/
theorem Built.eq_of_parts (ht : t.Built) (hu : u.Built) (ht' : t ≠ .absent) (hu' : u ≠ .absent)
    (htag : t.tag = u.tag) (htext : t.text = u.text) (hleft : t.left = u.left)
    (hright : t.right = u.right) : t = u := by
  cases t with
  | absent => exact absurd rfl ht'
  | leaf text =>
    cases u with
    | absent => exact absurd rfl hu'
    | leaf text' => exact congrArg _ htext
    | node tag l r => exact absurd ⟨htag.symm, hleft.symm, hright.symm⟩ hu.node.2.2
  | node tag l r =>
    cases u with
    | absent => exact absurd rfl hu'
    | leaf text => exact absurd ⟨htag, hleft, hright⟩ ht.node.2.2
    | node tag' l' r' =>
      cases htag
      cases hleft
      cases hright
      rfl

theorem eq_absent_of_toJson_eq (h : absent.toJson = t.toJson) : absent = t :=
  (toJson_eq_null.1 h.symm).symm

/-- One level of a tree is told by its document. -/
theorem Built.eq_of_toJson_eq (ht : t.Built) (hu : u.Built) (h : t.toJson = u.toJson)
    (hl : t.left.toJson = u.left.toJson → t.left = u.left)
    (hr : t.right.toJson = u.right.toJson → t.right = u.right) : t = u := by
  have habsent : t = .absent ↔ u = .absent := by rw [← toJson_eq_null, h, toJson_eq_null]
  by_cases ht' : t = .absent
  · rw [ht', habsent.1 ht']
  have hu' : u ≠ .absent := mt habsent.2 ht'
  refine ht.eq_of_parts hu ht' hu' (tag_eq_of_toJson_eq ht' hu' h) (text_eq_of_toJson_eq h)
    (hl ?_) (hr ?_)
  · rw [← member_left, h, member_left]
  · rw [← member_right, h, member_right]

theorem Built.toJson_inj (ht : t.Built) (hu : u.Built) (h : t.toJson = u.toJson) : t = u := by
  induction t generalizing u with
  | absent => exact eq_absent_of_toJson_eq h
  | leaf text => exact ht.eq_of_toJson_eq hu h eq_absent_of_toJson_eq eq_absent_of_toJson_eq
  | node tag l r ihl ihr =>
    exact ht.eq_of_toJson_eq hu h (ihl ht.left hu.left) (ihr ht.right hu.right)

theorem forall_mem_childMember (key : String) {j : Json} (hj : j.InUtf8) :
    ∀ m ∈ childMember key t j, m.1.IsUtf8 ∧ m.2.InUtf8 := by
  cases t <;> simp [childMember, Text.isUtf8_ofString, hj]

/-- The document of a tree is in UTF-8 if the leaves are. -/
theorem inUtf8_toJson (h : t.Leaves Text.IsUtf8) : t.toJson.InUtf8 := by
  induction t with
  | absent => exact .null
  | leaf text =>
    have htext : text.IsUtf8 := leaves_leaf.1 h
    refine .ofMembers (List.forall_mem_cons.2 ⟨⟨Text.isUtf8_ofString _, .str ?_⟩, ?_⟩)
    · exact Text.isUtf8_ofString _
    · split
      · nofun
      · simp [Text.isUtf8_ofString, Json.InUtf8.str htext]
  | node tag l r ihl ihr =>
    obtain ⟨hl, hr⟩ := leaves_node.1 h
    refine .ofMembers (List.forall_mem_cons.2 ⟨⟨Text.isUtf8_ofString _, .str ?_⟩, ?_⟩)
    · exact ⟨tag.letters, tag.name_eq_encode⟩
    · exact List.forall_mem_append.2
        ⟨forall_mem_childMember "left" (ihl hl), forall_mem_childMember "right" (ihr hr)⟩

end Tree

/-- The JSON document of a tree tells the tree: of the trees that can be put together, no two with
leaves in UTF-8 have one document. -/
theorem toJson_lossless {t u : Tree} (ht : t.Built) (hu : u.Built) (htext : t.Leaves Text.IsUtf8)
    (hutext : u.Leaves Text.IsUtf8) (h : t.toJson.write = u.toJson.write) : t = u :=
  ht.toJson_inj hu (Json.write_inj (Tree.inUtf8_toJson htext) (Tree.inUtf8_toJson hutext) h)

/-- Trees with an untagged node above an empty leaf, a tag outside the table and a child that is on
one side only; which side it is shows. -/
theorem toJson_lossless_sides :
    let text : Text := "\"<é>\n\\"
    let untagged := Tree.unary (.op .nop) (.leaf "")
    let t := Tree.binary (.unlisted 99) untagged (.binary (.op .not) .absent (.leaf text))
    let u := Tree.binary (.unlisted 99) untagged (.unary (.op .not) (.leaf text))
    t.Built ∧ u.Built ∧ t.Leaves Text.IsUtf8 ∧ u.Leaves Text.IsUtf8 ∧
      t.toJson.write ≠ u.toJson.write := by
  intro text untagged t u
  have ht : t.Built := .binary _ (.unary _ (.leaf _)) (.binary _ .absent (.leaf _))
  have hu : u.Built := .binary _ (.unary _ (.leaf _)) (.unary _ (.leaf _))
  have htext : t.Leaves Text.IsUtf8 := by
    simp [t, text, untagged, Tree.unary, Tree.binary, Tree.Leaves, Tree.leafTexts,
      Text.isUtf8_ofString]
  have hutext : u.Leaves Text.IsUtf8 := by
    simp [u, text, untagged, Tree.unary, Tree.binary, Tree.Leaves, Tree.leafTexts,
      Text.isUtf8_ofString]
  refine ⟨ht, hu, htext, hutext, fun h => ?_⟩
  exact absurd (toJson_lossless ht hu htext hutext h) (by decide)

end TagFilter
