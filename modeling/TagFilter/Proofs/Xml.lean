import TagFilter.Proofs.NodeShape
import TagFilter.Proofs.Piece
import TagFilter.Proofs.XmlText

/-!
# Reading XML dumps

The XML dump of a tree can be read back (`toXml_lossless`).  The document of a tree is a list of
lines, each of which opens an element, closes one or holds a leaf.  The reader `Tree.ofXml?` goes
over them with a stack of the elements that are open; the lines of a tree, at any level, add the tree
to the innermost of these (`Tree.run_xmlLines`).
-/

namespace TagFilter

open Xml

/-! ## Lines -/

namespace Xml

/-- An element that holds other elements. -/
inductive Element where
  | query
  | tagged (tag : Tag)
  deriving DecidableEq

namespace Element

def name : Element → List Char
  | query => ['q', 'u', 'e', 'r', 'y']
  | tagged tag => tag.letters

def ofName? (cs : List Char) : Option Element :=
  if cs = query.name then some query else (Tag.ofLetters? cs).map tagged

theorem letters_ne {cs : List Char} (h : Tag.ofLetters? cs = none) (tag : Tag) :
    tag.letters ≠ cs := by
  rintro rfl
  rw [Tag.ofLetters?_letters] at h
  cases h

theorem ofName?_name (e : Element) : ofName? e.name = some e := by
  cases e with
  | query => rfl
  | tagged tag =>
    rw [name, ofName?, if_neg (letters_ne rfl tag), Tag.ofLetters?_letters, Option.map_some]

theorem name_ne_arg (e : Element) : e.name ≠ ['a', 'r', 'g'] := by
  cases e with
  | query => decide
  | tagged tag => exact letters_ne rfl tag

theorem not_mem_name (e : Element) {c : Char} (hc : Tag.isNameChar c = false) : c ∉ e.name := by
  intro h
  have hchar : Tag.isNameChar c = true := by
    cases e with
    | query => exact List.all_eq_true.1 (rfl : query.name.all Tag.isNameChar = true) c h
    | tagged tag => exact Tag.isNameChar_of_mem_letters h
  rw [hc] at hchar
  cases hchar

end Element

/-- What a line of a document holds. -/
inductive Item where
  | arg (text : Text)
  | opening (e : Element)
  | closing (e : Element)

namespace Item

def write : Item → List Char
  | arg text => '<' :: (['a', 'r', 'g'] ++ '>' :: (leafChars text ++ ['<', '/', 'a', 'r', 'g', '>']))
  | opening e => '<' :: (e.name ++ ['>'])
  | closing e => '<' :: ('/' :: e.name ++ ['>'])

/-- The item that starts with a tag of some name; `body` is what follows the tag. -/
def ofParts? (name body : List Char) : Option Item :=
  match name with
  | ['a', 'r', 'g'] => (readLeaf? (body.take (body.length - 6))).map arg
  | '/' :: name => (Element.ofName? name).map closing
  | name => (Element.ofName? name).map opening

/-- Reads a line, whatever blanks it starts with. -/
def read? (line : List Char) : Option Item :=
  match line.dropWhile (· == ' ') with
  | '<' :: cs => ofParts? (cs.takeWhile (· != '>')) (cs.dropWhile (· != '>')).tail
  | _ => none

theorem read?_eq_ofParts? (blanks : Nat) {name : List Char} (h : '>' ∉ name) (body : List Char) :
    read? (List.replicate blanks ' ' ++ '<' :: (name ++ '>' :: body)) = ofParts? name body := by
  have hblanks : ∀ c ∈ List.replicate blanks ' ', (c == ' ') = true := by
    intro c hc
    rw [List.eq_of_mem_replicate hc]
    rfl
  have hname : ∀ c ∈ name, (c != '>') = true := by
    intro c hc
    rw [bne_iff_ne]
    rintro rfl
    exact h hc
  unfold read?
  rw [List.dropWhile_append_of_pos hblanks, List.dropWhile_cons_of_neg (by decide)]
  simp only
  rw [List.takeWhile_append_of_pos hname, List.dropWhile_append_of_pos hname,
    List.takeWhile_cons_of_neg (by decide), List.dropWhile_cons_of_neg (by decide),
    List.append_nil, List.tail_cons]

theorem ofParts?_opening (e : Element) : ofParts? e.name [] = some (opening e) := by
  unfold ofParts?
  split
  next h => exact absurd h e.name_ne_arg
  next h =>
    have hslash : '/' ∈ e.name := h ▸ List.mem_cons_self
    exact absurd hslash (e.not_mem_name rfl)
  next => rw [Element.ofName?_name, Option.map_some]

theorem ofParts?_closing (e : Element) : ofParts? ('/' :: e.name) [] = some (closing e) := by
  rw [ofParts?, Element.ofName?_name, Option.map_some]

theorem read?_write (blanks : Nat) (i : Item) (h : ∀ text, i = arg text → text.IsUtf8) :
    read? (List.replicate blanks ' ' ++ i.write) = some i := by
  cases i with
  | arg text =>
    rw [write, read?_eq_ofParts? blanks (by decide), ofParts?, List.length_append]
    simp only [List.length_cons, List.length_nil, Nat.add_sub_cancel, List.take_left]
    rw [readLeaf?_leafChars (h text rfl), Option.map_some]
  | opening e =>
    rw [write, read?_eq_ofParts? blanks (e.not_mem_name rfl), ofParts?_opening]
  | closing e =>
    have hname : '>' ∉ '/' :: e.name := by
      rw [List.mem_cons, not_or]
      exact ⟨by decide, e.not_mem_name rfl⟩
    rw [write, read?_eq_ofParts? blanks hname, ofParts?_closing]

theorem newline_not_mem_write (i : Item) : '\n' ∉ i.write := by
  have hname : ∀ e : Element, '\n' ∉ e.name := fun e => e.not_mem_name rfl
  cases i with
  | arg text => simp [write, newline_not_mem_leafChars text]
  | opening e => simp [write, hname e]
  | closing e => simp [write, hname e]

end Item

/-- A line of a document: how far it is indented, and what it holds. -/
def writeLine (line : Nat × Item) : List Char :=
  List.replicate (2 * line.1) ' ' ++ line.2.write

/-- A document: lines, each with its end. -/
def document (lines : List (Nat × Item)) : List Char :=
  lines.flatMap fun line => writeLine line ++ ['\n']

theorem document_cons (line : Nat × Item) (ls : List (Nat × Item)) :
    document (line :: ls) = writeLine line ++ '\n' :: document ls := by
  simp [document]

end Xml

namespace Tree

/-- The lines of a tree at a level of indentation. -/
def xmlLines (level : Nat) : Tree → List (Nat × Item)
  | absent => []
  | leaf text => [(level, .arg text)]
  | node tag left right =>
    if tag = .op .nop then [(level, .arg [])]
    else
      (level, .opening (.tagged tag)) ::
        (left.xmlLines (level + 1) ++ right.xmlLines (level + 1) ++
          [(level, .closing (.tagged tag))])

theorem indent_eq_encode (level : Nat) :
    indent level = Text.encode (List.replicate (2 * level) ' ') := by
  rw [Text.encode, List.flatMap_replicate]
  exact List.flatten_replicate_singleton.symm

theorem xmlAt_eq_encode (level : Nat) (t : Tree) :
    t.xmlAt level = Text.encode (document (t.xmlLines level)) := by
  induction t generalizing level with
  | absent => rfl
  | leaf text =>
    simp only [xmlAt, xmlLines, indent_eq_encode, escapeXml_eq_encode, Text.ofString_eq_encode,
      ← Text.encode_append]
    refine congrArg Text.encode ?_
    simp [document, writeLine, Item.write]
  | node tag left right ihl ihr =>
    by_cases htag : tag = .op .nop
    · simp only [xmlAt, xmlLines, if_pos htag, indent_eq_encode, Text.ofString_eq_encode,
        ← Text.encode_append]
      refine congrArg Text.encode ?_
      simp [document, writeLine, Item.write, leafChars, Text.decode, Text.pieces, guarded]
    · simp only [xmlAt, xmlLines, if_neg htag, ihl, ihr, indent_eq_encode, Tag.name_eq_encode,
        Text.ofString_eq_encode, ← Text.encode_append]
      refine congrArg Text.encode ?_
      simp [document, writeLine, Item.write, Element.name]

/-- The lines of the document of a tree. -/
def documentLines (t : Tree) : List (Nat × Item) :=
  (0, .opening .query) :: (t.xmlLines 1 ++ [(0, .closing .query)])

theorem toXml_eq_encode (t : Tree) : t.toXml = Text.encode (document t.documentLines) := by
  rw [toXml, xmlAt_eq_encode, Text.ofString_eq_encode, Text.ofString_eq_encode,
    ← Text.encode_append, ← Text.encode_append]
  refine congrArg Text.encode ?_
  simp [documentLines, document, writeLine, Item.write, Element.name]

end Tree

/-! ## Reading documents -/

namespace Xml

/-- An element that has been opened, with the trees of its elements so far. -/
structure Frame where
  element : Element
  children : List Tree

/-- The tree of an element with some children.  The query has the tree of its only child. -/
def Element.close? : Element → List Tree → Option Tree
  | query, [] => some .absent
  | query, [t] => some t
  | tagged tag, [] => some (.node tag .absent .absent)
  | tagged tag, [left] => some (.node tag left .absent)
  | tagged tag, [left, right] => some (.node tag left right)
  | _, _ => none

def Frame.add (f : Frame) (t : Tree) : Frame := { f with children := f.children ++ [t] }

/-- Goes on by one item, with the innermost of the open elements in front. -/
def step : List Frame → Item → Option (List Frame)
  | f :: stack, .arg text => some (f.add (.leaf text) :: stack)
  | stack, .opening e => some (⟨e, []⟩ :: stack)
  | f :: g :: stack, .closing e =>
    if f.element = e then (e.close? f.children).map fun t => g.add t :: stack else none
  | _, _ => none

end Xml

/-- A child, if it is there. -/
def Tree.present : Tree → List Tree
  | absent => []
  | t => [t]

/-- The tree of an XML document. -/
def Tree.ofXml? (t : Text) : Option Tree := do
  let items ← ((t.decode.splitOn '\n').dropLast).mapM Item.read?
  match ← items.foldlM step [⟨.query, []⟩] with
  | [f] => f.element.close? f.children
  | _ => none

namespace Xml

theorem intercalate_lines (ls : List (Nat × Item)) :
    ['\n'].intercalate (ls.map writeLine ++ [[]]) = document ls := by
  induction ls with
  | nil => rfl
  | cons line ls ih =>
    rw [List.map_cons, List.cons_append, List.intercalate_cons_of_ne_nil (by simp), ih,
      document_cons, List.append_assoc, List.singleton_append]

theorem splitOn_document (ls : List (Nat × Item)) :
    (document ls).splitOn '\n' = ls.map writeLine ++ [[]] := by
  rw [← intercalate_lines, List.splitOn_intercalate]
  · intro line hline
    rw [List.mem_append, List.mem_map, List.mem_singleton] at hline
    obtain ⟨l, -, rfl⟩ | rfl := hline
    · simp [writeLine, l.2.newline_not_mem_write]
    · exact List.not_mem_nil
  · simp

theorem mapM_read? {ls : List (Nat × Item)}
    (h : ∀ line ∈ ls, ∀ text, line.2 = .arg text → text.IsUtf8) :
    (ls.map writeLine).mapM Item.read? = some (ls.map Prod.snd) := by
  induction ls with
  | nil => rfl
  | cons line ls ih =>
    rw [List.forall_mem_cons] at h
    have hline : Item.read? (writeLine line) = some line.2 := Item.read?_write _ _ h.1
    rw [List.map_cons, List.mapM_cons, hline, ih h.2]
    rfl

theorem Element.close?_query (t : Tree) : query.close? t.present = some t := by
  cases t <;> rfl

theorem Element.close?_tagged (tag : Tag) {l r : Tree} (h : l = .absent → r = .absent) :
    (tagged tag).close? (l.present ++ r.present) = some (.node tag l r) := by
  cases l with
  | absent =>
    rw [h rfl]
    rfl
  | leaf | node => cases r <;> rfl

/-- An element adds its tree to the element around it, if its items make its children. -/
theorem run_element {e : Element} {items : List Item} {children : List Tree} {t : Tree}
    {f : Frame} {stack : List Frame}
    (hitems : items.foldlM step (⟨e, []⟩ :: f :: stack) = some (⟨e, children⟩ :: f :: stack))
    (hclose : e.close? children = some t) :
    (.opening e :: (items ++ [.closing e])).foldlM step (f :: stack) =
      some (f.add t :: stack) := by
  have hopening : step (f :: stack) (.opening e) = some (⟨e, []⟩ :: f :: stack) := rfl
  have hclosing : step (⟨e, children⟩ :: f :: stack) (.closing e) = some (f.add t :: stack) := by
    rw [step, if_pos rfl, hclose, Option.map_some]
  rw [List.foldlM_cons, hopening, Option.bind_eq_bind, Option.bind_some, List.foldlM_append, hitems,
    Option.bind_eq_bind, Option.bind_some, List.foldlM_cons, hclosing]
  rfl

end Xml

namespace Tree

/-- Nothing hangs below a leaf, and no node has a right child only.  A node without a tag and without
children is no tree of its own: it is the empty leaf (`Tree.binary`). -/
def Orderly (t : Tree) : Prop :=
  ∀ tag l r, .node tag l r ∈ t.nodes → tag ≠ .op .nop ∧ (l = .absent → r = .absent)

theorem orderly_absent : absent.Orderly := by
  simp [Orderly, nodes, preorder]

theorem orderly_leaf (text : Text) : (leaf text).Orderly := by
  simp [Orderly, nodes, preorder]

theorem orderly_node {tag : Tag} {l r : Tree} :
    (node tag l r).Orderly ↔
      (tag ≠ .op .nop ∧ (l = absent → r = absent)) ∧ l.Orderly ∧ r.Orderly := by
  unfold Orderly
  rw [nodes_node]
  constructor
  · intro h
    refine ⟨h tag l r List.mem_cons_self, fun tag' l' r' hmem => h tag' l' r' ?_,
      fun tag' l' r' hmem => h tag' l' r' ?_⟩
    · exact List.mem_cons_of_mem _ (List.mem_append_left _ hmem)
    · exact List.mem_cons_of_mem _ (List.mem_append_right _ hmem)
  · rintro ⟨hroot, hl, hr⟩ tag' l' r' hmem
    rw [List.mem_cons, List.mem_append] at hmem
    obtain heq | hmem | hmem := hmem
    · cases heq
      exact hroot
    · exact hl tag' l' r' hmem
    · exact hr tag' l' r' hmem

theorem isUtf8_of_mem_xmlLines {t : Tree} (h : t.Leaves Text.IsUtf8) (level : Nat) :
    ∀ line ∈ t.xmlLines level, ∀ text, line.2 = .arg text → text.IsUtf8 := by
  induction t generalizing level with
  | absent => simp [xmlLines]
  | leaf text =>
    rw [leaves_leaf] at h
    simp only [xmlLines, List.forall_mem_singleton]
    rintro _ ⟨⟩
    exact h
  | node tag l r ihl ihr =>
    rw [leaves_node] at h
    unfold xmlLines
    split
    · simp only [List.forall_mem_singleton]
      rintro _ ⟨⟩
      exact ⟨[], rfl⟩
    · simp only [List.forall_mem_cons, List.forall_mem_append]
      exact ⟨nofun, ⟨ihl h.1 _, ihr h.2 _⟩, nofun, nofun⟩

/-- The lines of a tree add it to the innermost element. -/
theorem run_xmlLines {t : Tree} (h : t.Orderly) (level : Nat) (e : Element) (children : List Tree)
    (stack : List Frame) :
    ((t.xmlLines level).map Prod.snd).foldlM step (⟨e, children⟩ :: stack) =
      some (⟨e, children ++ t.present⟩ :: stack) := by
  induction t generalizing level e children stack with
  | absent =>
    rw [present, List.append_nil]
    rfl
  | leaf text => rfl
  | node tag l r ihl ihr =>
    obtain ⟨⟨htag, hright⟩, hl, hr⟩ := orderly_node.1 h
    rw [xmlLines, if_neg htag, List.map_cons, List.map_append, List.map_append]
    refine run_element ?_ (Element.close?_tagged tag hright)
    rw [List.foldlM_append, ihl hl, Option.bind_eq_bind, Option.bind_some, ihr hr, List.nil_append]

theorem ofXml?_toXml {t : Tree} (horderly : t.Orderly) (hutf8 : t.Leaves Text.IsUtf8) :
    ofXml? t.toXml = some t := by
  have hlines : ∀ line ∈ t.documentLines, ∀ text, line.2 = .arg text → text.IsUtf8 := by
    simp only [documentLines, List.forall_mem_cons, List.forall_mem_append]
    exact ⟨nofun, isUtf8_of_mem_xmlLines hutf8 1, nofun, nofun⟩
  have hrun : (t.documentLines.map Prod.snd).foldlM step [⟨.query, []⟩] =
      some [⟨.query, [t]⟩] := by
    rw [documentLines, List.map_cons, List.map_append]
    exact run_element (run_xmlLines horderly 1 .query [] _) (Element.close?_query t)
  unfold ofXml?
  rw [toXml_eq_encode, Text.decode_encode, splitOn_document, List.dropLast_concat,
    mapM_read? hlines]
  simp only [Option.bind_eq_bind, Option.bind_some, hrun]
  rfl

end Tree

theorem parse_orderly {words : List Text} {t : Tree} (h : parse words = .ok t) : t.Orderly := by
  obtain ⟨u, hu, hwrap⟩ := parse_eq_ok_iff_derives.1 h
  have hshaped := hu.wellShaped
  rw [hwrap] at hshaped
  intro tag l r hnode
  obtain ⟨o, rfl, htakes⟩ := hshaped.takes hnode
  refine ⟨?_, fun hl => absurd hl htakes.left.1⟩
  rintro ⟨⟩
  exact htakes

/-- A tree can be read back from its XML document, so no two trees have one document.  Leaves in
UTF-8 are asked for and the order of `Tree.Orderly`, which the trees of expressions have. -/
theorem toXml_lossless :
    (∀ t : Tree, t.Orderly → t.Leaves Text.IsUtf8 → Tree.ofXml? t.toXml = some t) ∧
      (∀ t u : Tree, t.Orderly → t.Leaves Text.IsUtf8 → u.Orderly → u.Leaves Text.IsUtf8 →
        t.toXml = u.toXml → t = u) ∧
      ∀ words t, parse words = .ok t → t.Orderly := by
  refine ⟨fun t ht ht' => Tree.ofXml?_toXml ht ht', fun t u ht ht' hu hu' heq => ?_,
    fun words t => parse_orderly⟩
  have hread : some t = some u := by
    rw [← Tree.ofXml?_toXml ht ht', heq, Tree.ofXml?_toXml hu hu']
  exact Option.some.inj hread

/-- Two trees that differ in where a backslash stands between the quotes of a leaf have two
documents, from which they can be read. -/
theorem toXml_lossless_backslash :
    let t : Tree := .node (.unlisted 99) (.leaf "'a'\\'b'") (.op .not (.leaf "<é>\n&") .absent)
    let u : Tree := .node (.unlisted 99) (.leaf "'a\\''b'") (.op .not (.leaf "<é>\n&") .absent)
    let v : Tree := .op .not (.leaf "a") .absent
    t.Orderly ∧ t.Leaves Text.IsUtf8 ∧ u.Orderly ∧ u.Leaves Text.IsUtf8 ∧
      Tree.ofXml? t.toXml = some t ∧ t.toXml ≠ u.toXml ∧
      parse ["not", "a"] = .ok v ∧ v.Orderly := by
  intro t u v
  have ht : t.Orderly := by simp [t, Tree.orderly_node, Tree.orderly_leaf, Tree.orderly_absent]
  have hu : u.Orderly := by simp [u, Tree.orderly_node, Tree.orderly_leaf, Tree.orderly_absent]
  have ht' : t.Leaves Text.IsUtf8 := by simp [t, Tree.Leaves, Tree.leafTexts, Text.isUtf8_ofString]
  have hu' : u.Leaves Text.IsUtf8 := by simp [u, Tree.Leaves, Tree.leafTexts, Text.isUtf8_ofString]
  have hv : parse ["not", "a"] = .ok v := rfl
  refine ⟨ht, ht', hu, hu', toXml_lossless.1 t ht ht', fun heq => ?_, hv,
    toXml_lossless.2.2 _ v hv⟩
  have htu : t = u := toXml_lossless.2.1 t u ht ht' hu hu' heq
  exact absurd htu (by decide)

end TagFilter
