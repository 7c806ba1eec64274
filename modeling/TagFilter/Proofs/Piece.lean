import TagFilter.Predicate
import TagFilter.Proofs.Literal
import TagFilter.Proofs.Shape

/-!
# The pieces of predicates

A predicate consists of pieces: SQL that the shape of the tree gives, and the texts of leaves, which
are written as they are.  An attribute stands between quotes, and so does a value that brings its
own; other values are bare (`Sniffer.pieces`).

`Lays` says how pieces lie in a text: they make it up, the SQL between leaves has no quotes, and
there is some between any two leaves.  The predicate of a tree lies in its pieces
(`Sniffer.lays_predicate`).  So the literals of a predicate can be emptied piece by piece, provided
that every leaf between quotes has its own quotes doubled (`Piece.outline_writeAll`).
-/

namespace TagFilter

open Sql (quote enclose Doubled outline)

/-! ## Pieces -/

/-- A piece of a predicate. -/
inductive Piece where
  /-- What the shape of the tree gives. -/
  | sql (text : Text)
  /-- An attribute, which gets quotes. -/
  | name (inside : Text)
  /-- A value within quotes of its own. -/
  | quoted (inside : Text)
  /-- Any other value. -/
  | bare (text : Text)
  deriving DecidableEq, Repr

namespace Piece

/-- A piece as it is written. -/
def write : Piece → Text
  | sql text => text
  | name inside => enclose inside
  | quoted inside => enclose inside
  | bare text => text

/-- Whether a piece is no leaf. -/
def isSql : Piece → Bool
  | sql _ => true
  | _ => false

/-- What a piece has between quotes. -/
def inside? : Piece → Option Text
  | name inside | quoted inside => some inside
  | _ => none

/-- A piece with nothing between its quotes. -/
def blank : Piece → Piece
  | name _ => name []
  | quoted _ => quoted []
  | p => p

/-- A piece with its quotes doubled where it stands between quotes, and without quotes elsewhere. -/
def Sound : Piece → Prop
  | name inside | quoted inside => Doubled inside
  | bare text => quote ∉ text
  | sql _ => True

/-- Pieces as they are written one after the other. -/
def writeAll (pieces : List Piece) : Text := pieces.flatMap write

/-- The piece of a value. -/
def ofValue (text : Text) : Piece :=
  match text with
  | b :: rest => if b = quote ∧ rest.getLast? = some quote then quoted rest.dropLast else bare text
  | [] => bare text

end Piece

namespace Sniffer

/-- The pieces of the condition that a tag has a name. -/
def namePieces (name : Text) : List Piece := [.sql "name = ", .name name]

/-- The pieces of the condition that a tag's value compares with a literal. -/
def valuePieces (s : Sniffer) (operator : Tag) (literal : Text) : List Piece :=
  [.sql ((s.column literal).name ++ " " ++ operator.spelled ++ " "), .ofValue literal]

/-- The pieces of literals between commas. -/
def listPieces : List Text → List Piece
  | [] => []
  | [text] => [.ofValue text]
  | text :: next :: texts => .ofValue text :: .sql ", " :: listPieces (next :: texts)

/-- The pieces of the condition that a tag has a value from a list. -/
def membershipPieces (s : Sniffer) (left : List Piece) (list : Tree) : List Piece :=
  .sql "(" :: left ++ .sql (" and " ++ (s.column list.left.text).name ++ " in (") ::
    listPieces (listItems list) ++ [.sql "))"]

/-- The pieces of an inner node from the pieces of its children. -/
def innerPieces (s : Sniffer) (tag : Tag) (left right : List Piece) (rightTree : Tree) :
    List Piece :=
  if tag = .op .among then s.membershipPieces left rightTree
  else if tag.isUnary || rightTree.isAbsent then .sql "(" :: left ++ [.sql ")"]
  else .sql "(" :: left ++ .sql " and " :: right ++ [.sql ")"]

mutual

/-- The pieces of a tree on the left of an operator. -/
def leftPieces (s : Sniffer) : Tree → List Piece
  | .absent => []
  | .leaf text => namePieces text
  | .node tag left right =>
    if tag = .op .nop then namePieces []
    else s.innerPieces tag (s.leftPieces left) (s.rightPieces tag right) right

/-- The pieces of a tree on the right of an operator. -/
def rightPieces (s : Sniffer) (operator : Tag) : Tree → List Piece
  | .absent => []
  | .leaf text => s.valuePieces operator text
  | .node tag left right =>
    if tag = .op .nop then s.valuePieces operator []
    else s.innerPieces tag (s.leftPieces left) (s.rightPieces tag right) right

end

/-- The pieces of the predicate of a tree. -/
def pieces (s : Sniffer) (t : Tree) : List Piece :=
  if t.tag = .op .among then s.membershipPieces (s.leftPieces t.left) t.right
  else if t.right.isAbsent then s.leftPieces t.left
  else s.leftPieces t.left ++ .sql (" " ++ rootJoin t ++ " ") :: s.rightPieces t.tag t.right

end Sniffer

/-! ## How pieces lie -/

namespace Piece

theorem ofValue_cases (text : Text) :
    (∃ inside, text = enclose inside ∧ ofValue text = .quoted inside) ∨
      (∀ inside, text ≠ enclose inside) ∧ ofValue text = .bare text := by
  cases text with
  | nil => exact .inr ⟨by simp [enclose], rfl⟩
  | cons b rest =>
    by_cases h : b = quote ∧ rest.getLast? = some quote
    · obtain ⟨rfl, hlast⟩ := h
      obtain ⟨inside, rfl⟩ := List.getLast?_eq_some_iff.1 hlast
      exact .inl ⟨inside, rfl, by simp [ofValue]⟩
    · refine .inr ⟨?_, by simp [ofValue, h]⟩
      rintro inside hinside
      cases hinside
      simp at h

theorem write_ofValue (text : Text) : (ofValue text).write = text := by
  obtain ⟨inside, htext, hp⟩ | ⟨-, hp⟩ := ofValue_cases text
  · rw [hp, htext]
    rfl
  · rw [hp]
    rfl

theorem isSql_ofValue (text : Text) : (ofValue text).isSql = false := by
  obtain ⟨inside, -, hp⟩ | ⟨-, hp⟩ := ofValue_cases text
  · rw [hp]
    rfl
  · rw [hp]
    rfl

/-- No two leaves are next to each other. -/
def Apart : List Piece → Prop
  | [] => True
  | p :: rest => (p.isSql = true ∨ ∀ q, rest.head? = some q → q.isSql = true) ∧ Apart rest

/-- A text is SQL between leaves: it is there and has no quote. -/
def Between (text : Text) : Prop := text ≠ [] ∧ quote ∉ text

theorem Between.append {t u : Text} (ht : Between t) (hu : quote ∉ u) : Between (t ++ u) :=
  ⟨by simp [ht.1], by simp [ht.2, hu]⟩

theorem Apart.append_sql {ps qs : List Piece} (hp : Apart ps) (hq : Apart qs) (m : Text) :
    Apart (ps ++ .sql m :: qs) := by
  induction ps with
  | nil => exact ⟨.inl rfl, hq⟩
  | cons p ps ih =>
    refine ⟨hp.1.imp id fun h q hhead => ?_, ih hp.2⟩
    cases ps with
    | nil =>
      cases hhead
      rfl
    | cons p' ps => exact h q hhead

/-- Pieces make up a text: attributes and values that have a property, with SQL between them. -/
structure Lays (P : Text → Prop) (ps : List Piece) (text : Text) : Prop where
  write : writeAll ps = text
  apart : Apart ps
  between : ∀ m, .sql m ∈ ps → Between m
  leaves : ∀ p ∈ ps, p.isSql = false → ∃ x, P x ∧ (p = .name x ∨ p = .ofValue x)

namespace Lays

variable {P : Text → Prop}

theorem nil : Lays P [] [] := ⟨rfl, trivial, by simp, by simp⟩

theorem join {ps qs : List Piece} {t u m : Text} (hp : Lays P ps t) (hm : Between m)
    (hq : Lays P qs u) : Lays P (ps ++ .sql m :: qs) (t ++ m ++ u) where
  write := by simp [writeAll, ← hp.write, ← hq.write, Piece.write]
  apart := hp.apart.append_sql hq.apart m
  between := by
    intro m' hmem
    simp only [List.mem_append, List.mem_cons, Piece.sql.injEq] at hmem
    rcases hmem with h | rfl | h
    · exact hp.between m' h
    · exact hm
    · exact hq.between m' h
  leaves := by
    intro p hmem hleaf
    simp only [List.mem_append, List.mem_cons] at hmem
    rcases hmem with h | rfl | h
    · exact hp.leaves p h hleaf
    · cases hleaf
    · exact hq.leaves p h hleaf

theorem single {p : Piece} (hsql : p.isSql = false)
    (hp : ∃ x, P x ∧ (p = .name x ∨ p = .ofValue x)) : Lays P [p] p.write where
  write := by simp [writeAll]
  apart := ⟨.inr (by simp), trivial⟩
  between := by
    intro m hmem
    rw [List.mem_singleton] at hmem
    subst hmem
    cases hsql
  leaves := by
    intro q hmem _
    rw [List.mem_singleton] at hmem
    subst hmem
    exact hp

theorem value {x : Text} (hx : P x) : Lays P [.ofValue x] x := by
  have hsingle := single (isSql_ofValue x) ⟨x, hx, .inr rfl⟩
  rwa [write_ofValue] at hsingle

end Lays

end Piece

/-! ## The pieces of predicates -/

/-- The tags of a tree are operators. -/
def Tree.Listed (t : Tree) : Prop := ∀ n ∈ t.nodes, ∃ o, n.tag = .op o

/-- The texts of the leaves of a tree. -/
def Tree.leafTexts : Tree → List Text
  | .absent => []
  | .leaf text => [text]
  | .node _ l r => l.leafTexts ++ r.leafTexts

/-- All leaves of a tree have a property. -/
def Tree.Leaves (P : Text → Prop) (t : Tree) : Prop := ∀ x ∈ t.leafTexts, P x

theorem Tree.leaves_node {P : Text → Prop} {tag : Tag} {l r : Tree} :
    (Tree.node tag l r).Leaves P ↔ l.Leaves P ∧ r.Leaves P := by
  simp [Leaves, leafTexts, or_imp, forall_and]

theorem Tree.leaves_leaf {P : Text → Prop} {text : Text} : (Tree.leaf text).Leaves P ↔ P text := by
  simp [Leaves, leafTexts]

theorem Tree.leaves_absent {P : Text → Prop} : Tree.absent.Leaves P := by
  simp [Leaves, leafTexts]

theorem Tree.listed_node {tag : Tag} {l r : Tree} :
    (Tree.node tag l r).Listed ↔ (∃ o, tag = .op o) ∧ l.Listed ∧ r.Listed := by
  rw [Listed, nodes_node, List.forall_mem_cons, List.forall_mem_append]
  rfl

theorem Tree.listed_leaf (text : Text) : (Tree.leaf text).Listed := by
  simp [Listed, nodes, preorder, tag]

theorem Tree.listed_absent : Tree.absent.Listed := by
  simp [Listed, nodes, preorder]

/-- The tags of phrases are operators. -/
theorem Shaped.listed {part : Part} {t : Tree} (h : Shaped part t) : t.Listed := by
  induction h with
  | leaf | start => exact Tree.listed_leaf _
  | inner _ _ _ ihl ihr | among _ _ ihl ihr | subscript _ _ ihl ihr | cell _ _ ihl ihr =>
    exact Tree.listed_node.2 ⟨⟨_, rfl⟩, ihl, ihr⟩
  | unary _ _ ih | last _ ih => exact Tree.listed_node.2 ⟨⟨_, rfl⟩, ih, Tree.listed_absent⟩
  | isNull _ ih | member _ ih => exact Tree.listed_node.2 ⟨⟨_, rfl⟩, ih, Tree.listed_leaf _⟩
  | between _ _ _ ih ihlo ihhi =>
    exact Tree.listed_node.2 ⟨⟨_, rfl⟩, ih, Tree.listed_node.2 ⟨⟨_, rfl⟩, ihlo, ihhi⟩⟩
  | path _ ih | further _ ih => exact ih

namespace Sniffer

open Piece

variable {P : Text → Prop}

theorem not_mem_spelled (o : Operator) : quote ∉ Tag.spelled o := by
  cases o <;> decide

theorem between_name (c : Column) : Between c.name := by
  cases c <;> exact ⟨by decide, by decide⟩

theorem lays_name {x : Text} (hx : P x) : Lays P (namePieces x) (nameCondition x) := by
  have hjoin := Lays.nil.join (m := "name = ") ⟨by decide, by decide⟩
    (Lays.single (p := .name x) rfl ⟨x, hx, .inl rfl⟩)
  have htext : Text.ofString "name = '" = Text.ofString "name = " ++ [quote] := rfl
  have hquote : Text.ofString "'" = [quote] := rfl
  simpa [namePieces, nameCondition, htext, hquote, Piece.write, enclose] using hjoin

theorem lays_value (s : Sniffer) (o : Operator) {x : Text} (hx : P x) :
    Lays P (s.valuePieces o x) (s.valueCondition o x) := by
  have hspace : quote ∉ Text.ofString " " := by decide
  have hbetween := (((between_name (s.column x)).append hspace).append (not_mem_spelled o)).append
    hspace
  exact Lays.nil.join hbetween (.value hx)

theorem lays_list {texts : List Text} (h : ∀ x ∈ texts, P x) :
    Lays P (listPieces texts) (Text.join ", " texts) := by
  fun_induction listPieces texts with
  | case1 => exact .nil
  | case2 text => exact .value (h text (by simp))
  | case3 text next texts ih =>
    have htail := ih fun x hx => h x (List.mem_cons_of_mem _ hx)
    exact (Lays.value (h text (by simp))).join ⟨by decide, by decide⟩ htail

theorem lays_membership (s : Sniffer) {left : List Piece} {text : Text} {list : Tree}
    (hleft : Lays P left text) (hitems : ∀ x ∈ listItems list, P x) :
    Lays P (s.membershipPieces left list) (s.membership text list) := by
  have hand : Between (" and " ++ (s.column list.left.text).name ++ " in (") := by
    refine Between.append (Between.append ⟨by decide, by decide⟩ (between_name _).2) (by decide)
  have hjoin := Lays.nil.join (m := "(") ⟨by decide, by decide⟩
    (hleft.join hand ((lays_list hitems).join (m := "))") ⟨by decide, by decide⟩ .nil))
  simpa [membershipPieces, membership] using hjoin

theorem lays_inner (s : Sniffer) {o : Operator} {left right : List Piece} {lt rt : Text}
    {rightTree : Tree} (hleft : Lays P left lt) (hright : Lays P right rt)
    (hitems : ∀ x ∈ listItems rightTree, P x) :
    Lays P (s.innerPieces o left right rightTree) (s.inner o lt rt rightTree) := by
  unfold innerPieces inner
  split
  · exact s.lays_membership hleft hitems
  · split
    · have hjoin := Lays.nil.join (m := "(") ⟨by decide, by decide⟩
        (hleft.join (m := ")") ⟨by decide, by decide⟩ .nil)
      simpa using hjoin
    · have hjoin := Lays.nil.join (m := "(") ⟨by decide, by decide⟩
        (hleft.join (m := " and ") ⟨by decide, by decide⟩
          (hright.join (m := ")") ⟨by decide, by decide⟩ .nil))
      simpa using hjoin

theorem forall_listItems {t : Tree} (hnil : P []) (h : t.Leaves P) : ∀ x ∈ listItems t, P x := by
  induction t with
  | absent => simp [listItems]
  | leaf text => simpa [listItems] using Tree.leaves_leaf.1 h
  | node tag l r ihl ihr =>
    obtain ⟨hl, hr⟩ := Tree.leaves_node.1 h
    intro x hx
    simp only [listItems] at hx
    split at hx
    · rw [List.mem_singleton.1 hx]
      exact hnil
    · split at hx
      · exact (List.mem_append.1 hx).elim (ihr hr x) (ihl hl x)
      · cases hx

/-- The conditions of a tree lie in pieces. -/
theorem lays_conditions (s : Sniffer) {t : Tree} (hlisted : t.Listed) (hnil : P [])
    (h : t.Leaves P) :
    Lays P (s.leftPieces t) (s.leftCondition t) ∧
      ∀ o : Operator, Lays P (s.rightPieces o t) (s.rightCondition o t) := by
  induction t with
  | absent =>
    simp only [leftPieces, leftCondition, rightPieces, rightCondition]
    exact ⟨.nil, fun _ => .nil⟩
  | leaf text =>
    have hx : P text := Tree.leaves_leaf.1 h
    simp only [leftPieces, leftCondition, rightPieces, rightCondition]
    exact ⟨lays_name hx, fun o => s.lays_value o hx⟩
  | node tag l r ihl ihr =>
    obtain ⟨hleavesl, hleavesr⟩ := Tree.leaves_node.1 h
    obtain ⟨⟨o, rfl⟩, hlistedl, hlistedr⟩ := Tree.listed_node.1 hlisted
    have hl := (ihl hlistedl hleavesl).1
    have hr := (ihr hlistedr hleavesr).2 o
    have hinner := s.lays_inner (o := o) hl hr (forall_listItems hnil hleavesr)
    simp only [leftPieces, leftCondition, rightPieces, rightCondition]
    split
    · exact ⟨lays_name hnil, fun p => s.lays_value p hnil⟩
    · exact ⟨hinner, fun _ => hinner⟩

theorem not_mem_rootJoin (o : Operator) (l r : Tree) : quote ∉ rootJoin (.op o l r) := by
  unfold rootJoin
  split
  · exact not_mem_spelled o
  · decide

/-- The predicate of a tree lies in pieces. -/
theorem lays_predicate (s : Sniffer) {o : Operator} {l r : Tree} (hlisted : (Tree.op o l r).Listed)
    (hnil : P []) (h : (Tree.op o l r).Leaves P) :
    Lays P (s.pieces (.op o l r)) (s.predicate (.op o l r)) := by
  obtain ⟨hleavesl, hleavesr⟩ := Tree.leaves_node.1 h
  obtain ⟨-, hlistedl, hlistedr⟩ := Tree.listed_node.1 hlisted
  have hl := (s.lays_conditions hlistedl hnil hleavesl).1
  have hr := (s.lays_conditions hlistedr hnil hleavesr).2 o
  have hspace : quote ∉ Text.ofString " " := by decide
  have hjoin : Between (" " ++ rootJoin (.op o l r) ++ " ") :=
    (Between.append ⟨by decide, hspace⟩ (not_mem_rootJoin o l r)).append hspace
  unfold pieces predicate
  by_cases hamong : (Tree.op o l r).tag = .op .among
  · rw [if_pos hamong, if_pos hamong]
    exact s.lays_membership hl (forall_listItems hnil hleavesr)
  · rw [if_neg hamong, if_neg hamong]
    by_cases habsent : (Tree.op o l r).right.isAbsent = true
    · rw [if_pos habsent, if_pos habsent]
      exact hl
    · rw [if_neg habsent, if_neg habsent]
      simpa [Tree.left, Tree.right, Tree.tag] using hl.join hjoin hr

end Sniffer

/-! ## What pieces say about the predicate -/

namespace Piece

variable {P : Text → Prop}

theorem Apart.of_append {ps qs : List Piece} (h : Apart (ps ++ qs)) : Apart qs := by
  induction ps with
  | nil => exact h
  | cons p ps ih => exact ih h.2

/-- What follows a leaf does not start with a quote. -/
theorem head?_writeAll_ne_quote {p : Piece} {after : List Piece} (hapart : Apart (p :: after))
    (hbetween : ∀ m, .sql m ∈ after → Between m) (hleaf : p.isSql = false) :
    (writeAll after).head? ≠ some quote := by
  cases after with
  | nil => simp [writeAll]
  | cons q after =>
    have hq : q.isSql = true := by
      rcases hapart.1 with h | h
      · rw [hleaf] at h
        cases h
      · exact h q rfl
    cases q with
    | sql m =>
      obtain ⟨hne, hquote⟩ := hbetween m (by simp)
      cases m with
      | nil => exact absurd rfl hne
      | cons b m =>
        simp only [List.mem_cons, not_or] at hquote
        simpa [writeAll, write] using Ne.symm hquote.1
    | name | quoted | bare => cases hq

/-- Emptying the literals of sound pieces empties the leaves between quotes and nothing else. -/
theorem outline_writeAll {ps : List Piece} (hapart : Apart ps)
    (hbetween : ∀ m, .sql m ∈ ps → Between m) (hsound : ∀ p ∈ ps, p.Sound) :
    outline .outside (writeAll ps) = writeAll (ps.map blank) := by
  induction ps with
  | nil => rfl
  | cons p ps ih =>
    have htail := ih hapart.2 (fun m hm => hbetween m (by simp [hm]))
      fun q hq => hsound q (by simp [hq])
    have hhead := hsound p (by simp)
    have hcons : writeAll (p :: ps) = p.write ++ writeAll ps := by simp [writeAll]
    have hafter : p.isSql = false → (writeAll ps).head? ≠ some quote :=
      head?_writeAll_ne_quote hapart fun m hm => hbetween m (by simp [hm])
    rw [hcons, List.map_cons]
    cases p with
    | sql m =>
      rw [write, Sql.outline_append (hbetween m (by simp)).2, htail]
      simp [writeAll, blank, write]
    | name x | quoted x =>
      rw [write, Sql.outline_enclose hhead (hafter rfl), htail]
      simp [writeAll, blank, write]
    | bare x =>
      rw [write, Sql.outline_append hhead, htail]
      simp [writeAll, blank, write]

end Piece

end TagFilter
