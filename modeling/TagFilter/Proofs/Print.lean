import TagFilter.Proofs.Boundary
import TagFilter.Proofs.Shape

/-!
# Printing trees

Every well-shaped tree is the tree of some text, and `Tree.print` writes one: every operand of an
operator stands in parentheses, but a path starts with its base, and words stand a blank apart.
Symbols are written as they are, operands with a backslash before each byte, so that any bytes can
be operands; an empty one is two backticks.  The names in a path get quotes first, which reading
them takes off again, so that any bytes can be names.

A printed tree is a list of marks (`Tree.marks`).  Each mark falls into one word
(`Mark.fallsInto`), and the words of the marks of a tree are a phrase with that tree
(`Shaped.printed`).
-/

namespace TagFilter

open Grammar Parsing

/-- A word of a printed tree: a symbol, an operand, or a name in a path. -/
inductive Mark where
  | symbol (o : Operator)
  | operand (text : Text)
  | name (text : Text)
  deriving DecidableEq, Repr

namespace Mark

/-- The word that a mark is read as. -/
def word : Mark → Text
  | symbol o => (Tag.op o).spelled
  | operand text => text
  | name text => byte '\'' :: text ++ [byte '\'']

/-- A text with a backslash before each byte. -/
def escape (t : Text) : Text := t.flatMap fun b => [Token.backslash, b]

/-- A mark as it is written. -/
def write : Mark → Text
  | symbol o => (Tag.op o).spelled
  | operand [] => [Token.backtick, Token.backtick]
  | operand (b :: text) => escape (b :: text)
  | name text => escape (byte '\'' :: text ++ [byte '\''])

/-- Marks in parentheses. -/
def group (marks : List Mark) : List Mark :=
  symbol .leftParen :: marks ++ [symbol .rightParen]

end Mark

namespace Tree

open Mark (group)

/-- The marks of what a path step starts from: a leaf is a name there. -/
def baseMarks (base : Tree) (marks : List Mark) : List Mark :=
  match base with
  | leaf text => [.name text]
  | _ => marks

/-- The marks of a tree. -/
def marks : Tree → List Mark
  | absent => []
  | leaf text => [.operand text]
  | op .val t _ => t.marks
  | op .not t _ => .symbol .not :: group t.marks
  | op .pos t _ => .symbol .add :: group t.marks
  | op .neg t _ => .symbol .sub :: group t.marks
  | op .is t _ => group t.marks ++ [.symbol .is, .symbol .null]
  | op .between t bounds => group t.marks ++ .symbol .between :: bounds.marks
  | op .among t items => group t.marks ++ .symbol .among :: group items.marks
  | op .list t rest =>
    group t.marks ++ if rest = absent then [] else .symbol .list :: rest.marks
  | op .member base name => baseMarks base base.marks ++ [.symbol .member, .name name.text]
  | op .subscript base i =>
    baseMarks base base.marks ++ .symbol .subscript :: group i.marks ++ [.symbol .rightBracket]
  | op o l r => group l.marks ++ .symbol o :: group r.marks
  | node _ _ _ => []

/-- A text that a well-shaped tree is the tree of. -/
def print (t : Tree) : Text := Text.join " " (t.marks.map Mark.write)

end Tree

/-! ## Words -/

/-- A text falls into words. -/
def FallsInto (t : Text) (words : List Text) : Prop :=
  ∃ tokens, tokenize t = .ok tokens ∧ tokens.map Token.text = words

theorem fallsInto_nil : FallsInto [] [] := ⟨[], Scan.tokens_of_done rfl, rfl⟩

/-- Texts a blank apart fall into the words of both. -/
theorem FallsInto.append {s t : Text} {us vs : List Text} (hs : FallsInto s us)
    (ht : FallsInto t vs) : FallsInto (s ++ " " ++ t) (us ++ vs) := by
  obtain ⟨ts, hts, rfl⟩ := hs
  obtain ⟨ts', hts', rfl⟩ := ht
  have hblank : Token.Blank " " := by
    intro b hb
    rw [List.mem_singleton.1 hb]
    rfl
  have hseparate : Token.Separate (" " ++ t) := by
    rintro b ⟨⟩
    exact .inl rfl
  refine ⟨ts ++ (ts'.map (Token.shift 1)).map (Token.shift s.length), ?_, ?_⟩
  · rw [List.append_assoc, tokenize_separate hts hseparate, tokenize_blank hblank, hts']
    rfl
  · simp [Function.comp_def, Token.shift]

/-- Texts that are one word each, with blanks between them, fall into these words. -/
theorem fallsInto_join {α : Type} {write word : α → Text} {parts : List α}
    (h : ∀ a ∈ parts, FallsInto (write a) [word a]) :
    FallsInto (Text.join " " (parts.map write)) (parts.map word) := by
  induction parts with
  | nil => exact fallsInto_nil
  | cons a parts ih =>
    rw [List.forall_mem_cons] at h
    cases parts with
    | nil => exact h.1
    | cons => exact h.1.append (ih h.2)

theorem Token.word_escaped (p : Token.Pending) (t : Text) :
    Token.word p (Mark.escape t) = some (t, []) := by
  induction t generalizing p with
  | nil => rfl
  | cons b t ih =>
    show Token.word p (Token.backslash :: b :: Mark.escape t) = _
    rw [Token.word_escape, ih]
    rfl

theorem fallsInto_escape (b : UInt8) (t : Text) : FallsInto (Mark.escape (b :: t)) [b :: t] := by
  have hread : Token.read Token.backslash (b :: Mark.escape t) = .ok (b :: t, []) :=
    Token.read_of_word (by decide) (Token.word_escaped .nothing (b :: t))
  exact ⟨_, Scan.tokens_of_read rfl hread, rfl⟩

theorem fallsInto_symbol (o : Operator) : FallsInto (Tag.op o).spelled [(Tag.op o).spelled] := by
  have h : tokenize (Tag.op o).spelled = .ok [⟨(Tag.op o).spelled, (Tag.op o).spelled.length⟩] := by
    cases o <;> decide +kernel
  exact ⟨_, h, rfl⟩

theorem Mark.fallsInto (m : Mark) : FallsInto m.write [m.word] := by
  cases m with
  | symbol o => exact fallsInto_symbol o
  | operand text =>
    cases text with
    | nil => exact ⟨[⟨[], 2⟩], by decide +kernel, rfl⟩
    | cons b text => exact fallsInto_escape b text
  | name text => exact fallsInto_escape (byte '\'') (text ++ [byte '\''])

/-- Written marks fall into their words. -/
theorem fallsInto_marks (marks : List Mark) :
    FallsInto (Text.join " " (marks.map Mark.write)) (marks.map Mark.word) :=
  fallsInto_join fun m _ => m.fallsInto

/-! ## Phrases -/

theorem means_symbol {o : Operator} (h : o.symbol?.isSome = true) :
    Means (Mark.symbol o).word o := by
  revert h
  cases o <;> decide +kernel

theorem isQuoted_name (text : Text) : isQuoted (Mark.name text).word = true := rfl

theorem nameWord_name (text : Text) : NameWord (Mark.name text).word :=
  ⟨ofSpelling?_of_isQuoted (isQuoted_name text), by simp [isName, isQuoted_name]⟩

theorem unquote_name (text : Text) : unquote (Mark.name text).word = text := by
  simp [unquote, Mark.word, isQuoted]

theorem derives_leaf {text : Text} (h : Operator.ofSpelling? text = none ∨ Means text .null) :
    Derives .operand [text] (.leaf text) := by
  rcases h with h | h
  · cases hname : isName text with
    | true => exact .path (.name ⟨h, hname⟩)
    | false => exact .number ⟨h, hname⟩
  · exact .null h

/-- A phrase in parentheses stands wherever an operand does. -/
theorem derives_group {k : Tier} (hk : k.rank ≤ Tier.operand.rank) {marks : List Mark} {t : Tree}
    (h : Derives .disjunction (marks.map Mark.word) t) :
    Derives k ((Mark.group marks).map Mark.word) t := by
  have hgroup := Derives.group (means_symbol (o := .leftParen) rfl) h
    (means_symbol (o := .rightParen) rfl)
  rw [Mark.group, List.map_append, List.map_cons]
  exact hgroup.loosen (by decide) hk

/-- Groups with an operator between them are a phrase, whatever tier the operator is of. -/
theorem derives_inner {o : Operator} (ho : o.isInner = true) {ls rs : List Mark} {l r : Tree}
    (hl : Derives .disjunction (ls.map Mark.word) l)
    (hr : Derives .disjunction (rs.map Mark.word) r) :
    Derives .disjunction ((Mark.group ls ++ .symbol o :: Mark.group rs).map Mark.word)
      (.op o l r) := by
  have hw : Means (Mark.symbol o).word o :=
    means_symbol (by cases o <;> first | rfl | cases ho)
  rw [List.map_append, List.map_cons]
  simp only [Operator.isInner, Bool.or_eq_true, decide_eq_true_eq] at ho
  rcases ho with ((((rfl | rfl) | ho) | ho) | ho) | rfl
  · exact .conjunction (.and (derives_group (by decide) hl) hw (derives_group (by decide) hr))
  · exact .or (derives_group (by decide) hl) hw (derives_group (by decide) hr)
  · have h : Derives .comparison _ (.op o l r) :=
      .compare (derives_group (by decide) hl) (.plain hw) ho (derives_group (by decide) hr)
    rw [List.append_assoc] at h
    exact h.loosen (by decide) (by decide)
  · have h := Derives.add (derives_group (by decide) hl) hw ho (derives_group (by decide) hr)
    exact h.loosen (by decide) (by decide)
  · have h := Derives.mul (derives_group (by decide) hl) hw ho (derives_group (by decide) hr)
    exact h.loosen (by decide) (by decide)
  · have h := Derives.exp (derives_group (by decide) hl) hw (derives_group (by decide) hr)
    exact h.loosen (by decide) (by decide)

theorem marks_inner {o : Operator} (ho : o.isInner = true) (l r : Tree) :
    (Tree.op o l r).marks = Mark.group l.marks ++ .symbol o :: Mark.group r.marks := by
  cases o <;> first | rfl | cases ho

/-- The marks of a tree are a phrase of the part with that tree; at the start of a path, one that
becomes the tree when quotes are taken off. -/
def Part.Printed : Part → Tree → Prop
  | .phrase, t => Derives .disjunction (t.marks.map Mark.word) t
  | .path, t => Derives .path (t.marks.map Mark.word) t
  | .base, t => ∃ u, Derives .path ((t.baseMarks t.marks).map Mark.word) u ∧ pathBase u = t
  | .cells, t => Derives .items (t.marks.map Mark.word) t

theorem Shaped.printed {part : Part} {t : Tree} (h : Shaped part t) : part.Printed t := by
  induction h with
  | leaf htext => exact (derives_leaf htext).loosen (by decide) (by decide)
  | inner ho _ _ ihl ihr =>
    rw [Part.Printed, marks_inner ho]
    exact derives_inner ho ihl ihr
  | unary ho _ ih =>
    rcases ho with rfl | rfl | rfl
    · have h := Derives.not (means_symbol (o := .not) rfl) (derives_group (by decide) ih)
      exact h.loosen (by decide) (by decide)
    · have h := Derives.pos (means_symbol (o := .add) rfl) (derives_group (by decide) ih)
      exact h.loosen (by decide) (by decide)
    · have h := Derives.neg (means_symbol (o := .sub) rfl) (derives_group (by decide) ih)
      exact h.loosen (by decide) (by decide)
  | isNull _ ih =>
    have h := Derives.isNull (derives_group (by decide) ih) (means_symbol (o := .is) rfl)
      (means_symbol (o := .null) rfl)
    have hloose := h.loosen (i := .disjunction) (by decide) (by decide)
    simpa [Part.Printed, Tree.marks] using hloose
  | @between t low high _ _ _ ih ihlow ihhigh =>
    have h : Derives .comparison _ (.op .between t (.op .and low high)) :=
      .between (derives_group (by decide) ih) (.plain (means_symbol (o := .between) rfl))
        (derives_group (by decide) ihlow) (means_symbol (o := .and) rfl)
        (derives_group (by decide) ihhigh)
    have hloose := h.loosen (i := .disjunction) (by decide) (by decide)
    simpa [Part.Printed, Tree.marks] using hloose
  | @among t items _ _ ih ihitems =>
    have h : Derives .comparison _ (.op .among t items) :=
      .among (derives_group (by decide) ih) (.plain (means_symbol (o := .among) rfl))
        (means_symbol (o := .leftParen) rfl) ihitems (means_symbol (o := .rightParen) rfl)
    have hloose := h.loosen (i := .disjunction) (by decide) (by decide)
    simpa [Part.Printed, Tree.marks, Mark.group] using hloose
  | path _ ih => exact ih.loosen (by decide) (by decide)
  | @member _ text _ ih =>
    obtain ⟨u, hu, rfl⟩ := ih
    have h := hu.member (means_symbol (o := .member) rfl) (nameWord_name text)
    rw [unquote_name] at h
    simpa [Part.Printed, Tree.marks, Tree.text] using h
  | subscript _ _ ih ihi =>
    obtain ⟨u, hu, rfl⟩ := ih
    have h := hu.subscript (means_symbol (o := .subscript) rfl) (derives_group (by decide) ihi)
      (means_symbol (o := .rightBracket) rfl)
    simpa [Part.Printed, Tree.marks] using h
  | start => exact ⟨_, .name (nameWord_name _), by rw [pathBase, unquote_name]⟩
  | further h ih => cases h <;> exact ⟨_, ih, rfl⟩
  | last _ ih =>
    have h := Derives.last (derives_group (by decide) ih)
    simpa [Part.Printed, Tree.marks] using h
  | @cell _ rest _ hrest ih ihrest =>
    have h := Derives.comma (derives_group (by decide) ih) (means_symbol (o := .list) rfl) ihrest
    have hne : rest ≠ .absent := by cases hrest <;> simp
    simpa [Part.Printed, Tree.marks, hne] using h

/-- The text that a well-shaped tree is printed as has that tree. -/
theorem compile_print {t : Tree} (h : WellShaped t) : compile t.print = .ok t := by
  obtain ⟨tokens, htokens, hwords⟩ := fallsInto_marks t.marks
  refine compile_eq_ok_iff.2 ?_
  cases h with
  | @value text h => exact ⟨tokens, .leaf text, htokens, hwords ▸ h.printed, rfl⟩
  | @phrase o l r h => exact ⟨tokens, .op o l r, htokens, hwords ▸ h.printed, h.wrapLeaf_op⟩

/-- A tree with a keyword and nothing as names, and with a quote, a parenthesis and nothing as
operands. -/
theorem compile_print_escapes :
    let path : Tree := .op .subscript (.op .member (.leaf "") (.leaf "and"))
      (.op .neg (.leaf "1") .absent)
    let t : Tree := .op .or
      (.op .not (.op .between path (.op .and (.leaf "NULL") (.leaf ""))) .absent)
      (.op .among (.leaf "'") (.op .list (.leaf "( ") (.op .list path .absent)))
    WellShaped t ∧ compile t.print = .ok t := by
  intro path t
  have hleaf : ∀ x, Operator.ofSpelling? x = none → Shaped .phrase (.leaf x) := fun x hx =>
    .leaf (.inl hx)
  have hpath : Shaped .phrase path :=
    .path (.subscript (.further (.member .start))
      (.unary (by decide) (hleaf "1" (by decide +kernel))))
  have hnull : Shaped .phrase (.leaf "NULL") := .leaf (.inr (by decide +kernel))
  have hbetween := Shaped.between hpath hnull (hleaf "" (by decide +kernel))
  have hamong := Shaped.among (hleaf "'" (by decide +kernel))
    (.cell (hleaf "( " (by decide +kernel)) (.last hpath))
  have h : WellShaped t := .phrase (.inner rfl (.unary (by decide) hbetween) hamong)
  exact ⟨h, compile_print h⟩

end TagFilter
