import TagFilter.Text.Basic

/-!
# Tokens

A filter expression falls into tokens: quoted literals, words and symbols, with blanks between
them.  `Scan.next` reads one token off a scan, which knows how many bytes it has read and what is
left; every token it reads makes the rest shorter (`Scan.rest_next`), so `tokenize` ends.

A word ends at a blank, at a delimiter, at a star or bar, and at a dot unless the dot is a decimal
point.  Whether it is depends on what the word holds so far, of which only three cases matter:
nothing, a whole number, or something else (`Pending`).
-/

namespace TagFilter

/-- A piece of an expression: its text without escapes and the offset just after it. -/
structure Token where
  text : Text
  stop : Nat
  deriving DecidableEq, Repr

/-- Why a text does not fall into tokens. -/
inductive LexCause where
  | unclosedQuote (quote : UInt8)
  | nothingEscaped
  deriving DecidableEq, Repr

/-- A cause with the offset where scanning stopped. -/
structure LexError where
  pos : Nat
  cause : LexCause
  deriving DecidableEq, Repr

/-- The cause in words. -/
def LexCause.message : LexCause → Text
  | unclosedQuote quote => "missing closing quote (" ++ [quote] ++ ")"
  | nothingEscaped => "missing escaped character"

/-- The cause in words, with the offset. -/
def LexError.message (e : LexError) : Text :=
  "lexer error at offset " ++ Text.ofNat e.pos ++ ": " ++ e.cause.message

namespace Token

/-! ## Classes of bytes -/

/-- The bytes that separate tokens. -/
def isSpace (b : UInt8) : Bool :=
  b == byte ' ' || b == byte '\t' || b == byte '\n' || b == byte '\r' || b == 12

/-- The bytes that are tokens of their own and end a word. -/
def isDelimiter (b : UInt8) : Bool :=
  b == byte '"' || b == byte '\'' || b == byte ',' || b == byte '(' || b == byte ')' ||
    b == byte '[' || b == byte ']' || b == byte '&' || b == byte '/' || b == byte '+' ||
    b == byte '-'

/-- The bytes that make one token when doubled and end a word. -/
def isDoubling (b : UInt8) : Bool := b == byte '*' || b == byte '|'

/-- The byte that takes the next byte literally. -/
def backslash : UInt8 := byte '\\'

/-- The byte that separates members and whole from fractional digits. -/
def dot : UInt8 := byte '.'

/-- The byte around literals that drop their quotes. -/
def backtick : UInt8 := 96

/-! ## Quoted literals -/

/-- Puts a byte in front of the text that was read. -/
def prepend (b : UInt8) (r : Option (Text × Text)) : Option (Text × Text) :=
  r.map fun (text, rest) => (b :: text, rest)

@[simp]
theorem prepend_eq_some {b : UInt8} {r : Option (Text × Text)} {text rest : Text} :
    prepend b r = some (text, rest) ↔ ∃ inner, r = some (inner, rest) ∧ text = b :: inner := by
  cases r with
  | none => simp [prepend]
  | some p => cases p; grind [prepend]

/-- Reads up to the closing quote: the text before it and the rest after it.  A backslash makes a
quote after it literal and otherwise stands for itself. -/
def quoted (quote : UInt8) : Text → Option (Text × Text)
  | [] => none
  | b :: rest =>
    if b = quote then some ([], rest)
    else if b = backslash ∧ rest.head? = some quote then
      match rest with
      | c :: rest => prepend c (quoted quote rest)
      | [] => none
    else prepend b (quoted quote rest)

theorem quoted_close (q : UInt8) (t : Text) : quoted q (q :: t) = some ([], t) := by
  rw [quoted.eq_def]
  exact if_pos rfl

theorem quoted_escaped {q : UInt8} (hq : backslash ≠ q) (t : Text) :
    quoted q (backslash :: q :: t) = prepend q (quoted q t) := by
  rw [quoted.eq_def]
  simp [hq]

theorem quoted_plain {q b : UInt8} {t : Text} (hb : b ≠ q)
    (h : ¬ (b = backslash ∧ t.head? = some q)) :
    quoted q (b :: t) = prepend b (quoted q t) := by
  rw [quoted.eq_def]
  simp only [if_neg hb, if_neg h]

/-! ## Words and symbols -/

/-- What a word holds so far: nothing, a whole number with an optional sign, or something else. -/
inductive Pending where
  | nothing
  | number
  | other
  deriving DecidableEq, Repr

/-- What a word holds after one more byte. -/
def Pending.push (p : Pending) (b : UInt8) : Pending :=
  match p with
  | .nothing => if Text.isDigitByte b || b == byte '+' || b == byte '-' then .number else .other
  | .number => if Text.isDigitByte b then .number else .other
  | .other => .other

theorem push_ne_nothing (p : Pending) (b : UInt8) : p.push b ≠ .nothing := by
  unfold Pending.push
  grind

/-- Whether the text starts with a digit. -/
def startsWithDigit : Text → Bool
  | b :: _ => Text.isDigitByte b
  | [] => false

/-- What the next byte does to a word. -/
inductive Move where
  /-- The word ends before the byte. -/
  | stop
  /-- The byte is the whole word. -/
  | symbol
  /-- The byte and its twin after it are the whole word. -/
  | twin
  /-- The byte makes the next one literal. -/
  | escape
  /-- The byte belongs to the word. -/
  | take
  deriving DecidableEq, Repr

/-- What byte `b`, with `rest` after it, does to a word that holds `p`. -/
def move (p : Pending) (b : UInt8) (rest : Text) : Move :=
  if isSpace b then .stop
  else if isDelimiter b then if p = .nothing then .symbol else .stop
  else if isDoubling b then
    if p = .nothing then if rest.head? = some b then .twin else .symbol else .stop
  else if b = backslash then .escape
  else if b = dot then
    match p with
    | .nothing => if startsWithDigit rest then .take else .symbol
    | .number => .take
    | .other => .stop
  else .take

theorem move_eq_escape_iff {p : Pending} {b : UInt8} {rest : Text} :
    move p b rest = .escape ↔ b = backslash := by
  constructor
  · intro h
    unfold move at h
    grind
  · rintro rfl
    rfl

/-- Reads the remainder of a word that holds `p`: its text and the rest.  It fails only at a
backslash that ends the input. -/
def word (p : Pending) : Text → Option (Text × Text)
  | [] => some ([], [])
  | b :: rest =>
    match move p b rest with
    | .stop => some ([], b :: rest)
    | .symbol => some ([b], rest)
    | .twin => some ([b, b], rest.tail)
    | .take => prepend b (word (p.push b) rest)
    | .escape =>
      match rest with
      | [] => none
      | c :: rest => prepend c (word (p.push c) rest)

theorem word_stop {p : Pending} {b : UInt8} {t : Text} (h : move p b t = .stop) :
    word p (b :: t) = some ([], b :: t) := by
  rw [word.eq_def]
  simp only [h]

theorem word_symbol {p : Pending} {b : UInt8} {t : Text} (h : move p b t = .symbol) :
    word p (b :: t) = some ([b], t) := by
  rw [word.eq_def]
  simp only [h]

theorem word_twin {p : Pending} {b : UInt8} {t : Text} (h : move p b t = .twin) :
    word p (b :: t) = some ([b, b], t.tail) := by
  rw [word.eq_def]
  simp only [h]

theorem word_take {p : Pending} {b : UInt8} {t : Text} (h : move p b t = .take) :
    word p (b :: t) = prepend b (word (p.push b) t) := by
  rw [word.eq_def]
  simp only [h]

theorem word_escape (p : Pending) (c : UInt8) (t : Text) :
    word p (backslash :: c :: t) = prepend c (word (p.push c) t) := by
  rw [word.eq_def]
  simp only [move_eq_escape_iff.2]

/-! ## One token -/

/-- The text without the separators in front. -/
def skipSpaces (t : Text) : Text := t.dropWhile isSpace

/-- Reads one token at a byte that separates nothing: its text and the rest. -/
def read (b : UInt8) (rest : Text) : Except LexCause (Text × Text) :=
  if b = byte '"' ∨ b = byte '\'' then
    match quoted b rest with
    | some (inner, rest) => .ok (b :: inner ++ [b], rest)
    | none => .error (.unclosedQuote b)
  else if b = backtick then
    match quoted b rest with
    | some (inner, rest) => .ok (inner, rest)
    | none => .error (.unclosedQuote b)
  else
    match word .nothing (b :: rest) with
    | some r => .ok r
    | none => .error .nothingEscaped

theorem quoted_length {quote : UInt8} {t inner rest : Text}
    (h : quoted quote t = some (inner, rest)) : rest.length < t.length := by
  fun_induction quoted quote t generalizing inner rest with
  | case1 => simp at h
  | case2 => simp_all
  | case3 b _ c r _ ih =>
    obtain ⟨_, h, _⟩ := prepend_eq_some.1 h
    have := ih h
    simp only [List.length_cons]
    omega
  | case4 => simp at h
  | case5 b r _ _ ih =>
    obtain ⟨_, h, _⟩ := prepend_eq_some.1 h
    have := ih h
    simp only [List.length_cons]
    omega

theorem word_length {p : Pending} {t text rest : Text} (h : word p t = some (text, rest)) :
    rest.length ≤ t.length := by
  fun_induction word p t generalizing text rest <;>
    simp only [prepend_eq_some, Option.some.injEq, Prod.mk.injEq, reduceCtorEq] at h <;> grind

theorem move_nothing_ne_stop {b : UInt8} {rest : Text} (hb : isSpace b = false) :
    move .nothing b rest ≠ .stop := by
  unfold move
  grind

theorem word_nothing_length {b : UInt8} {t text rest : Text} (hb : isSpace b = false)
    (h : word .nothing (b :: t) = some (text, rest)) : rest.length ≤ t.length := by
  unfold word at h
  (repeat' split at h) <;>
    simp only [prepend_eq_some, Option.some.injEq, Prod.mk.injEq, reduceCtorEq] at h <;>
    grind [→ word_length, move_nothing_ne_stop]

theorem read_length {b : UInt8} {t text rest : Text} (hb : isSpace b = false)
    (h : read b t = .ok (text, rest)) : rest.length ≤ t.length := by
  unfold read at h
  split at h
  · split at h
    next hq => cases h; exact Nat.le_of_lt (quoted_length hq)
    · cases h
  · split at h
    · split at h
      next hq => cases h; exact Nat.le_of_lt (quoted_length hq)
      · cases h
    · split at h
      next hw => cases h; exact word_nothing_length hb hw
      · cases h

end Token

/-! ## Scans -/

/-- A scan in progress: how many bytes it has read and which are left. -/
structure Scan where
  pos : Nat
  rest : Text
  deriving DecidableEq, Repr

namespace Scan

/-- The scan of a whole text. -/
def start (t : Text) : Scan := ⟨0, t⟩

/-- What asking a scan for its next token brings. -/
inductive Step where
  | token (t : Token) (after : Scan)
  | done
  | failed (e : LexError) (after : Scan)
  deriving Repr

/-- Asks a scan for its next token.  After a failure nothing is left. -/
def next (s : Scan) : Step :=
  match Token.skipSpaces s.rest with
  | [] => .done
  | b :: rest =>
    match Token.read b rest with
    | .ok (text, left) =>
      let pos := s.pos + (s.rest.length - left.length)
      .token ⟨text, pos⟩ ⟨pos, left⟩
    | .error cause =>
      let pos := s.pos + s.rest.length
      .failed ⟨pos, cause⟩ ⟨pos, []⟩

theorem isSpace_of_skipSpaces {t rest : Text} {b : UInt8}
    (h : Token.skipSpaces t = b :: rest) : Token.isSpace b = false := by
  induction t with
  | nil => simp [Token.skipSpaces] at h
  | cons a t ih =>
    by_cases ha : Token.isSpace a = true
    · simp only [Token.skipSpaces, List.dropWhile_cons, ha, if_true] at h
      exact ih h
    · simp only [Token.skipSpaces, List.dropWhile_cons, ha] at h
      simp_all

theorem skipSpaces_length (t : Text) : (Token.skipSpaces t).length ≤ t.length :=
  (List.dropWhile_sublist _).length_le

/-- A token is read at the first byte that is no blank. -/
theorem read_of_next {s after : Scan} {t : Token} (h : s.next = .token t after) :
    ∃ b rest, Token.skipSpaces s.rest = b :: rest ∧ Token.isSpace b = false ∧
      Token.read b rest = .ok (t.text, after.rest) ∧ t.stop = after.pos ∧
      after.pos = s.pos + (s.rest.length - after.rest.length) := by
  unfold next at h
  split at h
  · cases h
  next b rest hskip =>
    split at h
    next text left hread =>
      cases h
      exact ⟨b, rest, hskip, isSpace_of_skipSpaces hskip, hread, rfl, rfl⟩
    · cases h

/-- A token leaves less to read. -/
theorem rest_next {s after : Scan} {t : Token} (h : s.next = .token t after) :
    after.rest.length < s.rest.length := by
  obtain ⟨b, rest, hskip, hb, hread, -⟩ := read_of_next h
  have h₁ := Token.read_length hb hread
  have h₂ := skipSpaces_length s.rest
  rw [hskip, List.length_cons] at h₂
  omega

/-- The tokens left in a scan. -/
def tokens (s : Scan) : Except LexError (List Token) :=
  match _h : s.next with
  | .done => .ok []
  | .failed e _ => .error e
  | .token t after =>
    match after.tokens with
    | .ok ts => .ok (t :: ts)
    | .error e => .error e
termination_by s.rest.length
decreasing_by exact rest_next _h

theorem tokens_of_done {s : Scan} (h : s.next = .done) : s.tokens = .ok [] := by
  unfold tokens
  split <;> simp_all

theorem tokens_of_failed {s after : Scan} {e : LexError} (h : s.next = .failed e after) :
    s.tokens = .error e := by
  unfold tokens
  split <;> simp_all

theorem tokens_of_token {s after : Scan} {t : Token} (h : s.next = .token t after) :
    s.tokens = after.tokens.map (t :: ·) := by
  rw [tokens]
  split
  · simp_all
  · simp_all
  next t' after' h' =>
    rw [h] at h'
    cases h'
    cases after.tokens <;> rfl

/-- What `n` requests for a token bring, one after the other, whatever the earlier ones brought. -/
def steps : Nat → Scan → List Step
  | 0, _ => []
  | n + 1, s =>
    let step := s.next
    let after := match step with
      | .token _ after => after
      | .failed _ after => after
      | .done => ⟨s.pos + s.rest.length, []⟩
    step :: steps n after

end Scan

/-- The tokens of a text. -/
def tokenize (t : Text) : Except LexError (List Token) := (Scan.start t).tokens

end TagFilter
