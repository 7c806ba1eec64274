import TagFilter.Sql.Expr
import TagFilter.Sql.Literal
import TagFilter.Sql.Rest

/-!
# Reading expressions

`readExpr` reads an expression from the tokens of a statement.  Operators bind by levels: one on the
right of an operand takes it as long as its level is at least the one asked for, and what stands on
its own right is read at the level above its own, so that operators of a level group from the left.

The token that a problem names is the first one that cannot stand where it does; a statement that
ends too early is incomplete.
-/

namespace TagFilter.Sql

/-! ## Operators -/

/-- What can stand behind an operand and go on with it. -/
inductive Connective where
  | or
  | and
  | compare (c : Comparison)
  | is
  | pattern (function : Text)
  | between
  | among
  | absent
  | present
  | bitwise (o : Bitwise)
  | arithmetic (o : Arithmetic)
  | remainder
  | concat
  | collate
  deriving DecidableEq, Repr

/-- The level of `or`, the loosest one. -/
def orLevel : Nat := 1

/-- The level of `and`. -/
def andLevel : Nat := 2

/-- The level of `not` in front of an operand, and of the operators that begin with it. -/
def notLevel : Nat := 3

/-- The level of a sign in front of an operand, the tightest one. -/
def signLevel : Nat := 11

/-- How tightly an operator binds. -/
def Connective.level : Connective → Nat
  | or => orLevel
  | and => andLevel
  | compare .eq | compare .ne | is | pattern _ | between | among | absent | present => 4
  | compare _ => 5
  | bitwise _ => 6
  | arithmetic .add | arithmetic .sub => 7
  | arithmetic _ | remainder => 8
  | concat => 9
  | collate => 10

/-- Whether `not` can stand in front of an operator. -/
def Connective.isNegatable : Connective → Bool
  | pattern _ | between | among => true
  | _ => false

/-- The operators that are symbols. -/
def symbolConnectives : List (String × Connective) :=
  [("=", .compare .eq), ("==", .compare .eq), ("!=", .compare .ne), ("<>", .compare .ne),
   ("<", .compare .lt), ("<=", .compare .le), (">", .compare .gt), (">=", .compare .ge),
   ("&", .bitwise .and), ("|", .bitwise .or), ("<<", .bitwise .shiftLeft),
   (">>", .bitwise .shiftRight), ("+", .arithmetic .add), ("-", .arithmetic .sub),
   ("*", .arithmetic .mul), ("/", .arithmetic .div), ("%", .remainder), ("||", .concat)]

/-- The operators that are words. -/
def wordConnectives : List (String × Connective) :=
  [("or", .or), ("and", .and), ("is", .is), ("between", .between), ("in", .among),
   ("isnull", .absent), ("notnull", .present), ("collate", .collate)]

/-- The words between a text and a pattern. -/
def patternWords : List String := ["like", "glob", "regexp", "match"]

/-- The operator that a token is. -/
def connectiveOf? (t : Token) : Option Connective :=
  match t.lexeme with
  | .symbol s => (symbolConnectives.find? fun p => Text.ofString p.1 == s).map Prod.snd
  | .word w =>
    if Token.isOneOf w patternWords then some (.pattern w)
    else (wordConnectives.find? fun p => Text.ofString p.1 == w.folded).map Prod.snd
  | _ => none

/-- An operator in a statement: whether it is negated, its level here, and what follows it. -/
structure Found where
  connective : Connective
  negated : Bool
  level : Nat
  after : Rest

/-- The operator that comes next, if one does. -/
def connective? (r : Rest) : Option Found :=
  if r.atWord "not" then
    if r.next.atWord "null" then some ⟨.present, false, notLevel, r.next.next⟩
    else do
      let c ← r.next.tokens.head?.bind connectiveOf?
      if c.isNegatable then some ⟨c, true, notLevel, r.next.next⟩ else none
  else (r.tokens.head?.bind connectiveOf?).map fun c => ⟨c, false, c.level, r.next⟩

/-- An expression, negated or not. -/
def turned (negated : Bool) (e : Expr) : Expr := if negated then .not e else e

/-! ## Expressions -/

/-- The words for the present. -/
def clocks : List (String × Clock) :=
  [("current_date", .date), ("current_time", .time), ("current_timestamp", .timestamp)]

/-- The word for the present that comes next. -/
def clock? (r : Rest) : Option Clock := (clocks.find? fun p => r.atWord p.1).map Prod.snd

/-- The token that can be a name and starts the rest: the name, and how it is written. -/
def nameHead? (r : Rest) : Option Name :=
  match r.tokens with
  | ⟨.word w, _, _⟩ :: _ => if Token.isOneOf w Token.keywords then none else some { column := w }
  | ⟨.quotedName t double, _, _⟩ :: _ => some { column := t, quoted := true, double }
  | ⟨.text t, _, _⟩ :: _ => if r.next.atSymbol "." then some { column := t } else none
  | _ => none

/-- Reads the parts of a name behind its first one: up to two more. -/
def readPath (first : Name) (r : Rest) : Except Problem (Expr × Rest) := do
  if r.atSymbol "." then
    let (second, r) ← r.next.name
    if r.atSymbol "." then
      let (third, r) ← r.next.name
      return (.name { path := [first.column, second], column := third }, r)
    else return (.name { path := [first.column], column := second }, r)
  else return (.name first, r)

/-- Reads the number in the name of a type. -/
def readTypeNumber (r : Rest) : Except Problem Rest :=
  let r := if r.atSymbol "-" || r.atSymbol "+" then r.next else r
  match r.tokens with
  | ⟨.number _, _, _⟩ :: _ => .ok r.next
  | _ => .error r.problem

/-- Reads the words in the name of a type. -/
def readTypeWords (fuel : Nat) (r : Rest) : Text × Rest :=
  match fuel, r.name with
  | fuel + 1, .ok (w, r) =>
    let (more, r) := readTypeWords fuel r
    (w ++ " " ++ more, r)
  | _, _ => ([], r)

/-- Reads the name of a type: any number of words and, behind one, up to two numbers in parentheses.
-/
def readType (r : Rest) : Except Problem (Text × Rest) := do
  let (words, r) := readTypeWords r.tokens.length r
  if !words.isEmpty && r.atSymbol "(" then
    let r ← readTypeNumber r.next
    let r ← if r.atSymbol "," then readTypeNumber r.next else pure r
    return (words, ← r.symbol ")")
  else return (words, r)

/-- Reads the name of a table, which may have the name of its schema in front. -/
def readTable (r : Rest) : Except Problem (Text × Rest) := do
  let (first, r) ← r.name
  if r.atSymbol "." then
    let (second, r) ← r.next.name
    return (if Token.isOneOf first ["main"] then second else first ++ "." ++ second, r)
  else return (first, r)

/-- Moves past an opening parenthesis in front of an expression.  A statement cannot stand there:
what follows its first word is then the problem. -/
def openExpr (r : Rest) : Except Problem Rest := do
  let r ← r.symbol "("
  if r.atWord "select" || r.atWord "values" || r.atWord "with" then throw r.next.problem
  else return r

/-- Whether the next token is the literal whose negative is the least integer; it stands for no
integer itself. -/
def isLeastInteger (r : Rest) : Bool :=
  match r.tokens with
  | ⟨.number t, _, _⟩ :: _ => t.all Text.isDigitByte && Text.digitsValue t == Text.int64Bound
  | _ => false

mutual

/-- Reads an expression whose operators have at least a level.  If `beforeAnd` is set, it ends
before an `and`. -/
def readExpr (fuel : Nat) (least : Nat) (beforeAnd : Bool) (r : Rest) :
    Except Problem (Expr × Rest) := do
  match fuel with
  | 0 => throw r.problem
  | fuel + 1 =>
    let (e, r) ← readOperand fuel r
    readMore fuel least beforeAnd e r

/-- Goes on with an expression as long as operators of at least a level follow. -/
def readMore (fuel : Nat) (least : Nat) (beforeAnd : Bool) (e : Expr) (r : Rest) :
    Except Problem (Expr × Rest) := do
  match fuel with
  | 0 => throw r.problem
  | fuel + 1 =>
    match connective? r with
    | some f =>
      if f.level < least || (beforeAnd && f.connective == .and) then return (e, r)
      else
        let (e, r) ← readSide fuel f e
        readMore fuel least beforeAnd e r
    | none => if r.atWord "not" && least ≤ notLevel then throw r.next.problem else return (e, r)

/-- Reads what an operator takes on its right. -/
def readSide (fuel : Nat) (f : Found) (e : Expr) : Except Problem (Expr × Rest) := do
  match fuel with
  | 0 => throw f.after.problem
  | fuel + 1 =>
    let r := f.after
    let side (r : Rest) := readExpr fuel (f.connective.level + 1) false r
    match f.connective with
    | .or => do let (b, r) ← side r; return (.or e b, r)
    | .and => do let (b, r) ← side r; return (.and e b, r)
    | .compare c => do let (b, r) ← side r; return (.compare c e b, r)
    | .bitwise o => do let (b, r) ← side r; return (.bitwise o e b, r)
    | .arithmetic o => do let (b, r) ← side r; return (.arithmetic o e b, r)
    | .remainder => do let (b, r) ← side r; return (.remainder e b, r)
    | .concat => do let (b, r) ← side r; return (.concat e b, r)
    | .absent => return (.same e (.datum .null), r)
    | .present => return (.not (.same e (.datum .null)), r)
    | .collate => do let (name, r) ← r.name; return (.collate e name, r)
    | .is =>
      let negated := r.atWord "not"
      let r := if negated then r.next else r
      let distinct := r.atWord "distinct"
      let r ← if distinct then r.next.word "from" else pure r
      let (b, r) ← side r
      return (turned (negated != distinct) (.same e b), r)
    | .pattern function =>
      let (p, r) ← side r
      let (escape, r) ←
        if r.atWord "escape" then do let (x, r) ← side r.next; pure ([x], r) else pure ([], r)
      return (turned f.negated (.call function (p :: e :: escape)), r)
    | .between =>
      let (low, r) ← readExpr fuel orLevel true r
      let (high, r) ← side (← r.word "and")
      return (turned f.negated (.and (.compare .ge e low) (.compare .le e high)), r)
    | .among =>
      let (items, r) ←
        if r.atSymbol "(" then readItems fuel (← openExpr r)
        else do
          let (table, r) ← readTable r
          let (_, r) ← if r.atSymbol "(" then readItems fuel r.next else pure ([], r)
          pure ([.table table], r)
      return (turned f.negated (.among e items), r)

/-- Reads the items of a list, of which there may be none, up to its closing parenthesis. -/
def readItems (fuel : Nat) (r : Rest) : Except Problem (List Expr × Rest) := do
  match fuel with
  | 0 => throw r.problem
  | fuel + 1 => if r.atSymbol ")" then return ([], r.next) else readSomeItems fuel r

/-- Reads one item of a list or more, up to its closing parenthesis. -/
def readSomeItems (fuel : Nat) (r : Rest) : Except Problem (List Expr × Rest) := do
  match fuel with
  | 0 => throw r.problem
  | fuel + 1 =>
    let (e, r) ← readExpr fuel orLevel false r
    if r.atSymbol "," then
      let (es, r) ← readSomeItems fuel r.next
      return (e :: es, r)
    else return ([e], ← r.symbol ")")

/-- Reads the branches of a choice up to its end.  With `subject?`, a branch is taken if that equals
what stands behind `when`. -/
def readBranches (fuel : Nat) (subject? : Option Expr) (r : Rest) :
    Except Problem (Expr × Rest) := do
  match fuel with
  | 0 => throw r.problem
  | fuel + 1 =>
    let (c, r) ← readExpr fuel orLevel false (← r.word "when")
    let (yes, r) ← readExpr fuel orLevel false (← r.word "then")
    let (no, r) ←
      if r.atWord "when" then readBranches fuel subject? r
      else if r.atWord "else" then do
        let (no, r) ← readExpr fuel orLevel false r.next
        pure (no, ← r.word "end")
      else pure (.datum .null, ← r.word "end")
    return (.choice ((subject?.map fun e => .compare .eq e c).getD c) yes no, r)

/-- Reads an operand that a word of its own starts, if one does. -/
def readPhrase? (fuel : Nat) (r : Rest) : Except Problem (Option (Expr × Rest)) := do
  match fuel with
  | 0 => throw r.problem
  | fuel + 1 =>
    if r.atWord "null" then return some (.datum .null, r.next)
    else if r.atWord "not" then
      let (e, r) ← readExpr fuel notLevel false r.next
      return some (.not e, r)
    else if r.atWord "case" then
      if r.next.atWord "when" then return some (← readBranches fuel none r.next)
      else
        let (e, r) ← readExpr fuel orLevel false r.next
        return some (← readBranches fuel (some e) r)
    else if r.atWord "cast" then
      let (e, r) ← readExpr fuel orLevel false (← r.next.symbol "(")
      let (t, r) ← readType (← r.word "as")
      return some (.cast (.ofName t) e, ← r.symbol ")")
    else if r.atWord "exists" || r.atWord "raise" then throw (← openExpr r.next).problem
    else return (clock? r).map fun c => (.clock c, r.next)

/-- Reads a literal, a name, a call, an expression in parentheses or one with something in front. -/
def readOperand (fuel : Nat) (r : Rest) : Except Problem (Expr × Rest) := do
  match fuel with
  | 0 => throw r.problem
  | fuel + 1 =>
    match ← readPhrase? fuel r, nameHead? r, r.tokens with
    | some found, _, _ => return found
    | none, some name, _ =>
      if r.next.atSymbol "(" then
        let r := r.next.next
        let r := if r.atWord "distinct" || r.atWord "all" then r.next else r
        let (args, r) ←
          if r.atSymbol "*" then do pure ([], ← r.next.symbol ")") else readItems fuel r
        return (.call name.column args, r)
      else readPath name r.next
    | none, none, ⟨.number t, _, _⟩ :: _ => return (.datum (.number (literalNumber t)), r.next)
    | none, none, ⟨.text t, _, _⟩ :: _ => return (.datum (.text t), r.next)
    | none, none, ⟨.blob t, _, _⟩ :: _ => return (.datum (.blob t), r.next)
    | none, none, ⟨.parameter _, _, _⟩ :: _ => return (.parameter, r.next)
    | none, none, _ =>
      if r.atSymbol "-" then
        if isLeastInteger r.next then return (.datum (.ofInt (-Text.int64Bound)), r.next.next)
        else do let (e, r) ← readExpr fuel signLevel false r.next; return (.minus e, r)
      else if r.atSymbol "+" then do
        let (e, r) ← readExpr fuel signLevel false r.next; return (.plus e, r)
      else if r.atSymbol "~" then do
        let (e, r) ← readExpr fuel signLevel false r.next; return (.complement e, r)
      else if r.atSymbol "(" then
        let (items, r) ← readSomeItems fuel (← openExpr r)
        match items with
        | [e] => return (e, r)
        | items => return (.row items, r)
      else throw r.problem

end

end TagFilter.Sql
