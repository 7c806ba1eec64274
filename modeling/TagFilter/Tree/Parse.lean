import TagFilter.Token
import TagFilter.Tree.Basic
import TagFilter.Text.Letter
import TagFilter.Text.DecimalDigit

/-!
# Reading expressions

The tokens of an expression are read one at a time.  A state of the reader (`Parsing.State`) is
what it is waiting for (`Mode`) and the stack of unfinished constructs around that place (`Frame`),
innermost first.  `State.step` takes one token and either gives the next state or says why no
expression continues that way; `State.finish` closes every construct at the end of the tokens.  So
`parse` is a fold over the tokens, and the token it blames is the first one that cannot continue
what stands before it.

The tiers of the language, from loose to tight:

* `or`, then `and`, both grouping to the left, then prefix `not`;
* one comparison, `is [not] null`, `between … and …` or `in (…)`, with an infix `not`;
* `+ - ||`, then `* / mod`, both grouping to the left, then signs;
* `**`, grouping to the right;
* names with `.member` and `[index]` steps, numbers, `null` and groups.

A result that is a bare leaf gets the tag `val`.
-/

namespace TagFilter

/-- Why tokens form no expression. -/
inductive SyntaxCause where
  | noTokens
  | badOperator
  | badOperand
  | missingOperand
  | missingFollow (what after : String)
  | missingExpected (what : String)
  | missingClosing (what : String)
  | missingName
  | missingCompare
  | malformed
  deriving DecidableEq, Repr

/-- A cause with the index of the token it blames and that token, if there is one. -/
structure SyntaxError where
  index : Nat
  token? : Option Text
  cause : SyntaxCause
  deriving DecidableEq, Repr

/-- The text of the blamed token. -/
def SyntaxError.token (e : SyntaxError) : Text := e.token?.getD "<end>"

/-- The cause in words. -/
def SyntaxError.reason (e : SyntaxError) : Text :=
  match e.cause with
  | .noTokens => "no tokens found"
  | .badOperator => "bad operator: '" ++ e.token ++ "'"
  | .badOperand => "bad operand: '" ++ e.token ++ "'"
  | .missingOperand => "missing operand/operator"
  | .missingFollow what after => "missing " ++ (what : Text) ++ " following: '" ++ after ++ "'"
  | .missingExpected what => "missing expected '" ++ (what : Text) ++ "' at: '" ++ e.token ++ "'"
  | .missingClosing what => "missing closing '" ++ (what : Text) ++ "' at: '" ++ e.token ++ "'"
  | .missingName => "missing name or string at: '" ++ e.token ++ "'"
  | .missingCompare => "missing comparison operator at: '" ++ e.token ++ "'"
  | .malformed => "malformed expression at: '" ++ e.token ++ "'"

/-- The cause in words, with the index. -/
def SyntaxError.message (e : SyntaxError) : Text :=
  "syntax error at token " ++ Text.ofNat e.index ++ ": " ++ e.reason

namespace Parsing

/-! ## Words -/

/-- Whether a word starts with a quote that it keeps. -/
def isQuoted : Text → Bool
  | b :: _ => b == byte '"' || b == byte '\''
  | [] => false

/-- A word without the quotes around it. -/
def unquote (word : Text) : Text :=
  if isQuoted word && 2 ≤ word.length then word.tail.dropLast else word

/-- Whether a word is a name: a quoted text, or one that starts with a letter, a digit, an
underscore or a dollar sign. -/
def isName (word : Text) : Bool :=
  isQuoted word ||
    match word.decode with
    | c :: _ => Text.isLetter c || Text.isDecimalDigit c || c == '_' || c == '$'
    | [] => false

/-! ## States -/

/-- A construct that waits for an operand. -/
inductive Frame where
  /-- `( _` -/
  | group
  /-- `left or _` -/
  | disjunct (left : Tree)
  /-- `left and _` -/
  | conjunct (left : Tree)
  /-- `not _` -/
  | negation
  /-- `left [not] operator _` -/
  | comparand (operator : Operator) (left : Tree) (negated : Bool)
  /-- `left [not] between _` -/
  | lowBound (left : Tree) (negated : Bool)
  /-- `left [not] between low and _` -/
  | highBound (left low : Tree) (negated : Bool)
  /-- `left [not] in (…, _`, with the earlier items, the last one first -/
  | item (left : Tree) (negated : Bool) (earlier : List Tree) (afterComma : Bool)
  /-- `base [ _` -/
  | index (base : Tree)
  /-- `left + _` -/
  | sum (operator : Operator) (left : Tree)
  /-- `left * _` -/
  | product (operator : Operator) (left : Tree)
  /-- `+ _` or `- _` -/
  | sign (operator : Operator)
  /-- `base ** _` -/
  | power (base : Tree)
  deriving DecidableEq, Repr

/-- What the reader waits for. -/
inductive Mode where
  /-- An operand is due. -/
  | operand
  /-- An operand has been read; a path may go on with a member or an index. -/
  | value (t : Tree) (isPath : Bool)
  /-- A comparison has been read. -/
  | tested (t : Tree)
  /-- `base .` has been read. -/
  | memberName (base : Tree)
  /-- `subject is` has been read. -/
  | isTest (subject : Tree)
  /-- `subject is not` has been read. -/
  | isNotTest (subject : Tree)
  /-- `subject not` has been read. -/
  | negatedTest (subject : Tree)
  /-- `subject [not] in` has been read. -/
  | listOpening (subject : Tree) (negated : Bool)
  deriving DecidableEq, Repr

/-- A state of the reader: what it waits for and the constructs around that place. -/
structure State where
  mode : Mode
  stack : List Frame
  deriving DecidableEq, Repr

/-- The state before the first token. -/
def State.start : State := ⟨.operand, []⟩

/-- A test, negated if asked. -/
def negateIf (negated : Bool) (t : Tree) : Tree :=
  if negated then .op .not t .absent else t

/-- The test that a tree is null. -/
def nullTest (subject : Tree) : Tree := .op .is subject (.leaf "null")

/-- The chain of list cells for items given with the last one first. -/
def listChain (items : List Tree) : Tree :=
  items.foldl (fun chain item => .op .list item chain) .absent

/-- The tree that a path step starts from: a bare name loses its quotes. -/
def pathBase : Tree → Tree
  | .leaf text => .leaf (unquote text)
  | t => t

/-! ## Closing constructs -/

/-- Closes the powers and signs that end with a tree. -/
def closeFactor : Tree → List Frame → Tree × List Frame
  | t, .sign operator :: stack => closeFactor (.op operator t .absent) stack
  | t, .power base :: stack => closeFactor (.op .exp base t) stack
  | t, stack => (t, stack)

/-- Closes the product that ends with a tree. -/
def closeProduct : Tree → List Frame → Tree × List Frame
  | t, .product operator left :: stack => (.op operator left t, stack)
  | t, stack => (t, stack)

/-- Closes the sum that ends with a tree. -/
def closeSum : Tree → List Frame → Tree × List Frame
  | t, .sum operator left :: stack => (.op operator left t, stack)
  | t, stack => (t, stack)

/-- Closes the prefix negations that end with a tree. -/
def closeNegation : Tree → List Frame → Tree × List Frame
  | t, .negation :: stack => closeNegation (.op .not t .absent) stack
  | t, stack => (t, stack)

/-- Closes the conjunction that ends with a tree. -/
def closeConjunct : Tree → List Frame → Tree × List Frame
  | t, .conjunct left :: stack => (.op .and left t, stack)
  | t, stack => (t, stack)

/-- Closes the disjunction that ends with a tree. -/
def closeDisjunct : Tree → List Frame → Tree × List Frame
  | t, .disjunct left :: stack => (.op .or left t, stack)
  | t, stack => (t, stack)

/-! ## Steps -/

/-- Whether a prefix `not` may stand inside these constructs. -/
def takesNot : List Frame → Bool
  | [] | .group :: _ | .disjunct _ :: _ | .conjunct _ :: _ | .negation :: _ => true
  | _ => false

/-- The step at a word where an operand is due. -/
def startOperand (word : Text) (stack : List Frame) : Except SyntaxCause State :=
  match Operator.ofSpelling? word with
  | none => .ok ⟨.value (.leaf word) (isName word), stack⟩
  | some .null => .ok ⟨.value (.leaf word) false, stack⟩
  | some .leftParen => .ok ⟨.operand, .group :: stack⟩
  | some .add => .ok ⟨.operand, .sign .pos :: stack⟩
  | some .sub => .ok ⟨.operand, .sign .neg :: stack⟩
  | some .not => if takesNot stack then .ok ⟨.operand, .negation :: stack⟩ else .error .badOperand
  | some _ => .error .badOperand

/-- The step at a word of meaning `m` after a complete test. -/
def afterTest (t : Tree) (stack : List Frame) (m : Option Operator) : Except SyntaxCause State :=
  let (t, stack) := closeNegation t stack
  let (t, stack) := closeConjunct t stack
  match m with
  | none => .error .badOperator
  | some .and => .ok ⟨.operand, .conjunct t :: stack⟩
  | some m =>
    let (t, stack) := closeDisjunct t stack
    if m = .or then .ok ⟨.operand, .disjunct t :: stack⟩
    else
      match stack with
      | .group :: stack =>
        if m = .rightParen then .ok ⟨.value t false, stack⟩ else .error (.missingClosing ")")
      | _ => .error .malformed

/-- The step at a comparing word of meaning `m` after the left side of a test. -/
def startTest (left : Tree) (negated : Bool) (stack : List Frame) (m : Operator) : Option State :=
  match m with
  | .between => some ⟨.operand, .lowBound left negated :: stack⟩
  | .among => some ⟨.listOpening left negated, stack⟩
  | m => if m.isCompare then some ⟨.operand, .comparand m left negated :: stack⟩ else none

/-- The step at a word of meaning `m` after a sum that may be the left side of a test. -/
def afterSubject (t : Tree) (stack : List Frame) (m : Option Operator) : Except SyntaxCause State :=
  match m with
  | some .is => .ok ⟨.isTest t, stack⟩
  | some .not => .ok ⟨.negatedTest t, stack⟩
  | m =>
    match m.bind (startTest t false stack) with
    | some next => .ok next
    | none => afterTest t stack m

/-- The step at a word after a complete sum. -/
def afterSum (t : Tree) (stack : List Frame) (word : Text) : Except SyntaxCause State :=
  let m := Operator.ofSpelling? word
  match stack with
  | .index base :: stack =>
    if m = some .rightBracket then .ok ⟨.value (.op .subscript base t) true, stack⟩
    else .error (.missingClosing "]")
  | .comparand operator left negated :: stack =>
    afterTest (negateIf negated (.op operator left t)) stack m
  | .lowBound left negated :: stack =>
    if m = some .and then .ok ⟨.operand, .highBound left t negated :: stack⟩
    else .error (.missingExpected "and")
  | .highBound left low negated :: stack =>
    afterTest (negateIf negated (.op .between left (.op .and low t))) stack m
  | .item left negated earlier _ :: stack =>
    match m with
    | some .rightParen =>
      .ok ⟨.tested (negateIf negated (.op .among left (listChain (t :: earlier)))), stack⟩
    | some .list => .ok ⟨.operand, .item left negated (t :: earlier) true :: stack⟩
    | _ => startOperand word (.item left negated (t :: earlier) false :: stack)
  | stack => afterSubject t stack m

/-- The step at a word after a complete product. -/
def afterProduct (t : Tree) (stack : List Frame) (word : Text) : Except SyntaxCause State :=
  let (t, stack) := closeSum t stack
  match (Operator.ofSpelling? word).filter Operator.isAdditive with
  | some operator => .ok ⟨.operand, .sum operator t :: stack⟩
  | none => afterSum t stack word

/-- The step at a word after a complete factor. -/
def afterFactor (t : Tree) (stack : List Frame) (word : Text) : Except SyntaxCause State :=
  let (t, stack) := closeProduct t stack
  match (Operator.ofSpelling? word).filter Operator.isMultiplicative with
  | some operator => .ok ⟨.operand, .product operator t :: stack⟩
  | none => afterProduct t stack word

/-- The step at a word after an operand. -/
def afterValue (t : Tree) (isPath : Bool) (stack : List Frame) (word : Text) :
    Except SyntaxCause State :=
  let m := Operator.ofSpelling? word
  if m = some .exp then .ok ⟨.operand, .power t :: stack⟩
  else if isPath ∧ m = some .member then .ok ⟨.memberName (pathBase t), stack⟩
  else if isPath ∧ m = some .subscript then .ok ⟨.operand, .index (pathBase t) :: stack⟩
  else
    let (t, stack) := closeFactor t stack
    afterFactor t stack word

/-- Takes one token. -/
def State.step (s : State) (word : Text) : Except SyntaxCause State :=
  let m := Operator.ofSpelling? word
  match s.mode with
  | .operand => startOperand word s.stack
  | .value t isPath => afterValue t isPath s.stack word
  | .tested t => afterTest t s.stack m
  | .memberName base =>
    if isQuoted word then .ok ⟨.value (.op .member base (.leaf (unquote word))) true, s.stack⟩
    else if m.isNone && isName word then
      .ok ⟨.value (.op .member base (.leaf word)) true, s.stack⟩
    else .error .missingName
  | .isTest subject =>
    if m = some .not then .ok ⟨.isNotTest subject, s.stack⟩
    else if m = some .null then .ok ⟨.tested (nullTest subject), s.stack⟩
    else .error (.missingExpected "null")
  | .isNotTest subject =>
    if m = some .null then .ok ⟨.tested (negateIf true (nullTest subject)), s.stack⟩
    else .error (.missingExpected "null")
  | .negatedTest subject =>
    match m.bind (startTest subject true s.stack) with
    | some next => .ok next
    | none => .error .missingCompare
  | .listOpening subject negated =>
    if m = some .leftParen then .ok ⟨.operand, .item subject negated [] false :: s.stack⟩
    else .error (.missingExpected "(")

/-- Closes every construct around a complete test. -/
def finishTest (t : Tree) (stack : List Frame) : Except SyntaxCause Tree :=
  let (t, stack) := closeNegation t stack
  let (t, stack) := closeConjunct t stack
  let (t, stack) := closeDisjunct t stack
  match stack with
  | [] => .ok t
  | _ => .error (.missingClosing ")")

/-- Closes every construct around an operand. -/
def finishValue (t : Tree) (stack : List Frame) : Except SyntaxCause Tree :=
  let (t, stack) := closeFactor t stack
  let (t, stack) := closeProduct t stack
  let (t, stack) := closeSum t stack
  match stack with
  | .index _ :: _ => .error (.missingClosing "]")
  | .comparand operator left negated :: stack =>
    finishTest (negateIf negated (.op operator left t)) stack
  | .lowBound _ _ :: _ => .error (.missingExpected "and")
  | .highBound left low negated :: stack =>
    finishTest (negateIf negated (.op .between left (.op .and low t))) stack
  | .item _ _ _ _ :: _ => .error (.missingClosing ")")
  | stack => finishTest t stack

/-- The tree at the end of the tokens. -/
def State.finish (s : State) : Except SyntaxCause Tree :=
  match s.mode with
  | .operand =>
    match s.stack with
    | .item _ _ _ true :: _ => .error (.missingExpected "in list or )")
    | _ => .error .missingOperand
  | .value t _ => finishValue t s.stack
  | .tested t => finishTest t s.stack
  | .memberName _ => .error .missingName
  | .isTest _ => .error (.missingFollow "operand" "is")
  | .isNotTest _ => .error (.missingFollow "'null'" "not")
  | .negatedTest _ => .error (.missingFollow "operator" "not")
  | .listOpening _ _ => .error (.missingExpected "(")

/-- Reads the tokens from index `i` on. -/
def State.run (s : State) (i : Nat) : List Text → Except SyntaxError Tree
  | [] => s.finish.mapError fun cause => ⟨i, none, cause⟩
  | word :: words =>
    match s.step word with
    | .ok next => next.run (i + 1) words
    | .error cause => .error ⟨i, some word, cause⟩

/-- A root that is a bare leaf gets the tag `val`. -/
def wrapLeaf (t : Tree) : Tree := if t.isLeaf then .op .val t .absent else t

end Parsing

/-- The tree of a token list. -/
def parse (words : List Text) : Except SyntaxError Tree :=
  match words with
  | [] => .error ⟨0, none, .noTokens⟩
  | words => (Parsing.State.start.run 0 words).map Parsing.wrapLeaf

/-- Why a text is no expression. -/
inductive CompileError where
  | lex (e : LexError)
  | syntactic (e : SyntaxError)
  deriving DecidableEq, Repr

/-- The error in words. -/
def CompileError.message : CompileError → Text
  | lex e => e.message
  | syntactic e => e.message

/-- The tree of an expression. -/
def compile (t : Text) : Except CompileError Tree :=
  match tokenize t with
  | .error e => .error (.lex e)
  | .ok tokens => (parse (tokens.map Token.text)).mapError .syntactic

end TagFilter
