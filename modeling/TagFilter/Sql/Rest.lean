import TagFilter.Sql.Token

/-!
# What is left of a statement

Reading a statement goes from token to token.  A `Rest` is what is left of it, with small steps that
move past a word, a symbol or a name.  A step that fails names the token it stopped at, or says that
the statement is incomplete.
-/

namespace TagFilter.Sql

/-- What is left of a statement: its tokens and what stopped their reading. -/
structure Rest where
  tokens : List Token
  problem? : Option Problem := none
  deriving Repr

namespace Rest

/-- The tokens of a text, which ends where a byte is zero. -/
def ofText (t : Text) : Rest :=
  let (tokens, problem?) := Token.all 0 [] (t.takeWhile (· != 0))
  ⟨tokens, problem?⟩

/-- The problem that the next token cannot stand where it does. -/
def problem (r : Rest) : Problem :=
  match r.tokens with
  | t :: _ => .unexpected t.raw
  | [] => r.problem?.getD .incomplete

/-- The rest behind its first token. -/
def next (r : Rest) : Rest := { r with tokens := r.tokens.tail }

/-- Whether the next token is a certain word. -/
def atWord (r : Rest) (w : String) : Bool := (r.tokens.head?.map fun t => t.isWord w).getD false

/-- Whether the next token is a certain symbol. -/
def atSymbol (r : Rest) (s : String) : Bool := (r.tokens.head?.map fun t => t.isSymbol s).getD false

/-- Moves past a word. -/
def word (r : Rest) (w : String) : Except Problem Rest :=
  if r.atWord w then .ok r.next else .error r.problem

/-- Moves past a symbol. -/
def symbol (r : Rest) (s : String) : Except Problem Rest :=
  if r.atSymbol s then .ok r.next else .error r.problem

/-- Reads a name, which may be written as a text. -/
def name (r : Rest) : Except Problem (Text × Rest) :=
  match r.tokens with
  | ⟨.word w, _, _⟩ :: _ =>
    if Token.isOneOf w Token.keywords then .error r.problem else .ok (w, r.next)
  | ⟨.quotedName t _, _, _⟩ :: _ | ⟨.text t, _, _⟩ :: _ => .ok (t, r.next)
  | _ => .error r.problem

/-- Reads the name that a part of a statement goes by, if one follows, with `as` or without. -/
def otherName? (r : Rest) : Except Problem (Option Text × Rest) := do
  if r.atWord "as" then
    let (name, r) ← r.next.name
    return (some name, r)
  else
    match r.tokens with
    | ⟨.word w, _, _⟩ :: _ =>
      if Token.isOneOf w (Token.keywords ++ Token.joinWords) then return (none, r)
      else return (some w, r.next)
    | ⟨.quotedName t _, _, _⟩ :: _ | ⟨.text t, _, _⟩ :: _ => return (some t, r.next)
    | _ => return (none, r)

/-- The tokens from here up to another rest. -/
def upTo (r after : Rest) : List Token := r.tokens.take (r.tokens.length - after.tokens.length)

/-- What is written from here up to another rest. -/
def written (r after : Rest) : Text :=
  match r.upTo after with
  | [] => []
  | t :: ts => t.raw ++ ts.flatMap fun u => u.gap ++ u.raw

end Rest

end TagFilter.Sql
