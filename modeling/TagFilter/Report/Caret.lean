import TagFilter.Report.Console
import TagFilter.Tree.Parse

/-!
# Carets

An expression that does not compile is shown on one line with a caret below the place where reading
it stopped.  For a token that cannot stand where it does, that is the first byte of the token.
-/

namespace TagFilter

/-- Something went wrong: what to say, and the compile error behind it, if there is one. -/
structure Failure where
  message : Text
  cause? : Option CompileError := none
  deriving DecidableEq, Repr

namespace Failure

/-- A compile error. -/
def ofCompile (e : CompileError) : Failure := ⟨e.message, some e⟩

/-- The failure with what was tried in front. -/
def wrap (context : Text) (f : Failure) : Failure := { f with message := context ++ f.message }

instance : Coe Text Failure := ⟨fun t => ⟨t, none⟩⟩

instance : Coe String Failure := ⟨fun t => ⟨t, none⟩⟩

end Failure

namespace Caret

/-- The offset of a token in an input, or the end of what is not blank if there is none. -/
def tokenOffset (input : Text) (index : Nat) : Nat :=
  let stops := (tokenize input).toOption.map fun ts => ts.map Token.stop
  match stops with
  | some stops =>
    if index < stops.length then
      let start := if index = 0 then 0 else (stops[index - 1]?).getD 0
      start + ((input.drop start).takeWhile Token.isSpace).length
    else (input.reverse.dropWhile Token.isSpace).length
  | none => (input.reverse.dropWhile Token.isSpace).length

/-- The offset that a compile error points to. -/
def offset (input : Text) : CompileError → Nat
  | .lex e => min e.pos input.length
  | .syntactic e => tokenOffset input e.index

/-- What a compile error says, without the place. -/
def reason : CompileError → Text
  | .lex e => e.cause.message
  | .syntactic e => e.reason

/-- The input on one line; its bytes keep their places. -/
def flatten (input : Text) : Text :=
  Text.encode (input.decode.map fun c =>
    if c = '\n' ∨ c = '\r' ∨ c = '\t' ∨ c.toNat = 12 then ' ' else c)

/-- The line with the caret. -/
def caretLine (input : Text) (e : CompileError) : Text :=
  List.replicate (offset input e) (byte ' ') ++ "^ " ++ reason e

end Caret

/-- Shows what is wrong with an input: by a caret, or without a place in words. -/
def Console.diagnose (c : Console) (input : Text) (f : Failure) : Output :=
  match f.cause? with
  | some e => .errorLine (Caret.flatten input) ++ .errorLine (c.style (Caret.caretLine input e))
  | none => c.failure f.message

end TagFilter
