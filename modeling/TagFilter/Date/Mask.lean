import TagFilter.Text.Quoted

/-!
# Date masks

A date mask describes dates by directives such as `%Y`.  `DateMask.layout` spells a mask out as the
way it writes the moment Monday, the second of January 2006, 15:04:05, seven hours behind UTC: the
layout.  What stands literally in a mask must not read as a part of that moment, so digits and a
few abbreviations are refused.
-/

namespace TagFilter.DateMask

/-- Why a date mask cannot be spelled out. -/
inductive Cause where
  | empty
  | directive (text : Text) (note : String)
  | literal (text : Text)
  deriving DecidableEq, Repr

/-- The cause in words, for a mask. -/
def Cause.message (mask : Text) : Cause → Text
  | empty => "empty date mask"
  | directive text note =>
    "invalid date mask " ++ mask.quoted ++ ": strftime: unsupported directive: " ++ text ++ " " ++
      note
  | literal text =>
    "invalid date mask " ++ mask.quoted ++ ": strftime: unsupported literal: " ++ text

/-- The directives without a flag. -/
def directives : List (Char × String) :=
  [('B', "January"), ('b', "Jan"), ('h', "Jan"), ('m', "01"), ('A', "Monday"), ('a', "Mon"),
   ('e', "_2"), ('d', "02"), ('j', "002"), ('I', "03"), ('H', "15"), ('M', "04"), ('S', "05"),
   ('y', "06"), ('Y', "2006"), ('p', "PM"), ('P', "pm"), ('Z', "MST"), ('z', "-0700"),
   ('+', "Mon Jan _2 15:04:05 MST 2006"), ('c', "Mon Jan _2 15:04:05 2006"),
   ('v', "_2-Jan-2006"), ('F', "2006-01-02"), ('D', "01/02/06"), ('x', "01/02/06"),
   ('r', "03:04:05 PM"), ('T', "15:04:05"), ('X', "15:04:05"), ('R', "15:04"), ('%', "%"),
   ('t', "\t"), ('n', "\n")]

/-- The directives that a minus sign changes; two of them have no form without padding. -/
def unpadded : List (Char × Option String) :=
  [('m', some "1"), ('d', some "2"), ('I', some "3"), ('M', some "4"), ('S', some "5"),
   ('H', none), ('j', none)]

/-- The value that a list gives to a byte. -/
def find? {α : Type} (table : List (Char × α)) (b : UInt8) : Option α :=
  (table.find? fun entry => byte entry.1 == b).map Prod.snd

/-- How the reference moment is written by directive `b` with a flag. -/
def spell? (flag : Option UInt8) (b : UInt8) : Option String :=
  if flag = some (byte '-') then
    match find? unpadded b with
    | some spelled => spelled
    | none => find? directives b
  else if flag = some (byte ':') ∧ b = byte 'z' then some "-07:00"
  else find? directives b

/-- The digits of a fraction of a second. -/
def fractionDigits? (b : UInt8) : Option String :=
  find? [('L', "000"), ('f', "000000"), ('N', "000000000")] b

/-- The abbreviations that literal text must not complete. -/
def reserved : List String := ["Jan", "Mon", "MST", "PM", "pm"]

/-- Adds a literal byte to a layout. -/
def addLiteral (layout : Text) (b : UInt8) : Except Cause Text :=
  if Text.isDigitByte b then .error (.literal [b])
  else
    let layout := layout ++ [b]
    match reserved.find? fun (word : String) => (word : Text).isSuffixOf layout with
    | some word => .error (.literal word)
    | none => .ok layout

/-- Adds literal bytes to a layout. -/
def addLiterals (layout : Text) (bytes : Text) : Except Cause Text := bytes.foldlM addLiteral layout

/-- Adds a directive to a layout; `written` is how the mask writes it. -/
def addDirective (layout : Text) (flag : Option UInt8) (b : UInt8) (written : Text) :
    Except Cause Text :=
  match spell? flag b with
  | some spelled => .ok (layout ++ spelled)
  | none =>
    match fractionDigits? b with
    | some digits =>
      if layout.getLast? = some (byte '.') ∨ layout.getLast? = some (byte ',') then
        .ok (layout ++ digits)
      else .error (.directive written "must follow '.' or ','")
    | none => .error (.directive written "")

/-- The directives that a modifier may stand before. -/
def takesModifier (modifier b : UInt8) : Bool :=
  if modifier = byte 'E' then (Text.ofString "cCxXyY").elem b
  else (Text.ofString "deHImMSuUVwWy").elem b

/-- Where the reading of a mask stands: in literal text, or in a directive of which the bytes so far
are kept. -/
inductive Place where
  | literal
  | percent (written : Text)
  | flagged (written : Text) (flag : UInt8)
  | modified (written : Text) (flag : Option UInt8) (modifier : UInt8)

/-- Whether a byte is a modifier. -/
def isModifier (b : UInt8) : Bool := b == byte 'E' || b == byte 'O'

/-- Reads one byte of a mask. -/
def step (layout : Text) (place : Place) (b : UInt8) : Except Cause (Text × Place) :=
  match place with
  | .literal =>
    if b = byte '%' then .ok (layout, .percent [b])
    else (addLiteral layout b).map fun layout => (layout, .literal)
  | .percent written =>
    let written := written ++ [b]
    if b = byte '-' ∨ b = byte ':' then .ok (layout, .flagged written b)
    else if isModifier b then .ok (layout, .modified written none b)
    else (addDirective layout none b written).map fun layout => (layout, .literal)
  | .flagged written flag =>
    let written := written ++ [b]
    if isModifier b then .ok (layout, .modified written (some flag) b)
    else (addDirective layout (some flag) b written).map fun layout => (layout, .literal)
  | .modified written flag modifier =>
    let written := written ++ [b]
    if takesModifier modifier b then
      (addDirective layout flag b written).map fun layout => (layout, .literal)
    else (addLiterals layout written).map fun layout => (layout, .literal)

/-- What is left of an unfinished directive at the end of a mask. -/
def Place.leftover : Place → Text
  | literal => []
  | percent written | flagged written _ | modified written _ _ => written

/-- The cause with the whole character that the blamed directive ends in; `rest` starts with the
last byte that the cause knows of. -/
def Cause.complete (rest : Text) : Cause → Cause
  | directive text note =>
    directive (text.dropLast ++ (rest.pieces.head?.map Prod.snd).getD []) note
  | cause => cause

/-- Spells out the rest of a mask. -/
def spellOut (layout : Text) (place : Place) : Text → Except Cause Text
  | [] => addLiterals layout place.leftover
  | b :: rest =>
    match step layout place b with
    | .ok (layout, place) => spellOut layout place rest
    | .error cause => .error (cause.complete (b :: rest))

/-- The layout of a mask. -/
def layout (mask : Text) : Except Cause Text :=
  if mask.isEmpty then .error .empty else spellOut [] .literal mask

end TagFilter.DateMask
