import TagFilter.Date.Calendar

/-!
# Date layouts

A layout writes a reference moment; read from left to right it falls into fields such as `2006` and
literal text between them (`Layout.ofText`).  `Layout.read?` reads a text field by field and gives
the moment it names, if it names one: every field within its range, the day within its month, and
nothing left over.
-/

namespace TagFilter

/-- How an offset from UTC is written. -/
inductive OffsetStyle where
  | plain
  | colon
  | plainSeconds
  | colonSeconds
  deriving DecidableEq, Repr

/-- What stands in front of a short number. -/
inductive Padding where
  | none
  | zero
  | blank
  deriving DecidableEq, Repr

/-- A part of a moment in a layout. -/
inductive DateField where
  | year
  | shortYear
  | month (padding : Padding)
  | monthName (long : Bool)
  | weekday (long : Bool)
  | day (padding : Padding)
  | yearDay (padding : Padding)
  | hour
  | halfDayHour (padding : Padding)
  | minute (padding : Padding)
  | second (padding : Padding)
  | meridiem (upper : Bool)
  | offset (style : OffsetStyle)
  | zone
  | fraction (digits : Nat)
  deriving DecidableEq, Repr

/-- A layout: fields, each with the literal text before it, and the literal text after the last. -/
structure Layout where
  fields : List (Text × DateField)
  tail : Text
  deriving DecidableEq, Repr

namespace Layout

/-! ## Fields of a layout -/

/-- The fields that are recognised by their first bytes alone, the longer ones first. -/
def fixedFields : List (String × DateField) :=
  [("January", .monthName true), ("Monday", .weekday true), ("MST", .zone), ("01", .month .zero),
   ("02", .day .zero), ("03", .halfDayHour .zero), ("04", .minute .zero), ("05", .second .zero),
   ("06", .shortYear), ("002", .yearDay .zero), ("15", .hour), ("1", .month .none),
   ("2006", .year), ("2", .day .none), ("__2", .yearDay .blank), ("3", .halfDayHour .none),
   ("4", .minute .none), ("5", .second .none), ("PM", .meridiem true), ("pm", .meridiem false),
   ("-070000", .offset .plainSeconds), ("-07:00:00", .offset .colonSeconds),
   ("-0700", .offset .plain), ("-07:00", .offset .colon)]

/-- Whether a text starts with a lower-case ASCII letter. -/
def startsLower : Text → Bool
  | b :: _ => byte 'a' ≤ b && b ≤ byte 'z'
  | [] => false

/-- The field at the start of a layout and the number of its bytes. -/
def fieldAt? (layout : Text) : Option (DateField × Nat) :=
  let fixed := (fixedFields.find? fun f => (f.1 : Text).isPrefixOf layout).map fun f =>
    (f.2, (f.1 : Text).length)
  fixed.or <|
    match layout with
    | [] => none
    | b :: rest =>
      if (Text.ofString "Jan").isPrefixOf layout && !startsLower (layout.drop 3) then
        some (.monthName false, 3)
      else if (Text.ofString "Mon").isPrefixOf layout && !startsLower (layout.drop 3) then
        some (.weekday false, 3)
      else if (Text.ofString "_2").isPrefixOf layout &&
          !(Text.ofString "_2006").isPrefixOf layout then
        some (.day .blank, 2)
      else if b = byte '.' ∨ b = byte ',' then
        let zeros := rest.takeWhile (· == byte '0')
        let next := (rest.drop zeros.length).head?
        if zeros.isEmpty || (next.map Text.isDigitByte).getD false then none
        else some (.fraction zeros.length, zeros.length + 1)
      else none

/-- Reads a layout of which `skip` more bytes belong to the last field and `literal` has been seen
since. -/
def scan (skip : Nat) (literal : Text) : Text → Layout
  | [] => ⟨[], literal⟩
  | b :: rest =>
    match skip with
    | skip + 1 => scan skip literal rest
    | 0 =>
      match fieldAt? (b :: rest) with
      | some (field, length) =>
        let after := scan (length - 1) [] rest
        ⟨(literal, field) :: after.fields, after.tail⟩
      | none => scan 0 (literal ++ [b]) rest

/-- The fields of a layout text. -/
def ofText (layout : Text) : Layout := scan 0 [] layout

/-! ## Reading values -/

/-- What has been read of a moment. -/
structure Reading where
  year : Int := 0
  month? : Option Nat := none
  day? : Option Nat := none
  yearDay? : Option Nat := none
  hour : Nat := 0
  minute : Nat := 0
  second : Nat := 0
  nanosecond : Nat := 0
  morning : Bool := false
  afternoon : Bool := false
  utc : Bool := false
  offset? : Option Int := none
  deriving DecidableEq, Repr

/-- Takes literal text off a value.  A run of spaces stands for any run of spaces, or for the end of
the value. -/
def literal? (inSpaces : Bool) : Text → Text → Option Text
  | [], value => some value
  | b :: literal, value =>
    if b = byte ' ' then
      if inSpaces then literal? true literal value
      else if value.isEmpty ∨ value.head? = some (byte ' ') then
        literal? true literal (value.dropWhile (· == byte ' '))
      else none
    else
      match value with
      | c :: value => if c = b then literal? false literal value else none
      | [] => none

/-- Takes up to `most` digits off a value, at least `least` of them. -/
def digits? (least most : Nat) (value : Text) : Option (Nat × Text) :=
  let digits := (value.take most).takeWhile Text.isDigitByte
  if digits.length < least then none
  else some (Text.digitsValue digits, value.drop digits.length)

/-- Takes a number of one or two digits off a value; with zero padding it has two. -/
def number? (padding : Padding) (value : Text) : Option (Nat × Text) :=
  digits? (if padding = .zero then 2 else 1) 2 value

/-- Takes up to `n` spaces off a value. -/
def dropSpaces : Nat → Text → Text
  | n + 1, b :: value => if b = byte ' ' then dropSpaces n value else b :: value
  | _, value => value

/-- The integer that a text is, with an optional sign. -/
def signed? (t : Text) : Option Int :=
  let (negative, digits) :=
    match t with
    | b :: rest =>
      if b = byte '-' then (true, rest) else if b = byte '+' then (false, rest) else (false, t)
    | [] => (false, t)
  if digits.all Text.isDigitByte then
    let n : Int := Text.digitsValue digits
    some (if negative then -n else n)
  else none

/-- A byte without the difference between upper and lower case letters. -/
def foldCase (b : UInt8) : UInt8 := if byte 'A' ≤ b && b ≤ byte 'Z' then b + 32 else b

/-- Takes the first fitting name off a value, whatever its letter case, and gives its index. -/
def name? (names : List String) (value : Text) : Option (Nat × Text) :=
  (names.zipIdx.find? fun (n, _) =>
      ((n : Text).map foldCase).isPrefixOf (value.map foldCase)).map
    fun (n, i) => (i, value.drop (n : Text).length)

/-- The months. -/
def monthNames : List String :=
  ["January", "February", "March", "April", "May", "June", "July", "August", "September",
   "October", "November", "December"]

/-- The days of the week. -/
def weekdayNames : List String :=
  ["Sunday", "Monday", "Tuesday", "Wednesday", "Thursday", "Friday", "Saturday"]

/-- The names, in full or as their first three letters. -/
def abbreviate (long : Bool) (names : List String) : List String :=
  if long then names else names.map fun n => String.ofList (n.toList.take 3)

/-- The nanoseconds of a point or comma and the digits after it; past nine digits they are dropped.
-/
def fraction? (t : Text) : Option Nat :=
  match t with
  | b :: rest =>
    if b = byte '.' ∨ b = byte ',' then
      let digits := rest.take 9
      match signed? digits with
      | some n => if n < 0 then none else some (n.toNat * Nat.pow 10 (9 - digits.length))
      | none => none
    else none
  | [] => none

/-- The seconds of an offset from UTC. -/
def offset? (style : OffsetStyle) (value : Text) : Option (Int × Text) :=
  let shape : String := match style with
    | .plain => "shhmm"
    | .colon => "shh:mm"
    | .plainSeconds => "shhmmss"
    | .colonSeconds => "shh:mm:ss"
  let shape : Text := shape
  let taken := value.take shape.length
  let part (c : Char) : Text := ((shape.zip taken).filter fun p => p.1 == byte c).map Prod.snd
  let colons := part ':'
  let digits := part 'h' ++ part 'm' ++ (part 's').tail
  if taken.length < shape.length || !digits.all Text.isDigitByte ||
      !colons.all (· == byte ':') then none
  else
    let hours := Text.digitsValue (part 'h')
    let minutes := Text.digitsValue (part 'm')
    let seconds := Text.digitsValue (part 's').tail
    let total : Int := (hours * 60 + minutes) * 60 + seconds
    let rest := value.drop shape.length
    if 24 < hours || 60 < minutes || 60 < seconds then none
    else if taken.head? = some (byte '+') then some (total, rest)
    else if taken.head? = some (byte '-') then some (-total, rest)
    else none

/-- The number of bytes of a signed hour of at most 23; none if there is no such hour. -/
def signedHourLength (value : Text) : Nat :=
  match value with
  | b :: rest =>
    let digits := rest.takeWhile Text.isDigitByte
    if (b = byte '+' ∨ b = byte '-') ∧ digits.length ≠ 0 ∧ Text.digitsValue digits ≤ 23 then
      digits.length + 1
    else 0
  | [] => 0

/-- Takes the abbreviation of a time zone off a value and says whether it is UTC. -/
def zone? (value : Text) : Option (Bool × Text) :=
  let starts (s : String) : Bool := (s : Text).isPrefixOf value
  let capitals := ((value.take 6).takeWhile fun b => byte 'A' ≤ b && b ≤ byte 'Z').length
  let length :=
    if starts "UTC" then 3
    else if value.length < 3 then 0
    else if starts "ChST" || starts "MeST" then 4
    else if starts "GMT" then 3 + signedHourLength (value.drop 3)
    else if starts "+" || starts "-" then signedHourLength value
    else if capitals = 5 then if value[4]? = some (byte 'T') then 5 else 0
    else if capitals = 4 then if value[3]? = some (byte 'T') || starts "WITA" then 4 else 0
    else if capitals = 3 then 3
    else 0
  if length = 0 then none else some (starts "UTC", value.drop length)

/-- A number within bounds, or none. -/
def within (least most : Nat) (r : Option (Nat × Text)) : Option (Nat × Text) :=
  r.filter fun (n, _) => least ≤ n && n ≤ most

/-- Takes one field off a value.  After the seconds a fraction may stand that the layout does not
mention, unless the next field is one. -/
def field? (reading : Reading) (fractionNext : Bool) (value : Text) :
    DateField → Option (Reading × Text)
  | .shortYear => do
    if value.length < 2 then none
    let n ← signed? (value.take 2)
    some ({ reading with year := n + if 69 ≤ n then 1900 else 2000 }, value.drop 2)
  | .year => do
    let (n, value) ← digits? 4 4 value
    some ({ reading with year := n }, value)
  | .month padding => do
    let (n, value) ← within 1 12 (number? padding value)
    some ({ reading with month? := some n }, value)
  | .monthName long => do
    let (i, value) ← name? (abbreviate long monthNames) value
    some ({ reading with month? := some (i + 1) }, value)
  | .weekday long => do
    let (_, value) ← name? (abbreviate long weekdayNames) value
    some (reading, value)
  | .day padding => do
    let value := if padding = .blank then dropSpaces 1 value else value
    let (n, value) ← number? padding value
    some ({ reading with day? := some n }, value)
  | .yearDay padding => do
    let value := if padding = .blank then dropSpaces 2 value else value
    let (n, value) ← digits? (if padding = .zero then 3 else 1) 3 value
    some ({ reading with yearDay? := some n }, value)
  | .hour => do
    let (n, value) ← within 0 23 (number? .none value)
    some ({ reading with hour := n }, value)
  | .halfDayHour padding => do
    let (n, value) ← within 0 12 (number? padding value)
    some ({ reading with hour := n }, value)
  | .minute padding => do
    let (n, value) ← within 0 59 (number? padding value)
    some ({ reading with minute := n }, value)
  | .second padding => do
    let (n, value) ← within 0 59 (number? padding value)
    let reading := { reading with second := n }
    match value with
    | b :: rest =>
      let digits := rest.takeWhile Text.isDigitByte
      if (b = byte '.' ∨ b = byte ',') ∧ digits.length ≠ 0 ∧ fractionNext = false then
        let nanosecond ← fraction? (b :: digits)
        some ({ reading with nanosecond }, rest.drop digits.length)
      else some (reading, value)
    | [] => some (reading, value)
  | .meridiem upper => do
    let (morning, afternoon) : String × String := if upper then ("AM", "PM") else ("am", "pm")
    let mark := value.take 2
    if mark = afternoon then some ({ reading with afternoon := true }, value.drop 2)
    else if mark = morning then some ({ reading with morning := true }, value.drop 2)
    else none
  | .offset style => do
    let (seconds, value) ← offset? style value
    some ({ reading with offset? := some seconds }, value)
  | .zone => do
    let (utc, value) ← zone? value
    some ({ reading with utc := reading.utc || utc }, value)
  | .fraction digits => do
    if value.length < digits + 1 then none
    let nanosecond ← fraction? (value.take (digits + 1))
    some ({ reading with nanosecond }, value.drop (digits + 1))

/-- Whether the first field is a fraction of a second. -/
def startsWithFraction : List (Text × DateField) → Bool
  | (_, .fraction _) :: _ => true
  | _ => false

/-- Takes fields off a value. -/
def fields? (reading : Reading) : List (Text × DateField) → Text → Option (Reading × Text)
  | [], value => some (reading, value)
  | (literal, field) :: rest, value => do
    let value ← literal? false literal value
    let (reading, value) ← field? reading (startsWithFraction rest) value field
    fields? reading rest value

/-- The day that a reading names: a day of the year must agree with a month and a day given beside
it, and what is not given is the first. -/
def Reading.day (r : Reading) : Option Calendar.Day := do
  let (month, day) ← match r.yearDay? with
    | some n => do
      let (month, day) ← Calendar.ofYearDay? r.year n
      if r.month?.getD month = month && r.day?.getD day = day then some (month, day) else none
    | none => some (r.month?.getD 1, r.day?.getD 1)
  if 1 ≤ day && day ≤ Calendar.daysIn r.year month then some ⟨r.year, month, day⟩ else none

/-- How far a reading is ahead of UTC.  Of the names of zones only UTC counts, which overrides an
offset; one second behind counts as no offset. -/
def Reading.shift (r : Reading) : Int :=
  if r.utc || r.offset? == some (-1) then 0 else r.offset?.getD 0

/-- The moment in UTC that a reading names. -/
def Reading.moment (r : Reading) : Option Calendar.Moment := do
  let date ← r.day
  let hour :=
    if r.afternoon && r.hour < 12 then r.hour + 12
    else if r.morning && r.hour == 12 then 0
    else r.hour
  let written : Calendar.Moment := ⟨date, hour, r.minute, r.second, r.nanosecond⟩
  some (written.addSeconds (-r.shift))

/-- The moment that a value names under a layout. -/
def read? (layout : Layout) (value : Text) : Option Calendar.Moment := do
  let (reading, value) ← fields? {} layout.fields value
  let value ← literal? false layout.tail value
  if value.isEmpty then reading.moment else none

end Layout

end TagFilter
