import LayoutTree.Conversion.Failure
import LayoutTree.Conversion.Record
import LayoutTree.Json.Reader

/-!
# Values from structured data

How structured data, or a text, is taken for a value of a type when no converter serves the type.
`Structural.read` accepts what can be meant for the type; `Structural.convert` tries a raw text
first as it is and then as the JSON document that it may hold.
-/

namespace LayoutTree.Structural

open LayoutTree.Text LayoutTree.Number

/-! ## Single values -/

/-- A truth value. -/
def truth? (v : Data) : Option Value := (Record.truth v).toOption.map .truth

/-- A decimal. -/
def decimal? : Data → Option Value
  | .integer n => some (.decimal (.finite (n < 0) n.natAbs 0))
  | .number x => (Decimal.read? x.text.toList).map .decimal
  | .text s => (Decimal.read? s.toList).map .decimal
  | _ => none

/-- The moment that a value stands for. -/
def moment? : Data → Option DateTime
  | .text s => Moment.readDateTime? s.toList
  | .integer n => Moment.ofInt? n
  | .number x => Moment.ofDouble? x
  | _ => none

/-- The time of day that a value stands for; a number counts seconds after midnight. -/
def time? : Data → Option TimeOfDay
  | .text s => Moment.readTime? s.toList
  | .integer n =>
    if 0 ≤ n ∧ n < 86400 then some (TimeOfDay.ofSeconds n.toNat 0 (some 0)) else none
  | .number x =>
    (Moment.micro? x).bind fun n =>
      if 0 ≤ n ∧ n < Duration.dayLength then
        some (TimeOfDay.ofSeconds (n.toNat / 1000000) (n.toNat % 1000000) (some 0))
      else none
  | _ => none

/-- The duration that a value stands for; a number counts seconds. -/
def duration? : Data → Option Duration
  | .text s => Moment.readDuration? s.toList
  | .integer n => Duration.ofMicroseconds? (n * 1000000)
  | .number x => (Moment.micro? x).bind Duration.ofMicroseconds?
  | _ => none

/-! ## Identifiers -/

/-- The groups of a written identifier. -/
def groupLengths : List Nat := [8, 4, 4, 4, 12]

/-- Digits cut into groups with dashes between them. -/
def grouped : List Nat → List Char → List Char
  | [], _ => []
  | [_], ds => ds
  | n :: ns, ds => ds.take n ++ '-' :: grouped ns (ds.drop n)

/-- The usual written form of an identifier given by thirty-two hexadecimal digits, perhaps in
groups, in braces or with a scheme in front. -/
def uuid? (s : List Char) : Option String :=
  let mark := "urn:uuid:".toList
  let (body, plain) :=
    if mark.isPrefixOf s then (s.drop mark.length, false)
    else if s.head? = some '{' ∧ s.getLast? = some '}' then ((s.drop 1).dropLast, false)
    else (s, true)
  let ds := body.filter (· ≠ '-')
  let inGroups := grouped groupLengths ds
  if ds.length = 32 ∧ ds.all (fun c => (Color.hexValue? c).isSome) ∧
      (body = inGroups ∨ (plain ∧ body = ds)) then
    some (String.ofList (inGroups.map Char.toLower))
  else none

/-! ## Types -/

/-- Whether a value is of a type as it stands, without any reading. -/
def isExact : Target → Data → Bool
  | .text, .text _ => true
  | .integer, .integer _ => true
  | .number, .number _ => true
  | .truth, .bool _ => true
  | .nothing, .null => true
  | _, _ => false

/-- The values without repetitions, told apart by `same`. -/
def distinct (same : Value → Value → Bool) (vs : List Value) : List Value :=
  vs.foldl (fun seen v => if seen.any (same v) then seen else seen ++ [v]) []

/-- Whether two plain values are equal. -/
def sameValue : Value → Value → Bool
  | .integer a, .integer b => a = b
  | .text a, .text b => a = b
  | .truth a, .truth b => a = b
  | _, _ => false

/-- The items of a list, each read by `item`. -/
def readItems (item : Data → Option Value) : List Data → Option (List Value)
  | [] => some []
  | v :: vs =>
    match item v, readItems item vs with
    | some a, some as => some (a :: as)
    | _, _ => none

/-- The entries of a dictionary, their names read by `key` and their values by `value`. -/
def readFields (key value : Data → Option Value) :
    List (String × Data) → Option (List (Value × Value))
  | [] => some []
  | (name, v) :: rest =>
    match key (.text name), value v, readFields key value rest with
    | some k, some a, some as => some ((k, a) :: as)
    | _, _, _ => none

mutual

/-- A value of a type, if the data can be meant for one. -/
def read : Target → Data → Option Value
  | .text, .text s => some (.text s)
  | .integer, v => (Record.integer v).toOption.map .integer
  | .number, v => (Record.number v).toOption.map .number
  | .truth, v => truth? v
  | .decimal, v => decimal? v
  | .any, v => some (.ofData v)
  | .object, v => some (.ofData v)
  | .nothing, .null => some .none
  | .bytes, .text s => some (.bytes s.toUTF8)
  | .date, v => ((moment? v).bind Moment.dateAtMidnight?).map .date
  | .time, v => (time? v).map .time
  | .dateTime, v => (moment? v).map .dateTime
  | .duration, v => (duration? v).map .duration
  | .uuid, .text s => (uuid? s.toList).map .uuid
  | .path, .text s => some (.path (FilePath.ofString s))
  | .list item, .list vs => (readItems (fun v => read item v) vs).map .list
  | .set item, .list vs => (readItems (fun v => read item v) vs).map fun vs => .set (distinct sameValue vs)
  | .tuple items, .list vs => (readTuple items vs).map .tuple
  | .dict key value, .object fields =>
    (readFields (fun v => read key v) (fun v => read value v) fields).map .dict
  | .choice options, .text s => if options.contains s then some (.text s) else none
  | .union members, v =>
    if members.any fun t => isExact t v then some (.ofData v) else readFirst members v
  | .annotated base, v => read base v
  | .enumeration e, .text s => (e.ofText? s).map (.member e.name)
  | .enumeration e, .integer n => (e.ofInteger? n).map (.member e.name)
  | .record kind, .object fields => (Record.read kind fields).toOption
  | _, _ => none

/-- The first member of a union that the data can be meant for. -/
def readFirst : List Target → Data → Option Value
  | [], _ => none
  | t :: ts, v => (read t v).or (readFirst ts v)

/-- The items of a tuple, each of its own type. -/
def readTuple : List Target → List Data → Option (List Value)
  | [], [] => some []
  | t :: ts, v :: vs =>
    match read t v, readTuple ts vs with
    | some a, some as => some (a :: as)
    | _, _ => none
  | _, _ => none

end

/-- A raw text as a value of a type: the text itself, or the JSON document that it holds. -/
def convert (value : String) (target : Target) : Except ConversionFault Value :=
  match read target (.text value) with
  | some v => .ok v
  | none =>
    match (Json.read value).toOption.bind (read target) with
    | some v => .ok v
    | none => .error (.failure (.unfit value target))

mutual

/-- Why nothing is known about the values of a type, if that is so. -/
def fault? : Target → Option ConversionFault
  | .kind name _ => some (.noSchema name)
  | .undefined name => some (.notDefined name)
  | .list item => fault? item
  | .set item => fault? item
  | .tuple items => firstFault? items
  | .dict key value => (fault? key).or (fault? value)
  | .union members => firstFault? members
  | _ => none

/-- The first fault of some types. -/
def firstFault? : List Target → Option ConversionFault
  | [] => none
  | t :: ts => (fault? t).or (firstFault? ts)

end

end LayoutTree.Structural
