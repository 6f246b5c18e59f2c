import LayoutTree.Number.Style
import LayoutTree.Text.Digit

/-!
# Dates, times and durations

Days of the calendar, times of a day with or without an offset from universal time, moments and
durations, with their written forms. Dates are converted to counts of days from the epoch and back
(`Date.days`, `Date.ofDays?`); a count of seconds beyond `millisecondsFrom` is a count of
milliseconds.
-/

namespace LayoutTree

open LayoutTree.Text LayoutTree.Number

/-! ## Dates -/

/-- A day of the calendar. -/
structure Date where
  year : Nat
  month : Nat
  day : Nat
  deriving DecidableEq, Repr

/-- A number padded with zeros to a width. -/
def padded (width n : Nat) : String :=
  let ds := Nat.toDigits 10 n
  String.ofList (List.replicate (width - ds.length) '0' ++ ds)

namespace Date

/-- Whether a year has a day more. -/
def isLeap (year : Nat) : Bool :=
  year % 4 = 0 && (year % 100 ≠ 0 || year % 400 = 0)

/-- How many days a month has. -/
def monthLength (year month : Nat) : Nat :=
  if month = 2 then if isLeap year then 29 else 28
  else if [4, 6, 9, 11].contains month then 30
  else 31

/-- The date, if the calendar has it. -/
def ofParts? (year month day : Nat) : Option Date :=
  if 1 ≤ year ∧ year ≤ 9999 ∧ 1 ≤ month ∧ month ≤ 12 ∧ 1 ≤ day ∧ day ≤ monthLength year month then
    some ⟨year, month, day⟩
  else none

/-- The days before a year, counted from the first day of year one. -/
def daysBeforeYear (year : Nat) : Nat :=
  let y := year - 1
  365 * y + y / 4 - y / 100 + y / 400

/-- The day of the epoch, counted from the first day of year one. -/
def epoch : Int := 719162

/-- The days from the epoch to a date. -/
def days (d : Date) : Int :=
  let before := (List.range (d.month - 1)).foldl (fun n m => n + monthLength d.year (m + 1)) 0
  (daysBeforeYear d.year + before + (d.day - 1) : Nat) - epoch

/-- The month and day of a day of a year, counted from zero, looking from `month` on through at most
`fuel` months. -/
def monthOf (year month : Nat) : Nat → Nat → Nat × Nat
  | 0, day => (month, day + 1)
  | fuel + 1, day =>
    let length := monthLength year month
    if day < length then (month, day + 1) else monthOf year (month + 1) fuel (day - length)

/-- The date a number of days after the epoch, from year 1600 to year 9999. -/
def ofDays? (count : Int) : Option Date :=
  let n := (count + epoch).toNat
  let guess := n / 366 + 1
  let year := ((List.range 32).map (guess + ·)).findRev? fun y => daysBeforeYear y ≤ n
  match year with
  | some year =>
    if 1600 ≤ year ∧ year ≤ 9999 ∧ 0 ≤ count + epoch then
      let (month, day) := monthOf year 1 12 (n - daysBeforeYear year)
      some ⟨year, month, day⟩
    else none
  | none => none

/-- The written form of a date. -/
def text (d : Date) : String :=
  padded 4 d.year ++ "-" ++ padded 2 d.month ++ "-" ++ padded 2 d.day

end Date

/-! ## Times -/

/-- A time of a day. -/
structure TimeOfDay where
  hour : Nat
  minute : Nat
  second : Nat
  microsecond : Nat
  /-- The seconds by which the clock is ahead of universal time, where that is known. -/
  offset : Option Int
  deriving DecidableEq, Repr

namespace TimeOfDay

/-- Midnight. -/
def midnight : TimeOfDay := ⟨0, 0, 0, 0, none⟩

/-- Whether a time is midnight by its own clock. -/
def isMidnight (t : TimeOfDay) : Bool :=
  t.hour = 0 && t.minute = 0 && t.second = 0 && t.microsecond = 0

/-- The time some seconds and microseconds after midnight. -/
def ofSeconds (seconds microseconds : Nat) (offset : Option Int) : TimeOfDay :=
  ⟨seconds / 3600, seconds / 60 % 60, seconds % 60, microseconds, offset⟩

/-- The written form of an offset. -/
def offsetText : Option Int → String
  | none => ""
  | some seconds =>
    let n := seconds.natAbs
    (if seconds < 0 then "-" else "+") ++ padded 2 (n / 3600) ++ ":" ++ padded 2 (n / 60 % 60) ++
      (if n % 60 = 0 then "" else ":" ++ padded 2 (n % 60))

/-- The written form of a time. -/
def text (t : TimeOfDay) : String :=
  padded 2 t.hour ++ ":" ++ padded 2 t.minute ++ ":" ++ padded 2 t.second ++
    (if t.microsecond = 0 then "" else "." ++ padded 6 t.microsecond) ++ offsetText t.offset

end TimeOfDay

/-- A date with a time. -/
structure DateTime where
  date : Date
  time : TimeOfDay
  deriving DecidableEq, Repr

/-- The written form of a moment. -/
def DateTime.text (m : DateTime) : String :=
  m.date.text ++ "T" ++ m.time.text

/-- A length of time. -/
structure Duration where
  /-- The length in microseconds. -/
  microseconds : Int
  deriving DecidableEq, Repr

namespace Duration

/-- The microseconds of a day. -/
def dayLength : Int := 86400000000

/-- The most days that a duration may have. -/
def maxDays : Int := 999999999

/-- Whether a duration is within bounds. -/
def isBounded (d : Duration) : Bool :=
  -maxDays ≤ d.microseconds / dayLength && d.microseconds / dayLength ≤ maxDays

/-- The duration, if it is within bounds. -/
def ofMicroseconds? (n : Int) : Option Duration :=
  if (Duration.mk n).isBounded then some ⟨n⟩ else none

/-- The whole days, the further seconds, and the microseconds left; only the days may be negative.
-/
def parts (d : Duration) : Int × Int × Int :=
  (d.microseconds / dayLength, d.microseconds % dayLength / 1000000,
    d.microseconds % dayLength % 1000000)

theorem parts_sum (d : Duration) :
    d.parts.1 * dayLength + d.parts.2.1 * 1000000 + d.parts.2.2 = d.microseconds := by
  simp only [parts]
  have h₁ := Int.mul_ediv_add_emod d.microseconds dayLength
  have h₂ := Int.mul_ediv_add_emod (d.microseconds % dayLength) 1000000
  rw [Int.mul_comm] at h₁ h₂
  omega

end Duration

/-! ## Reading -/

namespace Moment

/-- Exactly `count` digits. -/
def digits? : Nat → List Char → Option (Nat × List Char)
  | count, s =>
    let ds := s.take count
    if ds.length = count ∧ ds.all Char.isDigit then some (digitsNat ds, s.drop count) else none
where
  /-- The value of digits. -/
  digitsNat (ds : List Char) : Nat := ds.foldl (fun n c => 10 * n + (c.toNat - 48)) 0

/-- As many digits as there are, at least one. -/
def number? (s : List Char) : Option (Nat × List Char) :=
  let ds := s.takeWhile Char.isDigit
  if ds.isEmpty then none else some (digits?.digitsNat ds, s.drop ds.length)

/-- A fraction of a unit in millionths, further digits cut off. -/
def millionths (ds : List Char) : Nat :=
  digits?.digitsNat ((ds ++ List.replicate 6 '0').take 6)

/-- The millionths after a decimal mark, if there is one. -/
def fraction? : List Char → Option (Nat × List Char)
  | c :: s =>
    if c = '.' ∨ c = ',' then
      let ds := s.takeWhile Char.isDigit
      if ds.isEmpty then none else some (millionths ds, s.drop ds.length)
    else some (0, c :: s)
  | [] => some (0, [])

/-- A date at the front of a text. -/
def scanDate? (s : List Char) : Option (Date × List Char) :=
  match digits? 4 s with
  | some (year, '-' :: s) =>
    match digits? 2 s with
    | some (month, '-' :: s) =>
      match digits? 2 s with
      | some (day, s) => (Date.ofParts? year month day).map (·, s)
      | none => none
    | _ => none
  | _ => none

/-- Minutes and perhaps seconds, after the hours. -/
def scanMinutes? (hour : Nat) (s : List Char) : Option (TimeOfDay × List Char) :=
  match digits? 2 s with
  | some (minute, ':' :: s) =>
    match digits? 2 s with
    | some (second, s) =>
      match fraction? s with
      | some (micro, s) =>
        if minute ≤ 59 ∧ second ≤ 59 then some (⟨hour, minute, second, micro, none⟩, s) else none
      | none => none
    | none => none
  | some (minute, s) => if minute ≤ 59 then some (⟨hour, minute, 0, 0, none⟩, s) else none
  | none => none

/-- A time without an offset at the front of a text. -/
def scanClock? (s : List Char) : Option (TimeOfDay × List Char) :=
  match digits? 2 s with
  | some (hour, ':' :: s) => if hour ≤ 23 then scanMinutes? hour s else none
  | _ => none

/-- The sign of an offset. -/
def offsetSign? (c : Char) : Option Int :=
  if c = '+' then some 1 else if c = '-' ∨ c = '\u2212' then some (-1) else none

/-- An offset that is the whole text: nothing, a letter for universal time, or hours and minutes. -/
def offset? : List Char → Option (Option Int)
  | [] => some none
  | [c] => if c = 'Z' ∨ c = 'z' then some (some 0) else none
  | c :: s => do
    let sign ← offsetSign? c
    let (hours, s) ← digits? 2 s
    let (minutes, s) ← digits? 2 (if s.head? = some ':' then s.drop 1 else s)
    if s.isEmpty ∧ minutes < 60 ∧ hours < 24 then some (some (sign * (3600 * hours + 60 * minutes)))
    else none

/-- A text that is a time. -/
def readTime? (s : List Char) : Option TimeOfDay := do
  let (t, s) ← scanClock? s
  let offset ← offset? s
  pure { t with offset }

/-- The absolute value above which a count of seconds is taken for a count of milliseconds. -/
def millisecondsFrom : Int := 20000000000

/-- The moment a number of microseconds after the epoch, in universal time. -/
def ofMicroseconds? (n : Int) : Option DateTime :=
  (Date.ofDays? (n / Duration.dayLength)).map fun date =>
    let rest := (n % Duration.dayLength).toNat
    ⟨date, TimeOfDay.ofSeconds (rest / 1000000) (rest % 1000000) (some 0)⟩

/-- The moment that a count of seconds, or of milliseconds, stands for. -/
def ofInt? (n : Int) : Option DateTime :=
  if n.natAbs ≤ millisecondsFrom.natAbs then ofMicroseconds? (n * 1000000)
  else ofMicroseconds? (n * 1000)

/-- A double in units of a millionth, rounded to the nearest. -/
def micro? : Double → Option Int
  | .finite negative m e =>
    let n : Int := roundDiv (m * Double.pow2 e * 1000000) (Double.pow2 (-e))
    some (if negative then -n else n)
  | _ => none

/-- The moment that a number of seconds, or of milliseconds, stands for. -/
def ofDouble? (x : Double) : Option DateTime :=
  (micro? x).bind fun n =>
    if n.natAbs ≤ (millisecondsFrom * 1000000).natAbs then ofMicroseconds? n
    else ofMicroseconds? (n / 1000)

/-- A text that is a number with an optional sign and fraction. -/
def readNumber? (s : List Char) : Option (Bool × Nat × Option Nat) :=
  let (negative, s) := match s with
    | '-' :: s => (true, s)
    | '+' :: s => (false, s)
    | s => (false, s)
  match number? s with
  | some (n, []) => some (negative, n, none)
  | some (n, '.' :: s) => if s.all Char.isDigit then some (negative, n, some (millionths s)) else none
  | _ => none

/-- The moment that a number as a text stands for. -/
def ofNumberText? (s : List Char) : Option DateTime :=
  match readNumber? s with
  | some (negative, n, none) => ofInt? (if negative then -n else n)
  | some (negative, n, some micro) =>
    let total : Int := n * 1000000 + micro
    let total := if negative then -total else total
    if total.natAbs ≤ (millisecondsFrom * 1000000).natAbs then ofMicroseconds? total
    else ofMicroseconds? (total / 1000)
  | none => none

/-- A text that is a date and a time, or a date alone, or a count of seconds. -/
def readDateTime? (s : List Char) : Option DateTime :=
  let written : Option DateTime := match scanDate? s with
    | some (date, []) => some ⟨date, .midnight⟩
    | some (date, c :: rest) =>
      if ['T', 't', ' ', '_'].contains c then (readTime? rest).map (⟨date, ·⟩) else none
    | none => none
  written.or (ofNumberText? s)

/-- The date of a moment at midnight. -/
def dateAtMidnight? (m : DateTime) : Option Date :=
  if m.time.isMidnight then some m.date else none

/-- A text that is a date, or a moment at midnight. -/
def readDate? (s : List Char) : Option Date :=
  (readDateTime? s).bind dateAtMidnight?

/-! ## Durations -/

/-- The microseconds of a unit in the part for dates or in the part for times. -/
def unitLength? (inTime : Bool) (c : Char) : Option Int :=
  if inTime then
    match c with
    | 'H' => some 3600000000
    | 'M' => some 60000000
    | 'S' => some 1000000
    | _ => none
  else
    match c with
    | 'Y' => some (365 * Duration.dayLength)
    | 'M' => some (30 * Duration.dayLength)
    | 'W' => some (7 * Duration.dayLength)
    | 'D' => some Duration.dayLength
    | _ => none

theorem number?_length {s rest : List Char} {n : Nat} (h : number? s = some (n, rest)) :
    rest.length < s.length := by
  simp only [number?] at h
  split at h
  · simp at h
  · next hne =>
    simp only [Option.some.injEq, Prod.mk.injEq] at h
    obtain ⟨_, rfl⟩ := h
    have hpos : 0 < (s.takeWhile Char.isDigit).length := by
      rw [List.length_pos_iff]
      intro h
      simp [h] at hne
    have hle : (s.takeWhile Char.isDigit).length ≤ s.length :=
      (List.takeWhile_prefix _).length_le
    simp only [List.length_drop]
    omega

theorem fraction?_length {s rest : List Char} {n : Nat} (h : fraction? s = some (n, rest)) :
    rest.length ≤ s.length := by
  cases s with
  | nil =>
    simp only [fraction?, Option.some.injEq, Prod.mk.injEq] at h
    simp [← h.2]
  | cons c s =>
    simp only [fraction?] at h
    split at h
    · split at h
      · simp at h
      · simp only [Option.some.injEq, Prod.mk.injEq] at h
        simp only [← h.2, List.length_drop, List.length_cons]
        omega
    · simp only [Option.some.injEq, Prod.mk.injEq] at h
      simp [← h.2]

/-- The sum of the units of a duration: dates first, times after a `T`. -/
def sumUnits? (inTime : Bool) (total : Int) (s : List Char) : Option Int :=
  match s with
  | [] => some total
  | 'T' :: s => if inTime then none else sumUnits? true total s
  | s =>
    match h : number? s with
    | none => none
    | some (n, s') =>
      have hn := number?_length h
      match hf : fraction? s' with
      | none => none
      | some (_, []) => none
      | some (micro, unit :: rest) =>
        have hr := fraction?_length hf
        match unitLength? inTime unit with
        | none => none
        | some length =>
          have : rest.length < s.length := by
            simp only [List.length_cons] at hr
            omega
          sumUnits? inTime (total + (n * 1000000 + micro : Nat) * length / 1000000) rest
termination_by s.length

/-- The microseconds of a time of day. -/
def clockLength (t : TimeOfDay) : Int :=
  ((3600 * t.hour + 60 * t.minute + t.second) * 1000000 + t.microsecond : Nat)

/-- Hours of any number of digits, minutes and perhaps seconds. -/
def readClock? (s : List Char) : Option Int :=
  match number? s with
  | some (hour, ':' :: s) =>
    match scanMinutes? hour s with
    | some (t, []) => some (clockLength t)
    | _ => none
  | _ => none

/-- The text after the word for days. -/
def dropDayWord : List Char → List Char
  | 'a' :: 'y' :: 's' :: s => s
  | 'a' :: 'y' :: s => s
  | s => s

/-- The text after at most one character of a kind. -/
def dropOne (c : Char) (s : List Char) : List Char :=
  if s.head? = some c then s.drop 1 else s

/-- Days, and perhaps a time after them. -/
def readDays? (s : List Char) : Option Int :=
  match number? s with
  | some (n, s) =>
    match dropOne ' ' s with
    | c :: s =>
      if c = 'd' ∨ c = 'D' then
        let rest := dropOne ' ' (dropOne ',' (dropDayWord s))
        let days : Int := n * Duration.dayLength
        if rest.isEmpty then some days
        else match scanClock? rest with
          | some (t, []) => some (days + clockLength t)
          | _ => none
      else none
    | [] => none
  | none => none

/-- A duration without its sign. -/
def readUnsignedDuration? (s : List Char) : Option Int :=
  match s with
  | 'P' :: s => if s.any Char.isDigit then sumUnits? false 0 s else none
  | s => if s.any (fun c => c = 'd' ∨ c = 'D') || s.length < 5 then readDays? s else readClock? s

/-- A text that is a duration. -/
def readDuration? (s : List Char) : Option Duration :=
  let read := match s with
    | '+' :: s => readUnsignedDuration? s
    | '-' :: s => (readUnsignedDuration? s).map (- ·)
    | s => readUnsignedDuration? s
  read.bind Duration.ofMicroseconds?

end Moment

end LayoutTree
