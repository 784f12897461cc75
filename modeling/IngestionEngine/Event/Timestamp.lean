import Mathlib.Data.Int.Init

/-!
# Timestamps

`time.Time` as an instant, and the reading of RFC 3339 text that `Time.UnmarshalJSON` does
in Go 1.22. Its strict checks are disabled there, so an hour may have one digit, a fraction
may follow a comma, and an offset may reach 24 hours or 60 minutes. The text is the one
between the quotes: escape sequences are not undone before it is read.
-/

namespace IngestionEngine.Event

/-- `time.Time`: nanoseconds since the zero time, January 1 of year 1, 00:00:00 UTC. -/
structure Time where
  /-- The instant. -/
  nanos : Int
  deriving DecidableEq, Repr

/-- `time.Time{}` -/
def Time.zero : Time := ⟨0⟩

/-- `IsZero` -/
def Time.isZero (t : Time) : Bool := t.nanos == 0

/-- A reading of the clock; no clock shows the zero time. -/
structure Now where
  /-- `time.Now().UTC()` -/
  time : Time
  /-- It is not the zero time. -/
  nonzero : time.isZero = false

/-- The value of some decimal digits. -/
def digits : List Char → Option Nat
  | text =>
    if text.all Char.isDigit then
      some (text.foldl (fun value c => 10 * value + (c.toNat - '0'.toNat)) 0)
    else none

/-- The February of a leap year has one day more. -/
def isLeap (year : Nat) : Bool := year % 4 = 0 && (year % 100 ≠ 0 || year % 400 = 0)

/-- `daysIn` -/
def daysIn (month year : Nat) : Nat :=
  if month = 2 then if isLeap year then 29 else 28
  else if month = 4 ∨ month = 6 ∨ month = 9 ∨ month = 11 then 30
  else 31

/-- The days from the zero time to the first of January of a year. -/
def daysBeforeYear (year : Nat) : Int :=
  let past : Int := year - 1
  365 * past + past / 4 - past / 100 + past / 400

/-- The days from the zero time to a date. -/
def daysBefore (year month day : Nat) : Int :=
  let days := (List.range (month - 1)).foldl (fun days m => days + daysIn (m + 1) year) 0
  daysBeforeYear year + days + day - 1

/-- The seconds by which a zone is ahead of UTC. -/
def readZone : List Char → Option Int
  | ['Z'] => some 0
  | [sign, h1, h2, ':', m1, m2] => do
    let hour ← digits [h1, h2]
    let minute ← digits [m1, m2]
    if hour ≤ 24 ∧ minute ≤ 60 then
      match sign with
      | '+' => some (hour * 3600 + minute * 60)
      | '-' => some (-(hour * 3600 + minute * 60))
      | _ => none
    else none
  | _ => none

/-- The nanoseconds of a fraction: nine digits count. -/
def readFraction (text : List Char) : Option Nat :=
  digits ((text ++ List.replicate 9 '0').take 9)

/-- What follows the seconds: a fraction, if there is one, and the zone. -/
def readTail : List Char → Option (Nat × Int)
  | mark :: first :: rest =>
    if (mark = '.' ∨ mark = ',') ∧ first.isDigit then do
      let nanos ← readFraction ((first :: rest).takeWhile Char.isDigit)
      let zone ← readZone ((first :: rest).dropWhile Char.isDigit)
      some (nanos, zone)
    else (readZone (mark :: first :: rest)).map (0, ·)
  | text => (readZone text).map (0, ·)

/-- What follows the hour. -/
def readClock (hour : Nat) : List Char → Option (Nat × Nat × Int)
  | ':' :: m1 :: m2 :: ':' :: s1 :: s2 :: tail => do
    let minute ← digits [m1, m2]
    let second ← digits [s1, s2]
    let (nanos, zone) ← readTail tail
    if hour < 24 ∧ minute < 60 ∧ second < 60 then
      some (hour * 3600 + minute * 60 + second, nanos, zone)
    else none
  | _ => none

/-- What follows the date: an hour of one or two digits, and the rest of the clock. -/
def readHour : List Char → Option (Nat × Nat × Int)
  | h1 :: ':' :: rest => do readClock (← digits [h1]) (':' :: rest)
  | h1 :: h2 :: rest => do readClock (← digits [h1, h2]) rest
  | _ => none

/-- `parseStrictRFC3339` -/
def readTime (text : String) : Option Time :=
  match text.toList with
  | y1 :: y2 :: y3 :: y4 :: '-' :: m1 :: m2 :: '-' :: d1 :: d2 :: 'T' :: rest => do
    let year ← digits [y1, y2, y3, y4]
    let month ← digits [m1, m2]
    let day ← digits [d1, d2]
    let (second, nanos, zone) ← readHour rest
    if 1 ≤ month ∧ month ≤ 12 ∧ 1 ≤ day ∧ day ≤ daysIn month year then
      some ⟨((daysBefore year month day) * 86400 + second - zone) * 1000000000 + nanos⟩
    else none
  | _ => none

/-- The zero time can be spelled out. -/
example : (readTime "0001-01-01T00:00:00Z").map Time.isZero = some true := by decide +kernel

/-- So can an instant in another zone. -/
example : readTime "2024-02-29T1:30:00,5+01:30" = readTime "2024-02-29T00:00:00.5Z" := by
  decide +kernel

end IngestionEngine.Event
