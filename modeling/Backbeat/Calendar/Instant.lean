import Backbeat.Calendar.Date
import Backbeat.Text.Blank
import Backbeat.Text.Caseless
import Backbeat.Text.Integer

/-!
# Instants and their RFC 3339 text

An instant is a date and a time of day at Greenwich, to the nanosecond.  A leap second belongs
to the fifty-ninth second of its minute, whose nanoseconds then run on to two thousand million;
it is written as second sixty.

Text is read with some freedom: blanks may stand around the separators, leading zeros may be
missing, a fraction may be longer than it is kept, and the offset may be any whole number of
minutes below a day.  It is always written in one way, at Greenwich and with the shortest
fraction of three, six or nine digits.
-/

namespace Backbeat.Calendar

def nanosPerSecond : Nat := 1000000000

structure Time where
  hour : Nat
  minute : Nat
  second : Nat
  nanos : Nat
  hour_valid : hour < 24
  minute_valid : minute < 60
  second_valid : second < 60
  nanos_valid : nanos < nanosPerSecond ∨ (second = 59 ∧ nanos < 2 * nanosPerSecond)
deriving DecidableEq

/-- The time of an hour, a minute, a second (sixty being a leap second) and a fraction. -/
def Time.of? (hour minute second nanos : Nat) : Option Time :=
  if valid : hour < 24 ∧ minute < 60 ∧ nanos < nanosPerSecond then
    if ordinary : second < 60 then
      some ⟨hour, minute, second, nanos, valid.1, valid.2.1, ordinary, .inl valid.2.2⟩
    else if second = 60 then
      some ⟨hour, minute, 59, nanosPerSecond + nanos, valid.1, valid.2.1, by decide,
        .inr ⟨rfl, by have := valid.2.2; omega⟩⟩
    else
      none
  else
    none

/-- The second that is written, and the fraction that follows it. -/
def Time.written (time : Time) : Nat × Nat :=
  if time.nanos < nanosPerSecond then (time.second, time.nanos)
  else (time.second + 1, time.nanos - nanosPerSecond)

/-- An instant, as its date and time at Greenwich. -/
structure Instant where
  date : Date
  time : Time
deriving DecidableEq

namespace Instant

/-- The instant at which a clock that runs `offset` minutes ahead of Greenwich shows a date and a
time; the offset is less than a day. -/
def ofLocal (date : Date) (time : Time) (offset : Int) : Instant :=
  let minutes := 60 * (time.hour : Int) + time.minute - offset
  let shifted : Date :=
    if minutes < 0 then date.previous else if 24 * 60 ≤ minutes then date.next else date
  let ofDay := (minutes % (24 * 60)).toNat
  { date := shifted
    time := { time with
      hour := ofDay / 60
      minute := ofDay % 60
      hour_valid := by omega
      minute_valid := by omega } }

/-! ## Reading -/

def skipBlanks (text : List Char) : List Char :=
  text.dropWhile Text.isBlank

/-- A number of at least one and at most `most` digits, and the text after it. -/
def takeDigits (most : Nat) (text : List Char) : Option (List Char × List Char) :=
  let digits := (text.take most).takeWhile Char.isDigit
  if digits.isEmpty then none else some (digits, text.drop digits.length)

def valueOf (digits : List Char) : Nat :=
  Nat.ofDigitChars 10 digits 0

/-- A number of at most two digits behind blanks. -/
def takePart (text : List Char) : Option (Nat × List Char) :=
  (takeDigits 2 (skipBlanks text)).map fun (digits, rest) => (valueOf digits, rest)

/-- A year: up to four digits, or a sign and any number of digits. -/
def takeYear (text : List Char) : Option (Int × List Char) :=
  match skipBlanks text with
  | '-' :: rest =>
    (takeDigits rest.length rest).map fun (digits, after) => (-Int.ofNat (valueOf digits), after)
  | '+' :: rest =>
    (takeDigits rest.length rest).map fun (digits, after) => (Int.ofNat (valueOf digits), after)
  | rest => (takeDigits 4 rest).map fun (digits, after) => (Int.ofNat (valueOf digits), after)

/-- The separator `mark` behind blanks. -/
def takeMark (mark : Char) (text : List Char) : Option (List Char) :=
  match skipBlanks text with
  | first :: rest => if first = mark then some rest else none
  | [] => none

/-- A fraction of a second in nanoseconds: nine digits are kept and the others dropped. -/
def takeFraction (text : List Char) : Option (Nat × List Char) :=
  match text with
  | '.' :: rest =>
    (takeDigits 9 rest).map fun (digits, after) =>
      (valueOf (digits ++ List.replicate (9 - digits.length) '0'), after.dropWhile Char.isDigit)
  | _ => some (0, text)

/-- The factor that the sign of an offset stands for; a minus is the hyphen or the mathematical
sign. -/
def offsetSign? (character : Char) : Option Int :=
  if character = '+' then some 1
  else if character = '-' ∨ character = Char.ofNat 0x2212 then some (-1)
  else none

/-- The offset from Greenwich in minutes at the end of a text. -/
def takeOffset (text : List Char) : Option (Int × List Char) :=
  if Text.fold (text.take 3) = "utc".toList then some (0, text.drop 3)
  else
    match text with
    | 'Z' :: rest | 'z' :: rest => some (0, rest)
    | sign :: hourTens :: hourOnes :: rest =>
      match offsetSign? sign, rest.dropWhile fun mark => mark == ':' || Text.isBlank mark with
      | some factor, minuteTens :: minuteOnes :: after =>
        if [hourTens, hourOnes, minuteTens, minuteOnes].all Char.isDigit ∧ minuteTens < '6' then
          let hours := valueOf [hourTens, hourOnes]
          let minutes := valueOf [minuteTens, minuteOnes]
          if hours < 24 then some (factor * (60 * hours + minutes : Nat), after) else none
        else
          none
      | _, _ => none
    | _ => none

/-- The instant that a text writes, if the calendar has it. -/
def ofText? (text : List Char) : Option Instant := do
  let (year, text) ← takeYear text
  let text ← takeMark '-' text
  let (month, text) ← takePart text
  let text ← takeMark '-' text
  let (day, text) ← takePart text
  let text ← match text with
    | 'T' :: rest | 't' :: rest | ' ' :: rest => some rest
    | _ => none
  let (hour, text) ← takePart text
  let text ← takeMark ':' text
  let (minute, text) ← takePart text
  let text ← takeMark ':' text
  let (second, text) ← takePart text
  let (nanos, text) ← takeFraction text
  let (offset, text) ← takeOffset (skipBlanks text)
  let date ← Date.of? year month day
  let time ← Time.of? hour minute second nanos
  let instant := ofLocal date time offset
  if (skipBlanks text).isEmpty ∧ yearInRange year ∧ yearInRange instant.date.year then
    some instant
  else
    none

/-! ## Writing -/

def padded (width value : Nat) : List Char :=
  let digits := (toString value).toList
  List.replicate (width - digits.length) '0' ++ digits

/-- A year: four digits, and a sign as well outside of those. -/
def yearText (year : Int) : List Char :=
  if 0 ≤ year ∧ year ≤ 9999 then padded 4 year.toNat
  else (if 0 ≤ year then '+' else '-') :: padded 4 year.natAbs

/-- A fraction of a second in the fewest of three, six or nine digits; no fraction if none is
needed. -/
def fractionText (nanos : Nat) : List Char :=
  if nanos = 0 then []
  else if nanos % 1000000 = 0 then '.' :: padded 3 (nanos / 1000000)
  else if nanos % 1000 = 0 then '.' :: padded 6 (nanos / 1000)
  else '.' :: padded 9 nanos

def toText (instant : Instant) : List Char :=
  let (second, fraction) := instant.time.written
  yearText instant.date.year ++ '-' :: padded 2 instant.date.month ++
    '-' :: padded 2 instant.date.day ++ 'T' :: padded 2 instant.time.hour ++
    ':' :: padded 2 instant.time.minute ++ ':' :: padded 2 second ++ fractionText fraction ++ ['Z']

def toString (instant : Instant) : String :=
  String.ofList instant.toText

end Instant

end Backbeat.Calendar
