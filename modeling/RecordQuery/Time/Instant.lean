import RecordQuery.Time.Calendar
import RecordQuery.Text.Digits

/-!
# Instants

Points of time in UTC, to the nanosecond. A leap second has no number of its own: it is the last
second of its minute with a thousand million or more nanoseconds.
-/
namespace RecordQuery.Time

structure Instant where
  date : Date
  /-- The second of the day. -/
  second : Fin 86400
  nanosecond : Fin 2000000000
  isLeap : 1000000000 ≤ nanosecond.val → second.val % 60 = 59
  deriving DecidableEq

namespace Instant

def compare (a b : Instant) : Ordering :=
  (a.date.compare b.date).then
    ((Ord.compare a.second.val b.second.val).then
      (Ord.compare a.nanosecond.val b.nanosecond.val))

def of? (date : Date) (second nanosecond : Nat) : Option Instant :=
  if h : second < 86400 ∧ nanosecond < 2000000000 ∧
      (1000000000 ≤ nanosecond → second % 60 = 59) then
    some ⟨date, ⟨second, h.1⟩, ⟨nanosecond, h.2.1⟩, h.2.2⟩
  else none

def midnight (date : Date) : Instant :=
  ⟨date, ⟨0, by decide⟩, ⟨0, by decide⟩, fun h => absurd h (by decide)⟩

/-- The instant that clocks `offset` minutes ahead of UTC show as the given date and second. -/
def ofLocal? (date : Date) (second nanosecond : Nat) (offset : Int) : Option Instant :=
  let s := (second : Int) - 60 * offset
  if s < 0 then do of? (← date.previous?) (s + 86400).toNat nanosecond
  else if s < 86400 then of? date s.toNat nanosecond
  else do of? (← date.next?) (s - 86400).toNat nanosecond

/-- Four digits, or a sign and at least four digits outside the years `0` to `9999`. -/
def yearText (year : Int) : List Char :=
  if 0 ≤ year ∧ year ≤ 9999 then Text.Digits.padded 4 year.toNat
  else (if year < 0 then '-' else '+') :: Text.Digits.padded 4 year.natAbs

/-- Date and time down to the second; a leap second shows as second sixty. -/
def secondsText (t : Instant) : List Char :=
  let two := Text.Digits.padded 2
  let s := t.second.val
  yearText t.date.year ++ '-' :: two t.date.month ++ '-' :: two t.date.day ++
    'T' :: two (s / 3600) ++ ':' :: two (s / 60 % 60) ++
    ':' :: two (s % 60 + t.nanosecond.val / 1000000000)

/-- A run of digits without the zeros at its end. -/
def trimZeros (digits : List Char) : List Char := (digits.reverse.dropWhile (· = '0')).reverse

/-- The spelling in filter clauses and keys: a fraction without trailing zeros follows unless the
nanosecond is zero. -/
def clauseText (t : Instant) : List Char :=
  if t.nanosecond.val = 0 then t.secondsText ++ ['Z']
  else
    t.secondsText ++ '.' :: trimZeros (Text.Digits.padded 9 (t.nanosecond.val % 1000000000)) ++
      ['Z']

/-- The spelling in stored predicates: no fraction, or one of three, six or nine digits. -/
def storedText (t : Instant) : List Char :=
  let n := t.nanosecond.val % 1000000000
  let fraction :=
    if n = 0 then []
    else if n % 1000000 = 0 then '.' :: Text.Digits.padded 3 (n / 1000000)
    else if n % 1000 = 0 then '.' :: Text.Digits.padded 6 (n / 1000)
    else '.' :: Text.Digits.padded 9 n
  t.secondsText ++ fraction ++ ['Z']

end Instant

end RecordQuery.Time
