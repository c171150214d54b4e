import PriceSurvey.Decimal.Integer

/-!
# Dates in settings files

A settings file may have a date, a time of day or both without quotation marks. It stands for its
text, in one form: a `T` between date and time, the offset from UTC as `Z` or with a sign, and of
the decimals of a second nine at most, without zeros at their end.
-/
namespace PriceSurvey.Settings.Toml

def isDecimalDigit (c : Char) : Bool := (Integer.digit? c).isSome

/-- A number below `bound` that is written with so many digits: the digits, and what follows. -/
def readField (width bound : Nat) (cs : List Char) : Option (List Char × List Char) :=
  let digits := cs.take width
  if digits.length = width ∧ digits.all isDecimalDigit ∧ Integer.ofDigits digits < bound then
    some (digits, cs.drop width)
  else none

/-- Behind a mark. -/
def after? (mark : Char) : List Char → Option (List Char)
  | [] => none
  | c :: rest => if c = mark then some rest else none

def daysIn (year month : Nat) : Nat :=
  let leap := year % 4 = 0 ∧ (year % 100 ≠ 0 ∨ year % 400 = 0)
  if month = 2 then (if leap then 29 else 28)
  else if [4, 6, 9, 11].contains month then 30
  else 31

/-- A day of the calendar. -/
def readDay (cs : List Char) : Option (List Char × List Char) := do
  let (year, rest) ← readField 4 10000 cs
  let (month, rest) ← readField 2 13 (← after? '-' rest)
  let (day, rest) ← readField 2 32 (← after? '-' rest)
  let number := Integer.ofDigits
  if number month = 0 ∨ number day = 0 ∨ daysIn (number year) (number month) < number day then none
  else some (year ++ '-' :: month ++ '-' :: day, rest)

/-- The decimals of a second behind their point, if there are any. -/
def readDecimals (cs : List Char) : List Char × List Char :=
  match cs with
  | '.' :: rest =>
    let digits := rest.takeWhile isDecimalDigit
    let kept := ((digits.take 9).reverse.dropWhile (· = '0')).reverse
    if digits.isEmpty then ([], cs)
    else (if kept.isEmpty then [] else '.' :: kept, rest.dropWhile isDecimalDigit)
  | _ => ([], cs)

/-- A time of day. A minute may have a leap second. -/
def readTime (cs : List Char) : Option (List Char × List Char) := do
  let (hour, rest) ← readField 2 24 cs
  let (minute, rest) ← readField 2 60 (← after? ':' rest)
  let (second, rest) ← readField 2 61 (← after? ':' rest)
  let (decimals, rest) := readDecimals rest
  return (hour ++ ':' :: minute ++ ':' :: second ++ decimals, rest)

/-- The offset from UTC. One of no minutes has a plus sign. -/
def readOffset (cs : List Char) : Option (List Char × List Char) :=
  match cs with
  | 'Z' :: rest | 'z' :: rest => some (['Z'], rest)
  | sign :: rest =>
    if sign = '+' ∨ sign = '-' then do
      let (hour, rest) ← readField 2 24 rest
      let (minute, rest) ← readField 2 60 (← after? ':' rest)
      let isZero := Integer.ofDigits (hour ++ minute) = 0
      return ((if isZero then '+' else sign) :: hour ++ ':' :: minute, rest)
    else none
  | [] => none

/-- What follows a day: a time behind a `T` or a blank, and an offset behind the time. -/
def readTimeOfDay (cs : List Char) : Option (List Char × List Char) :=
  match cs with
  | delimiter :: rest =>
    if delimiter = 'T' ∨ delimiter = 't' ∨ delimiter = ' ' then do
      let (time, rest) ← readTime rest
      let (offset, rest) := (readOffset rest).getD ([], rest)
      return ('T' :: time ++ offset, rest)
    else none
  | [] => none

/-- A date at the front: a day, with a time or without, or a time alone. -/
def readDate (cs : List Char) : Option (String × List Char) :=
  match readDay cs with
  | some (day, rest) =>
    let (time, rest) := (readTimeOfDay rest).getD ([], rest)
    some (String.ofList (day ++ time), rest)
  | none => (readTime cs).map fun (time, rest) => (String.ofList time, rest)

/-- A date in a list of values. -/
example : readDate "1979-05-27 00:32:00.9990000007z, 1]".toList =
    some ("1979-05-27T00:32:00.999Z", ", 1]".toList) := by decide +kernel

end PriceSurvey.Settings.Toml
