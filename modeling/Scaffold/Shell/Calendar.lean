import Scaffold.Shell.Number

/-!
# Dates

A time is a number of seconds from the start of the year 1970 on, and a date says the same in years,
months, days and hours (`Calendar.dateOf`, `Calendar.secondsOf`). From it follow the day of the
week, the day of the year and the week of the year.

A form says how a time is written: `%Y` stands for the year, `%H` for the hour, and other letters
for other parts (`Calendar.part`). Between the mark and the letter, flags choose what fills a part
up to a width. `Calendar.textIn` writes a time of a zone in a form.
-/

set_option autoImplicit false

namespace Scaffold.Shell

open Text (Octets)

/-- A date with its time of the day. -/
structure Date where
  year : Int
  month : Nat
  day : Nat
  hour : Nat
  minute : Nat
  second : Nat
  deriving DecidableEq, Repr

namespace Calendar

/-- The days from the start of 1970 to a date, in a calendar whose years begin in March, so that the
day that only some years have is their last one. -/
def daysOf (year : Int) (month day : Nat) : Int :=
  let year := if month ≤ 2 then year - 1 else year
  let era := year.fdiv 400
  let yearOfEra := year.fmod 400
  let monthOfYear : Int := (month + 9) % 12
  let dayOfYear := (153 * monthOfYear + 2) / 5 + day - 1
  era * 146097 + (yearOfEra * 365 + yearOfEra / 4 - yearOfEra / 100 + dayOfYear) - 719468

/-- The seconds of a date. -/
def secondsOf (date : Date) : Int :=
  daysOf date.year date.month date.day * 86400 + date.hour * 3600 + date.minute * 60 + date.second

/-- The date of a time. -/
def dateOf (seconds : Int) : Date :=
  let days := seconds.fdiv 86400 + 719468
  let rest := (seconds.fmod 86400).toNat
  let era := days.fdiv 146097
  let dayOfEra := days.fmod 146097
  let yearOfEra := (dayOfEra - dayOfEra / 1460 + dayOfEra / 36524 - dayOfEra / 146096) / 365
  let dayOfYear := dayOfEra - (365 * yearOfEra + yearOfEra / 4 - yearOfEra / 100)
  let monthOfYear := (5 * dayOfYear + 2) / 153
  let day := dayOfYear - (153 * monthOfYear + 2) / 5 + 1
  let month := if monthOfYear < 10 then monthOfYear + 3 else monthOfYear - 9
  let year := yearOfEra + era * 400 + if month ≤ 2 then 1 else 0
  ⟨year, month.toNat, day.toNat, rest / 3600, rest / 60 % 60, rest % 60⟩

/-- The time is so far away that its year does not fit into 32 bits. -/
def isFar (seconds : Int) : Bool :=
  67768036191676799 < seconds || seconds < -67768040609740800

/-- The day of the week, Sunday being zero. -/
def weekdayOf (seconds : Int) : Nat :=
  ((seconds.fdiv 86400 + 4).fmod 7).toNat

/-- The day of the year, the first one being one. -/
def dayOfYear (date : Date) : Nat :=
  (daysOf date.year date.month date.day - daysOf date.year 1 1 + 1).toNat

/-- The names of the days of the week. -/
def weekdays : List String :=
  ["Sunday", "Monday", "Tuesday", "Wednesday", "Thursday", "Friday", "Saturday"]

/-- The names of the months. -/
def months : List String :=
  ["January", "February", "March", "April", "May", "June", "July", "August", "September", "October",
    "November", "December"]

/-! ### Dates that exist -/

/-- The number of days of a month. -/
def monthLength (year : Int) (month : Nat) : Nat :=
  let next := if month = 12 then daysOf (year + 1) 1 1 else daysOf year (month + 1) 1
  (next - daysOf year month 1).toNat

/-- The date, if there is such a one. -/
def date? (year month day hour minute second : Nat) : Option Date :=
  if 1 ≤ month ∧ month ≤ 12 ∧ 1 ≤ day ∧ day ≤ monthLength year month ∧ hour < 24 ∧ minute < 60 ∧
      second < 60 then
    some ⟨year, month, day, hour, minute, second⟩
  else none

/-- The time that digits `[[CC]YY]MMDDhhmm[.ss]` name, at a given present. -/
def stamp? (now : Int) (text : Octets) : Option Int := do
  let digits := text.takeWhile (· != '.')
  let after := text.drop (digits.length + 1)
  let second ←
    if digits.length = text.length then some 0
    else if after.length = 2 then Number.plain? after
    else none
  let value ← Number.plain? digits
  let year ←
    match digits.length with
    | 8 => some (dateOf now).year.toNat
    | 10 =>
      let short := value / 100000000
      some (if short < 69 then 2000 + short else 1900 + short)
    | 12 => some (value / 100000000)
    | _ => none
  let date ← date? year (value / 1000000 % 100) (value / 10000 % 100) (value / 100 % 100)
    (value % 100) (min second 59)
  if second > 60 then none else return secondsOf date + (second - min second 59 : Nat)

/-! ### Weeks -/

/-- The week of the year by the rule that weeks begin on Mondays and belong to the year that has
most of their days: the year and the number of the week. -/
def weekOf (seconds : Int) : Int × Nat :=
  let day := seconds.fdiv 86400
  let weekday := (weekdayOf seconds + 6) % 7
  let thursday := (day - weekday + 3) * 86400
  let date := dateOf thursday
  (date.year, (dayOfYear date - 1) / 7 + 1)

end Calendar

/-! ### Forms of times -/

/-- A zone: its name, and how many seconds its clocks are before the common time. -/
structure Zone where
  name : String
  offset : Int
  deriving Repr

namespace Zone

/-- The zone of the common time. -/
def common : Zone := ⟨"UTC", 0⟩

/-- The zone that a setting names, as `JST-9`: the number says how many hours its clocks are behind
the common time. -/
def ofSetting (setting : Octets) : Zone :=
  let name := setting.takeWhile Char.isAlpha
  let (isNegative, body) := Number.sign (setting.drop name.length)
  let hours := body.takeWhile Char.isDigit
  let minutes := if (body.drop hours.length).head? = some ':' then
      (body.drop (hours.length + 1)).takeWhile Char.isDigit else []
  let size : Int := Text.digitsValue 10 hours * 3600 + Text.digitsValue 10 minutes * 60
  if name.length < 3 then common
  else ⟨String.ofList name, if isNegative then size else -size⟩

/-- The zone among settings. -/
def ofSettings (settings : List (Octets × Octets)) : Zone :=
  match settings.lookup "TZ".toList with
  | some [] => ⟨"Universal", 0⟩
  | some setting => ofSetting setting
  | none => common

end Zone

namespace Calendar

/-- A time to be written: its seconds and billionths, and its zone. -/
structure Moment where
  seconds : Int
  billionths : Nat
  zone : Zone

/-- The seconds as the clocks of the zone show them. -/
def Moment.clock (moment : Moment) : Int :=
  moment.seconds + moment.zone.offset

/-- How a part is fitted into a width. -/
structure Fitting where
  /-- What fills the width. -/
  filler : Option Char
  width : Option Nat
  isUpper : Bool
  /-- Letters change their case. -/
  isSwapped : Bool
  deriving Repr

namespace Fitting

/-- A text fitted into the width. -/
def text (fitting : Fitting) (text : Octets) : Octets :=
  if fitting.filler = some '-' then text
  else
    let filler :=
      if fitting.filler = some '0' ∨ fitting.filler = some '+' then '0' else ' '
    List.replicate (fitting.width.getD 0 - text.length) filler ++ text

/-- A word fitted into the width, in the wanted case. -/
def word (fitting : Fitting) (word : String) (isSwappedLow : Bool) : Octets :=
  fitting.text <|
    if fitting.isSwapped && isSwappedLow then word.toLower.toList
    else if fitting.isUpper || fitting.isSwapped then word.toUpper.toList
    else word.toList

/-- The digits of a number with a sign in front, fitted into the width. -/
def signed (fitting : Fitting) (sign digits : Octets) (filler : Char) (least : Nat) : Octets :=
  let width := fitting.width.getD least
  let gap := width - sign.length - digits.length
  match fitting.filler.getD filler with
  | '-' => sign ++ digits
  | '_' => List.replicate gap ' ' ++ sign ++ digits
  | _ => sign ++ List.replicate gap '0' ++ digits

/-- A number fitted into the width. -/
def number (fitting : Fitting) (filler : Char) (least : Nat) (value : Int) : Octets :=
  fitting.signed (if value < 0 then ['-'] else []) (Number.digits 10 value.natAbs) filler least

/-- A number of years fitted into the width; one that is large has a sign if one is wanted. -/
def years (fitting : Fitting) (least : Nat) (value : Int) : Octets :=
  let isLarge := value > (if least = 2 then 99 else 9999) || fitting.width.any (least < ·)
  let sign :=
    if value < 0 then ['-'] else if fitting.filler = some '+' ∧ isLarge then ['+'] else []
  fitting.signed sign (Number.digits 10 value.natAbs) '0' least

/-- The billionths of a second fitted into the width: that many digits are kept. -/
def billionths (fitting : Fitting) (value : Nat) : Octets :=
  let width := if fitting.width.getD 0 = 0 then 9 else fitting.width.getD 9
  let digits := Number.digits 10 (1000000000 + value) |>.drop 1 |>.take width
  let core := (digits.reverse.dropWhile (· == '0')).reverse
  let core := if core.isEmpty then digits.take 1 else core
  match fitting.filler with
  | some '-' => if fitting.width.isNone then digits else core
  | some '_' => core ++ List.replicate (width - core.length) ' '
  | _ => core ++ List.replicate (width - core.length) '0'

/-- An offset from the common time fitted into the width, with so many colons. -/
def offset (fitting : Fitting) (seconds : Int) (colons : Nat) : Octets :=
  let size := seconds.natAbs
  let sign := if seconds < 0 then ['-'] else ['+']
  let pair := fun (value : Nat) ↦ Number.digits 10 (100 + value % 60) |>.drop 1
  let hours := Number.digits 10 (size / 3600)
  let colons :=
    if colons = 3 then if size % 60 ≠ 0 then 2 else if size / 60 % 60 ≠ 0 then 1 else 4 else colons
  match colons with
  | 0 => fitting.signed sign (Number.digits 10 (size / 3600 * 100 + size / 60 % 60)) '0' 5
  | 1 => fitting.signed sign (hours ++ ':' :: pair (size / 60)) '0' 6
  | 2 => fitting.signed sign (hours ++ ':' :: pair (size / 60) ++ ':' :: pair size) '0' 9
  | _ => fitting.signed sign hours '0' 3

end Fitting

/-- The part of a time that a letter stands for, fitted into a width. -/
def part (moment : Moment) (fitting : Fitting) (letter : Char) : Option Octets :=
  let date := dateOf moment.clock
  let weekday := weekdayOf moment.clock
  let hour12 := if date.hour % 12 = 0 then 12 else date.hour % 12
  let number := fun (least : Nat) (value : Nat) ↦ some (fitting.number '0' least value)
  let spaced := fun (value : Nat) ↦ some (fitting.number '_' 2 value)
  let month := months.getD (date.month - 1) ""
  let week := weekOf moment.clock
  match letter with
  | 'Y' => some (fitting.years 4 date.year)
  | 'G' => some (fitting.years 4 week.1)
  | 'C' => some (fitting.years 2 (date.year.fdiv 100))
  | 'y' => some (fitting.years 2 (date.year.fmod 100))
  | 'g' => some (fitting.years 2 (week.1.fmod 100))
  | 'm' => number 2 date.month
  | 'd' => number 2 date.day
  | 'e' => spaced date.day
  | 'H' => number 2 date.hour
  | 'k' => spaced date.hour
  | 'I' => number 2 hour12
  | 'l' => spaced hour12
  | 'M' => number 2 date.minute
  | 'S' => number 2 date.second
  | 'N' => some (fitting.billionths moment.billionths)
  | 's' => some (fitting.number '0' 1 moment.seconds)
  | 'j' => number 3 (dayOfYear date)
  | 'u' => number 1 (if weekday = 0 then 7 else weekday)
  | 'w' => number 1 weekday
  | 'U' => number 2 ((dayOfYear date + 6 - weekday) / 7)
  | 'W' => number 2 ((dayOfYear date + 6 - (weekday + 6) % 7) / 7)
  | 'V' => number 2 week.2
  | 'q' => number 1 ((date.month - 1) / 3 + 1)
  | 'a' => some (fitting.word ((weekdays.getD weekday "").take 3).toString false)
  | 'A' => some (fitting.word (weekdays.getD weekday "") false)
  | 'b' | 'h' => some (fitting.word (month.take 3).toString false)
  | 'B' => some (fitting.word month false)
  | 'p' => some (fitting.word (if date.hour < 12 then "AM" else "PM") true)
  | 'P' => some (fitting.text (if date.hour < 12 then "am" else "pm").toList)
  | 'Z' => some (fitting.word moment.zone.name true)
  | 'z' => some (fitting.offset moment.zone.offset 0)
  | 'n' => some (fitting.text ['\n'])
  | 't' => some (fitting.text ['\t'])
  | _ => none

/-- The forms that letters stand for. -/
def shortForms : List (Char × String) :=
  [('F', "%Y-%m-%d"), ('T', "%H:%M:%S"), ('X', "%H:%M:%S"), ('D', "%m/%d/%y"), ('x', "%m/%d/%y"),
    ('R', "%H:%M"), ('r', "%I:%M:%S %p"), ('c', "%a %b %e %H:%M:%S %Y")]

/-- A time in a form of letters alone. The year takes the filler, and it takes the width if it comes
first. -/
def plainly (moment : Moment) (fitting : Fitting) (width? : Option Nat) : Octets → Octets
  | '%' :: letter :: rest =>
    let inner : Fitting :=
      if letter = 'Y' ∨ letter = 'y' then ⟨fitting.filler, width?, false, false⟩
      else ⟨none, width?, fitting.isUpper, false⟩
    (part moment inner letter).getD [] ++ plainly moment fitting none rest
  | c :: rest => c :: plainly moment fitting none rest
  | [] => []

/-- The letter may follow a mark for another form of the same part. -/
def takesModifier (modifier letter : Char) : Bool :=
  if modifier = 'E' then "cCxXyY".contains letter
  else "bBhCdeHIjklmMNqsSuUVwWyGg".contains letter

/-- A time in a form; `left` bounds the length of the form. -/
def written (moment : Moment) : (left : Nat) → Octets → Octets
  | 0, _ => []
  | _ + 1, [] => []
  | left + 1, '%' :: rest =>
    let flags := rest.takeWhile fun c ↦ ['-', '_', '0', '^', '#', '+'].contains c
    let after := rest.drop flags.length
    let digits := after.takeWhile Char.isDigit
    let after := after.drop digits.length
    let modifier? := after.head?.filter fun c ↦ c == 'E' || c == 'O'
    let after := if modifier?.isSome then after.drop 1 else after
    let fitting : Fitting :=
      { filler := (flags.filter fun c ↦ c != '^' && c != '#').getLast?
        width := if digits.isEmpty then none else some (Text.digitsValue 10 digits)
        isUpper := flags.contains '^'
        isSwapped := flags.contains '#' }
    let verbatim := fun (tail : Octets) ↦
      fitting.text ('%' :: flags ++ digits ++ modifier?.toList ++ tail)
    match after with
    | [] => verbatim []
    | ':' :: more =>
      let colons := more.takeWhile (· == ':')
      if (more.drop colons.length).head? = some 'z' ∧ colons.length < 3 then
        fitting.offset moment.zone.offset (colons.length + 1) ++
          written moment left (more.drop (colons.length + 1))
      else verbatim [':'] ++ written moment left more
    | '%' :: more =>
      if flags.isEmpty && digits.isEmpty && modifier?.isNone then '%' :: written moment left more
      else verbatim [] ++ written moment left after
    | letter :: more =>
      let isAllowed := modifier?.all fun modifier ↦ takesModifier modifier letter
      let shown? :=
        if !isAllowed then none
        else
          match shortForms.lookup letter with
          | none => part moment fitting letter
          | some form =>
            let (filler, width?) :=
              if letter != 'F' then (fitting.filler, none)
              else if fitting.filler.isNone ∧ fitting.width.isNone then (some '+', some 4)
              else (fitting.filler, some (fitting.width.getD 0 - 6))
            some (fitting.text (plainly moment { fitting with filler := filler } width?
              form.toList))
      shown?.getD (verbatim [letter]) ++ written moment left more
  | left + 1, c :: rest => c :: written moment left rest

/-- A time of a zone in a form. -/
def textIn (moment : Moment) (form : Octets) : Octets :=
  written moment (form.length + 1) form

/-- A time in microseconds in a form, as the clocks of a zone show it. -/
def text (zone : Zone) (form : Octets) (time : Int) : Octets :=
  textIn ⟨time.fdiv 1000000, (time.fmod 1000000).toNat * 1000, zone⟩ form

end Calendar

end Scaffold.Shell
