import Scaffold.Shell.Calendar

/-!
# Phrases for times

A time in words: `2020-01-01 10:00`, `1 Jan 2020`, `@86400`, `3 days ago`, `next friday`. A phrase
is cut into marks (`Mark.ofText`), the marks are read off one item after the other (`Phrase.item?`),
and the items, in any order, make a time at a given present (`Phrase.moment?`). A day, a time of the
day, a day of the week and a zone may each be named once.
-/

set_option autoImplicit false

namespace Scaffold.Shell.Calendar

open Text (Octets)

/-- Whether a character parts the words of a phrase and means nothing else. -/
def isBlank (c : Char) : Bool :=
  c.isWhitespace || c == '\x0b' || c == '\x0c'

/-- A whole number in a phrase, with its sign and how many digits it has. -/
structure Figure where
  isNegative : Bool
  size : Nat
  digits : Nat
  deriving Repr

/-- The number with its sign. -/
def Figure.value (figure : Figure) : Int :=
  if figure.isNegative then -figure.size else figure.size

/-- A length of time: its months are counted as they come, and so are its days. -/
structure Span where
  months : Int
  days : Int
  seconds : Int
  billionths : Int
  deriving Repr

/-- Units of time. -/
inductive Measure
  | months (count : Nat)
  | days (count : Nat)
  | seconds (count : Nat)
  deriving DecidableEq, Repr

namespace Span

/-- No time at all. -/
def zero : Span := ⟨0, 0, 0, 0⟩

/-- So many of a unit. -/
def ofMeasure (count : Int) : Measure → Span
  | .months months => ⟨count * months, 0, 0, 0⟩
  | .days days => ⟨0, count * days, 0, 0⟩
  | .seconds seconds => ⟨0, 0, count * seconds, 0⟩

/-- Both lengths, the second one so many times. -/
def add (span : Span) (count : Int) (more : Span) : Span :=
  ⟨span.months + count * more.months, span.days + count * more.days,
    span.seconds + count * more.seconds, span.billionths + count * more.billionths⟩

end Span

/-- What a phrase is made of. -/
inductive Mark
  /-- A number, perhaps with a sign. -/
  | figure (hasSign : Bool) (figure : Figure)
  /-- A number of seconds with a fraction: the seconds below it, and the billionths above those. -/
  | fraction (seconds : Int) (billionths : Nat)
  | month (number : Nat)
  | weekday (number : Nat)
  | meridian (isAfternoon : Bool)
  /-- A zone, so many seconds before the common time. -/
  | zone (seconds : Int)
  /-- The time of the zone before it is that of summer. -/
  | summer
  | measure (unit : Measure)
  | ordinal (number : Int)
  | dayShift (count : Int)
  /-- The length before it counts so many times. -/
  | turn (count : Int)
  /-- The letter between a day and a time of the day. -/
  | divider
  | symbol (c : Char)
  deriving Repr

namespace Mark

/-- The words for halves of the day. -/
def meridians : List (String × Mark) :=
  [("AM", meridian false), ("A.M.", meridian false), ("PM", meridian true),
    ("P.M.", meridian true)]

/-- The names of months and of days of the week. -/
def calendarNames : List (String × Mark) :=
  (months.zipIdx.map fun (name, index) ↦ (name.toUpper, month (index + 1))) ++
    [("SEPT", month 9)] ++
    (weekdays.zipIdx.map fun (name, index) ↦ (name.toUpper, weekday index)) ++
    [("TUES", weekday 2), ("WEDNES", weekday 3), ("THUR", weekday 4), ("THURS", weekday 4)]

/-- Half an hour in seconds. -/
def halfHour : Int := 1800

/-- The names of zones, with how many half hours they are before the common time. -/
def zoneNames : List (String × Int) :=
  [("GMT", 0), ("UT", 0), ("UTC", 0), ("WET", 0), ("WEST", 2), ("BST", 2), ("ART", -6), ("BRT", -6),
    ("BRST", -4), ("NST", -7), ("NDT", -5), ("AST", -8), ("ADT", -6), ("CLT", -8), ("CLST", -6),
    ("EST", -10), ("EDT", -8), ("CST", -12), ("CDT", -10), ("MST", -14), ("MDT", -12),
    ("PST", -16), ("PDT", -14), ("AKST", -18), ("AKDT", -16), ("HST", -20), ("HAST", -20),
    ("HADT", -18), ("SST", -24), ("WAT", 2), ("CET", 2), ("CEST", 4), ("MET", 2), ("MEZ", 2),
    ("MEST", 4), ("MESZ", 4), ("EET", 4), ("EEST", 6), ("CAT", 4), ("SAST", 4), ("EAT", 6),
    ("MSK", 6), ("MSD", 8), ("IST", 11), ("SGT", 16), ("KST", 18), ("JST", 18), ("GST", 20),
    ("NZST", 24), ("NZDT", 26)]

/-- The zone of a name. -/
def zone? (word : String) : Option Mark :=
  (zoneNames.lookup word).map fun count ↦ zone (count * halfHour)

/-- The names of units. -/
def measures : List (String × Measure) :=
  [("YEAR", .months 12), ("MONTH", .months 1), ("FORTNIGHT", .days 14), ("WEEK", .days 7),
    ("DAY", .days 1), ("HOUR", .seconds 3600), ("MINUTE", .seconds 60), ("MIN", .seconds 60),
    ("SECOND", .seconds 1), ("SEC", .seconds 1)]

/-- The words for distances. -/
def distances : List (String × Mark) :=
  [("TOMORROW", dayShift 1), ("YESTERDAY", dayShift (-1)), ("TODAY", dayShift 0),
    ("NOW", dayShift 0), ("LAST", ordinal (-1)), ("THIS", ordinal 0), ("NEXT", ordinal 1),
    ("FIRST", ordinal 1), ("THIRD", ordinal 3), ("FOURTH", ordinal 4), ("FIFTH", ordinal 5),
    ("SIXTH", ordinal 6), ("SEVENTH", ordinal 7), ("EIGHTH", ordinal 8), ("NINTH", ordinal 9),
    ("TENTH", ordinal 10), ("ELEVENTH", ordinal 11), ("TWELFTH", ordinal 12), ("AGO", turn (-1)),
    ("HENCE", turn 1)]

/-- What a single letter stands for: a zone, but for the letter between a day and a time. -/
def letter? (c : Char) : Option Mark :=
  if c = 'T' then some divider
  else if c = 'Z' then some (zone 0)
  else
    let hours := fun (letters : String) (step : Int) ↦
      (letters.toList.zipIdx.find? (·.1 == c)).map fun (_, index) ↦
        zone (step * ((index : Int) + 1) * (2 * halfHour))
    (hours "ABCDEFGHIKLM" 1).or (hours "NOPQRSTUVWXY" (-1))

/-- The mark that a word is. -/
def ofWord? (word : Octets) : Option Mark :=
  let upper := String.ofList (word.map Char.toUpper)
  let isShort := word.length == 3 || word.length == 4 && word.getLast? == some '.'
  let named := calendarNames.find? fun (name, _) ↦
    if isShort then (upper.take 3).toString == (name.take 3).toString else upper == name
  let single := if upper.endsWith "S" then (upper.dropEnd 1).toString else upper
  let measured := ((measures.lookup upper).or (measures.lookup single)).map measure
  let lone := if word.length = 1 then upper.toList.head?.bind letter? else none
  let plain := String.ofList (upper.toList.filter (· != '.'))
  (((((((meridians.lookup upper).or (named.map (·.2))).or (zone? upper)).or
    (if upper = "DST" then some summer else none)).or measured).or
      (distances.lookup upper)).or lone).or (if plain = upper then none else zone? plain)

/-- The number of seconds with the decimals that follow it. -/
def ofDecimals (isNegative : Bool) (whole : Nat) (decimals : Octets) : Mark :=
  let kept := (decimals ++ List.replicate 9 '0').take 9
  let billionths := Text.digitsValue 10 kept
  if !isNegative then fraction whole billionths
  else
    let isInexact := (decimals.drop 9).any (· != '0')
    let billionths := if isInexact then billionths + 1 else billionths
    if billionths = 0 then fraction (-whole) 0
    else fraction (-whole - 1) (1000000000 - billionths)

/-- The text after a remark in brackets, which starts at a depth. -/
def afterRemark (depth : Nat) : Octets → Octets
  | [] => []
  | '(' :: rest => afterRemark (depth + 1) rest
  | ')' :: rest => if depth ≤ 1 then rest else afterRemark (depth - 1) rest
  | _ :: rest => afterRemark depth rest

/-- The number at the front of a text, after its sign, and what follows it. -/
def number (sign? : Option Char) (text : Octets) : Mark × Octets :=
  let digits := text.takeWhile Char.isDigit
  let rest := text.drop digits.length
  let whole := Text.digitsValue 10 digits
  let isNegative := sign? == some '-'
  match rest with
  | point :: next :: more =>
    if (point = '.' ∨ point = ',') ∧ next.isDigit then
      let decimals := (next :: more).takeWhile Char.isDigit
      (ofDecimals isNegative whole decimals, (next :: more).drop decimals.length)
    else (figure sign?.isSome ⟨isNegative, whole, digits.length⟩, rest)
  | _ => (figure sign?.isSome ⟨isNegative, whole, digits.length⟩, rest)

/-- The marks of a phrase, if all words are known; `left` bounds its length. -/
def ofText : (left : Nat) → Octets → Option (List Mark)
  | 0, _ => some []
  | _ + 1, [] => some []
  | left + 1, c :: rest =>
    if isBlank c then ofText left rest
    else if c = '-' ∨ c = '+' then
      let body := rest.dropWhile Char.isWhitespace
      if body.head?.any Char.isDigit then do
        let (mark, after) := number (some c) body
        return mark :: (← ofText left after)
      else ofText left body
    else if c.isDigit then do
      let (mark, after) := number none (c :: rest)
      return mark :: (← ofText left after)
    else if c.isAlpha then do
      let word := (c :: rest).takeWhile fun c ↦ c.isAlpha || c == '.'
      let mark ← ofWord? (word.take 19)
      return mark :: (← ofText left ((c :: rest).drop word.length))
    else if c = '(' then ofText left (afterRemark 1 rest)
    else do return symbol c :: (← ofText left rest)

end Mark

/-- What a phrase has named so far. -/
structure Phrase where
  year : Figure
  month : Int
  day : Int
  /-- The time of the day, and the half of the day that it is in. -/
  hour : Nat
  minute : Nat
  second : Nat
  billionths : Nat
  isAfternoon : Option Bool
  /-- Which of the days of the week: the next one is zero or one. -/
  weekOrdinal : Int
  weekday : Nat
  /-- The zone, so many seconds before the common time. -/
  zone : Int
  dates : Nat
  clocks : Nat
  weekdays : Nat
  zones : Nat
  span : Span
  hasSpan : Bool
  deriving Repr

namespace Phrase

/-- The phrase with a length of time added to what it names. -/
def shifted (phrase : Phrase) (count : Int) (span : Span) : Phrase :=
  { phrase with span := phrase.span.add count span, hasSpan := true }

/-- The phrase with a date. -/
def onDate (phrase : Phrase) (year : Figure) (month day : Int) : Phrase :=
  { phrase with year := year, month := month, day := day, dates := phrase.dates + 1 }

/-- The phrase with a month and a day. -/
def onDay (phrase : Phrase) (month day : Int) : Phrase :=
  { phrase with month := month, day := day, dates := phrase.dates + 1 }

/-- The phrase with a time of the day. -/
def atClock (phrase : Phrase) (hour minute second billionths : Nat) : Phrase :=
  { phrase with
    hour := hour, minute := minute, second := second, billionths := billionths
    isAfternoon := none, clocks := phrase.clocks + 1 }

/-- The phrase with a day of the week. -/
def onWeekday (phrase : Phrase) (ordinal : Int) (weekday : Nat) : Phrase :=
  { phrase with weekOrdinal := ordinal, weekday := weekday, weekdays := phrase.weekdays + 1 }

/-- The phrase with a zone. -/
def inZone (phrase : Phrase) (seconds : Int) : Phrase :=
  { phrase with zone := seconds, zones := phrase.zones + 1 }

/-- The seconds that an offset of hours, or of hours and minutes, is. -/
def offset? (hours : Figure) (minutes? : Option Nat) : Option Int :=
  let minutes : Int :=
    match minutes? with
    | some minutes => hours.value * 60 + if hours.isNegative then -(minutes : Int) else minutes
    | none =>
      let value := if hours.digits ≤ 2 then hours.value * 100 else hours.value
      value.tdiv 100 * 60 + value.tmod 100
  if minutes.natAbs ≤ 1440 then some (minutes * 60) else none

/-- Reads an offset, if there is one, and adds it to a zone. -/
def withOffset (phrase : Phrase) (base : Int) : List Mark → Option (Phrase × List Mark)
  | .figure true hours :: .symbol ':' :: .figure false minutes :: rest => do
    return (phrase.inZone (base + (← offset? hours (some minutes.size))), rest)
  | .figure true hours :: rest => do
    return (phrase.inZone (base + (← offset? hours none)), rest)
  | rest => some (phrase, rest)

/-- Reads what may follow a time of the day: the half of the day, or an offset. -/
def afterClock (phrase : Phrase) : List Mark → Option (Phrase × List Mark)
  | .meridian isAfternoon :: rest => some ({ phrase with isAfternoon := some isAfternoon }, rest)
  | rest => phrase.withOffset 0 rest

/-- Reads what may follow a length of time: the direction. -/
def afterSpan (phrase : Phrase) (span : Span) : List Mark → Phrase × List Mark
  | .turn count :: rest => (phrase.shifted count span, rest)
  | rest => (phrase.shifted 1 span, rest)

/-- Reads a time of the day with its minutes, and perhaps its seconds. -/
def clock? (phrase : Phrase) : List Mark → Option (Phrase × List Mark)
  | .figure false hour :: .symbol ':' :: .figure false minute :: .symbol ':' ::
      .figure false second :: rest =>
    (phrase.atClock hour.size minute.size second.size 0).afterClock rest
  | .figure false hour :: .symbol ':' :: .figure false minute :: .symbol ':' ::
      .fraction (.ofNat second) billionths :: rest =>
    (phrase.atClock hour.size minute.size second billionths).afterClock rest
  | .figure _ _ :: .symbol ':' :: .figure _ _ :: .symbol ':' :: _ => none
  | .figure false hour :: .symbol ':' :: .figure false minute :: rest =>
    (phrase.atClock hour.size minute.size 0 0).afterClock rest
  | _ => none

/-- Takes a number alone, which is a year after a date, a date if it has five digits or more, and a
time of the day else. -/
def withNumber (phrase : Phrase) (figure : Figure) : Phrase :=
  if phrase.dates > 0 ∧ phrase.year.digits = 0 ∧ !phrase.hasSpan ∧
      (phrase.clocks > 0 ∨ figure.digits > 2) then
    { phrase with year := figure }
  else if figure.digits > 4 then
    phrase.onDate ⟨false, figure.size / 10000, figure.digits - 4⟩ (figure.size / 100 % 100 : Nat)
      (figure.size % 100 : Nat)
  else if figure.digits ≤ 2 then phrase.atClock figure.size 0 0 0
  else phrase.atClock (figure.size / 100) (figure.size % 100) 0 0

/-- Reads a day and a time of the day with a letter between them. -/
def afterDate (phrase : Phrase) : List Mark → Option (Phrase × List Mark)
  | .divider :: .figure false hour :: .figure true zone :: rest =>
    (phrase.atClock hour.size 0 0 0).withOffset 0 (.figure true zone :: rest)
  | .divider :: rest => do
    let (phrase, rest) ← phrase.clock? rest
    if phrase.isAfternoon.isSome then none else return (phrase, rest)
  | rest => some (phrase, rest)

/-- Reads an item that begins with a number without a sign. -/
def ofFigure (phrase : Phrase) (figure : Figure) : List Mark → Option (Phrase × List Mark)
  | .meridian isAfternoon :: rest =>
    some ({ phrase.atClock figure.size 0 0 0 with isAfternoon := some isAfternoon }, rest)
  | .symbol ':' :: rest => phrase.clock? (.figure false figure :: .symbol ':' :: rest)
  | .symbol '/' :: .figure false second :: .symbol '/' :: .figure false third :: rest =>
    if figure.digits ≥ 4 then some (phrase.onDate figure second.size third.size, rest)
    else some (phrase.onDate third figure.size second.size, rest)
  | .symbol '/' :: .figure false _ :: .symbol '/' :: _ => none
  | .symbol '/' :: .figure false day :: rest => some (phrase.onDay figure.size day.size, rest)
  | .month month :: .figure true year :: rest =>
    some (phrase.onDate { year with isNegative := !year.isNegative } month figure.size, rest)
  | .month month :: .figure false year :: rest =>
    some (phrase.onDate year month figure.size, rest)
  | .month month :: rest => some (phrase.onDay month figure.size, rest)
  | .weekday weekday :: rest => some (phrase.onWeekday figure.size weekday, rest)
  | .measure unit :: rest => some (phrase.afterSpan (.ofMeasure figure.size unit) rest)
  | .figure true count :: .measure unit :: rest =>
    some ((phrase.withNumber figure).shifted 1 (.ofMeasure count.value unit), rest)
  | .figure true month :: .figure true day :: rest =>
    (phrase.onDate figure (-month.value) (-day.value)).afterDate rest
  | .figure true zone :: rest =>
    (phrase.atClock figure.size 0 0 0).withOffset 0 (.figure true zone :: rest)
  | rest => some (phrase.withNumber figure, rest)

/-- Reads what may follow a zone. -/
def afterZone (phrase : Phrase) (seconds : Int) : List Mark → Option (Phrase × List Mark)
  | .figure true count :: .measure unit :: rest =>
    some ((phrase.inZone seconds).shifted 1 (.ofMeasure count.value unit), rest)
  | .figure true hours :: rest => phrase.withOffset seconds (.figure true hours :: rest)
  | .summer :: rest => some (phrase.inZone (seconds + 3600), rest)
  | rest => some (phrase.inZone seconds, rest)

/-- Reads one item. -/
def item? (phrase : Phrase) : List Mark → Option (Phrase × List Mark)
  | .figure false figure :: rest => phrase.ofFigure figure rest
  | .figure true count :: .measure unit :: rest =>
    some (phrase.afterSpan (.ofMeasure count.value unit) rest)
  | .fraction seconds billionths :: .measure (.seconds 1) :: rest =>
    some (phrase.afterSpan ⟨0, 0, seconds, billionths⟩ rest)
  | .month month :: .figure true day :: .figure true year :: rest =>
    some (phrase.onDate { year with isNegative := !year.isNegative } month (-day.value), rest)
  | .month month :: .figure false day :: .symbol ',' :: .figure false year :: rest =>
    some (phrase.onDate year month day.size, rest)
  | .month month :: .figure false day :: rest => some (phrase.onDay month day.size, rest)
  | .weekday weekday :: .symbol ',' :: rest => some (phrase.onWeekday 0 weekday, rest)
  | .weekday weekday :: rest => some (phrase.onWeekday 0 weekday, rest)
  | .ordinal number :: .weekday weekday :: rest => some (phrase.onWeekday number weekday, rest)
  | .ordinal number :: .measure unit :: rest =>
    some (phrase.afterSpan (.ofMeasure number unit) rest)
  | .measure unit :: rest => some (phrase.afterSpan (.ofMeasure 1 unit) rest)
  | .dayShift count :: rest => some (phrase.shifted 1 (.ofMeasure count (.days 1)), rest)
  | .zone seconds :: rest => phrase.afterZone seconds rest
  | .divider :: .figure true count :: .measure unit :: rest =>
    some ((phrase.inZone (-7 * 3600)).shifted 1 (.ofMeasure count.value unit), rest)
  | .divider :: rest => some (phrase.inZone (-7 * 3600), rest)
  | _ => none

/-- Reads items; `left` bounds their number. -/
def items? : (left : Nat) → Phrase → List Mark → Option Phrase
  | _, phrase, [] => some phrase
  | 0, _, _ => none
  | left + 1, phrase, marks => do
    let (phrase, rest) ← phrase.item? marks
    items? left phrase rest

/-- The phrase that names nothing, at a present in seconds and billionths. -/
def present (seconds : Int) (billionths : Nat) : Phrase :=
  let date := dateOf seconds
  ⟨⟨date.year < 0, date.year.natAbs, 0⟩, date.month, date.day, date.hour, date.minute, date.second,
    billionths, none, 0, 0, 0, 0, 0, 0, 0, .zero, false⟩

/-- The year that is meant: one of two digits is near the year 2000. -/
def meantYear (year : Figure) : Int :=
  if year.digits = 2 ∧ !year.isNegative then
    if year.size < 69 then year.value + 2000 else year.value + 1900
  else year.value

/-- The hour of the day that is meant. -/
def meantHour? (phrase : Phrase) : Option Nat :=
  match phrase.isAfternoon with
  | none => if phrase.hour < 24 then some phrase.hour else none
  | some isAfternoon =>
    if 0 < phrase.hour ∧ phrase.hour ≤ 12 then
      some (phrase.hour % 12 + if isAfternoon then 12 else 0)
    else none

/-- The seconds of a day of a month, counted from a month and day that need not exist. -/
def dayFrom (year month day : Int) : Int :=
  let months := year * 12 + month - 1
  (daysOf (months.fdiv 12) ((months.fmod 12).toNat + 1) 1 + day - 1) * 86400

/-- The time that is named, in seconds and billionths; `zone` says how many seconds the clock is
before the common time. -/
def moment? (phrase : Phrase) (zone : Int) : Option (Int × Nat) := do
  if phrase.dates > 1 ∨ phrase.clocks > 1 ∨ phrase.weekdays > 1 ∨ phrase.zones > 1 then none
  let hasClock :=
    phrase.clocks > 0 || phrase.hasSpan && phrase.dates == 0 && phrase.weekdays == 0
  let hour ← if hasClock then phrase.meantHour? else some 0
  let (minute, second, billionths) :=
    if hasClock then (phrase.minute, phrase.second, phrase.billionths) else (0, 0, 0)
  let year := meantYear phrase.year
  if phrase.month < 1 ∨ phrase.month > 12 ∨ phrase.day < 1 ∨
      phrase.day > monthLength year phrase.month.toNat ∨ minute ≥ 60 ∨ second ≥ 60 ∨
      year.natAbs > 2147485547 then none
  let clock : Int := hour * 3600 + minute * 60 + second
  let start := dayFrom year phrase.month phrase.day
  let weekday := weekdayOf start
  let days : Int :=
    if phrase.weekdays > 0 ∧ phrase.dates = 0 then
      let ordinal := phrase.weekOrdinal -
        if phrase.weekOrdinal > 0 ∧ weekday ≠ phrase.weekday then 1 else 0
      (((phrase.weekday + 7 - weekday) % 7 : Nat) : Int) + ordinal * 7
    else 0
  let date := dateOf (start + days * 86400)
  let start := dayFrom date.year (date.month + phrase.span.months) (date.day + phrase.span.days)
  let nanoseconds := (billionths : Int) + phrase.span.billionths
  let total := start + clock + phrase.span.seconds + nanoseconds.fdiv 1000000000 -
    if phrase.zones > 0 then phrase.zone else zone
  if isFar total then none
  else some (total, (nanoseconds.fmod 1000000000).toNat)

/-- The time that a text names at a given present, both in seconds and billionths, where the clock
is so many seconds before the common time. -/
def read? (seconds : Int) (billionths : Nat) (zone : Int) (text : Octets) : Option (Int × Nat) := do
  let marks ← Mark.ofText (text.length + 1) text
  match marks with
  | [.symbol '@', .figure _ figure] =>
    if Number.isSmall figure.value then some (figure.value, 0) else none
  | [.symbol '@', .fraction seconds billionths] => some (seconds, billionths)
  | _ =>
    let start := present (seconds + zone) billionths
    let phrase ←
      if text.isEmpty then some (start.atClock 0 0 0 0)
      else items? (marks.length + 1) start marks
    phrase.moment? zone

end Phrase

end Scaffold.Shell.Calendar
