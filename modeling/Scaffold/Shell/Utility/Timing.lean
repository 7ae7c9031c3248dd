import Scaffold.Shell.Calendar
import Scaffold.Shell.Calendar.Phrase
import Scaffold.Shell.Utility.Basic

/-!
# Telling the time

The utility `date`, which writes a time in a form: the present, a time that a phrase names, each of
the times that the lines of a file name, or the time of a file.
-/

set_option autoImplicit false

namespace Scaffold.Shell

open Text (Octets)

/-- The setting at the start of a text, up to the quote that closes it, and the text after that; a
backslash keeps a quote or a backslash. -/
def Zone.quoted? (text : Octets) : Option (Octets × Octets) :=
  match text with
  | '\x22' :: rest => some ([], rest)
  | '\\' :: c :: rest =>
    if c == '\\' || c == '\x22' then (quoted? rest).map fun (setting, rest) ↦ (c :: setting, rest)
    else none
  | c :: rest => (quoted? rest).map fun (setting, rest) ↦ (c :: setting, rest)
  | [] => none

/-- A phrase without the blanks and the zone it starts with, as `TZ="JST-9" noon`, and that zone;
without one, the phrase is told by a zone at hand. -/
def Zone.ofPhrase (zone : Zone) (phrase : Octets) : Zone × Octets :=
  let phrase := phrase.dropWhile Calendar.isBlank
  match ("TZ=\"".toList.isPrefixOf? phrase).bind quoted? with
  | none => (zone, phrase)
  | some (setting, rest) =>
    (ofSettings [("TZ".toList, setting)], rest.dropWhile Calendar.isBlank)

/-- The time that a phrase names, in seconds and billionths, where clocks show the time of a
zone. -/
def Task.momentOf? (task : Task) (zone : Zone) (phrase : Octets) : Option (Int × Nat) :=
  let (zone, phrase) := zone.ofPhrase phrase
  Calendar.Phrase.read? (task.now.fdiv 1000000) ((task.now.fmod 1000000).toNat * 1000) zone.offset
    phrase

/-- The time that a phrase names, in microseconds. -/
def Task.timeOf? (task : Task) (phrase : Octets) : Option Int :=
  (task.momentOf? (Zone.ofSettings task.settings) phrase).map fun (seconds, billionths) ↦
    seconds * 1000000 + (billionths / 1000 : Nat)

/-- A time in microseconds in a form, as the clocks of the zone among the settings show it. -/
def Task.timeText (task : Task) (form : Octets) (time : Int) : Octets :=
  Calendar.text (Zone.ofSettings task.settings) form time

namespace Utility

/-- What a time is told by. -/
inductive TimeSource
  | present
  | phrase (text : Octets)
  /-- The phrases of the lines of a file. -/
  | phrases (file : Octets)
  /-- The time of a file. -/
  | ofFile (file : Octets)
  /-- The clock is to be set. -/
  | setting (text : Octets)

/-- How exactly a time is told. -/
inductive Precision
  | day
  | hour
  | minute
  | second
  | billionth
  deriving DecidableEq, Repr

/-- The precisions of forms with a letter before the time of the day. -/
def isoPrecisions : List (String × Precision) :=
  [("hours", .hour), ("minutes", .minute), ("date", .day), ("seconds", .second),
    ("ns", .billionth)]

/-- The precisions of forms with a blank before the time of the day. -/
def stampPrecisions : List (String × Precision) :=
  [("date", .day), ("seconds", .second), ("ns", .billionth)]

/-- The form of a precision with a letter before the time of the day. -/
def isoForm : Precision → String
  | .day => "%Y-%m-%d"
  | .hour => "%Y-%m-%dT%H%:z"
  | .minute => "%Y-%m-%dT%H:%M%:z"
  | .second => "%Y-%m-%dT%H:%M:%S%:z"
  | .billionth => "%Y-%m-%dT%H:%M:%S,%N%:z"

/-- The form of a precision with a blank before the time of the day. -/
def stampForm : Precision → String
  | .billionth => "%Y-%m-%d %H:%M:%S.%N%:z"
  | .day => "%Y-%m-%d"
  | _ => "%Y-%m-%d %H:%M:%S%:z"

/-- The form of the options of `date`. -/
def dateForm : OptionForm where
  flags := ['u', 'R', 'D', '!']
  valued := ['d', 'f', 'r', 's', '3']
  long := [("utc", 'u'), ("universal", 'u'), ("uct", 'u'), ("date", 'd'), ("file", 'f'),
    ("reference", 'r'), ("rfc-email", 'R'), ("rfc-822", 'R'), ("rfc-2822", 'R'), ("rfc-3339", '3'),
    ("iso-8601", 'I'), ("set", 's'), ("debug", 'D'), ("resolution", '!')]
  stopsEarly := false

/-- Arguments where the letter for a form with its precision gives way to the long name; the first
one may be the value of an option before it. -/
def withLongForms : (isValue : Bool) → List Octets → List Octets
  | _, [] => []
  | true, word :: rest => word :: withLongForms false rest
  | false, ['-', '-'] :: rest => ['-', '-'] :: rest
  | false, ('-' :: letters) :: rest =>
    let before := letters.takeWhile fun c ↦ c == 'u' || c == 'R'
    match letters.drop before.length with
    | 'I' :: value =>
      let first := if before.isEmpty then [] else ['-' :: before]
      let value := if value.isEmpty then [] else '=' :: value
      first ++ ("--iso-8601".toList ++ value) :: withLongForms false rest
    | others =>
      let takesNext :=
        match others with
        | [last] => dateForm.valued.contains last
        | _ => false
      ('-' :: letters) :: withLongForms takesNext rest
  | false, word :: rest => word :: withLongForms false rest

/-- The form that an option asks for, if it asks for one. -/
def formOf? : Char × Octets → Except String (Option String)
  | ('R', _) => .ok (some "%a, %d %b %Y %H:%M:%S %z")
  | ('!', _) => .ok (some "%s.%N")
  | ('3', word) => do return some (stampForm (← choice "--rfc-3339" stampPrecisions word))
  | ('I', word) => do
    if word.isEmpty then return some (isoForm .day)
    else return some (isoForm (← choice "--iso-8601" isoPrecisions word))
  | _ => .ok none

/-- The source that an option names, if it names one. -/
def sourceOf? : Char × Octets → Option TimeSource
  | ('d', text) => some (.phrase text)
  | ('f', file) => some (.phrases file)
  | ('r', file) => some (.ofFile file)
  | _ => none

/-- The kind of a source. -/
def TimeSource.kind : TimeSource → Nat
  | .present => 0
  | .phrase _ => 1
  | .phrases _ => 2
  | .ofFile _ => 3
  | .setting _ => 4

/-- The complaint about a phrase. -/
def invalidPhrase (text : Octets) : Octets :=
  "invalid date ".toList ++ Quoting.plain text

/-- The clock of a time in microseconds, in seconds and billionths. -/
def split (time : Int) : Int × Nat :=
  (time.fdiv 1000000, (time.fmod 1000000).toNat * 1000)

/-- What is written of a time in a form, on one line; years have 32 bits. -/
def timeLine (task : Task) (zone : Zone) (form : Octets) (moment : Int × Nat) : Nat × Octets :=
  if Calendar.isFar moment.1 then
    (2, task.message ("time ".toList ++ Quoting.plain (Number.text moment.1) ++
      " is out of range".toList))
  else (1, Calendar.textIn ⟨moment.1, moment.2, zone⟩ form ++ ['\n'])

/-- What is written of the time that a phrase names. -/
def phraseLine (task : Task) (zone : Zone) (form text : Octets) : Nat × Octets :=
  match task.momentOf? zone text with
  | some moment => timeLine task zone form moment
  | none => (2, task.message (invalidPhrase text))

/-- Tells the time of a source in a form. -/
def tellTime (task : Task) (zone : Zone) (form : Octets) (source : TimeSource) : Effect :=
  let ended := fun (written : List (Nat × Octets)) ↦
    task.finishAll (if written.any (·.1 == 2) then 1 else 0) written
  match source with
  | .present => ended [timeLine task zone form (split task.now)] false
  | .phrase text | .setting text => ended [phraseLine task zone form text] false
  | .phrases file =>
    match task.contents file with
    | .error error => ended [(2, task.refusal file error)] false
    | .ok text => ended ((plainLines text).map (phraseLine task zone form)) (Task.isInput file)
  | .ofFile file =>
    match task.tree.locate task.here (pathOf file) true with
    | .error error => ended [(2, task.refusal file error)] false
    | .ok location =>
      let time := ((task.tree.find? location).map fun entry ↦
        (task.records.of location entry).changed).getD 0
      ended [timeLine task zone form (split time)] false

/-- Tells the time, or a given one, in a form. -/
def date : Utility where
  name := "date"
  run task :=
    match Options.parse dateForm (withLongForms false task.arguments) with
    | .error text => task.misuse 1 text
    | .ok options =>
      let zone := if options.has 'u' then Zone.common else Zone.ofSettings task.settings
      let sources := options.found.filterMap sourceOf?
      let isSet := options.has 's'
      match options.found.mapM formOf? with
      | .error text => task.misuse 1 text
      | .ok forms =>
        let forms := forms.filterMap id
        if forms.length > 1 then task.complain 1 "multiple output formats specified".toList
        else if (sources.map TimeSource.kind).eraseDups.length > 1 then
          task.misuse 1 "the options to specify dates for printing are mutually exclusive"
        else if isSet && !sources.isEmpty then
          task.misuse 1 "the options to print and set the time may not be used together"
        else
          let source := sources.getLast?.getD <|
            (options.value? 's').elim TimeSource.present TimeSource.setting
          let usual := (forms.head?.getD "%a %b %e %H:%M:%S %Z %Y").toList
          match options.operands with
          | _ :: extra :: _ =>
            task.misuse 1 ("extra operand " ++ Octets.toText (Quoting.plain extra))
          | ['+' :: form] =>
            if !forms.isEmpty then task.complain 1 "multiple output formats specified".toList
            else tellTime task zone form source
          | [operand] =>
            if isSet || !sources.isEmpty then
              task.misuse 1 ("the argument " ++ Octets.toText (Quoting.plain operand) ++
                " lacks a leading '+';\nwhen using an option to specify date(s), any " ++
                "non-option\nargument must be a format string beginning with '+'")
            else task.complain 1 ("invalid date ".toList ++ Quoting.plain operand)
          | [] => tellTime task zone usual source

end Utility

end Scaffold.Shell
