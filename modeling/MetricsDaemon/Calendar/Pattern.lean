import MetricsDaemon.Calendar.Date
import MetricsDaemon.Number.Integer
import MetricsDaemon.Text.Blank

/-!
# Time patterns

Patterns in the manner of `strftime`. A pattern is read into items first; one bad item
spoils the whole pattern.
-/

namespace MetricsDaemon.Calendar

/-- How a number is filled up to its width. -/
inductive Pad where
  | none
  | zero
  | space
  deriving DecidableEq, Repr

/-- A part of a moment that is a number. -/
inductive Field where
  | year
  | century
  | yearOfCentury
  | isoYear
  | isoYearOfCentury
  | quarter
  | month
  | day
  | sundayWeek
  | mondayWeek
  | isoWeek
  | weekday
  | isoWeekday
  | ordinal
  | hour
  | hour12
  | minute
  | second
  | nanosecond
  | timestamp
  deriving DecidableEq, Repr

/-- A piece of a pattern. -/
inductive Item where
  | literal (text : List Char)
  | number (field : Field) (pad : Pad)
  | shortMonth
  | longMonth
  | shortWeekday
  | longWeekday
  | halfDay (capital : Bool)
  | fraction (dot : Bool) (digits : Nat)
  | shortestFraction
  | zoneName
  | zoneOffset (text : List Char)
  | standard
  deriving DecidableEq, Repr

namespace Item

/-- A number filled up with zeros. -/
def zeroed (field : Field) : Item := .number field .zero

/-- A number filled up with blanks. -/
def blanked (field : Field) : Item := .number field .space

/-- One character as it stands. -/
def mark (c : Char) : Item := .literal [c]

/-- Hours and minutes. -/
def hoursMinutes : List Item := [zeroed .hour, mark ':', zeroed .minute]

/-- Hours, minutes and seconds. -/
def clockTime : List Item := hoursMinutes ++ [mark ':', zeroed .second]

/-- Month, day and year between slashes. -/
def slashDate : List Item :=
  [zeroed .month, mark '/', zeroed .day, mark '/', zeroed .yearOfCentury]

/-- The items of a letter after the percent sign. -/
def ofLetter? (c : Char) : Option (List Item) :=
  match c with
  | 'A' => some [.longWeekday]
  | 'B' => some [.longMonth]
  | 'C' => some [zeroed .century]
  | 'D' | 'x' => some slashDate
  | 'F' => some [zeroed .year, mark '-', zeroed .month, mark '-', zeroed .day]
  | 'G' => some [zeroed .isoYear]
  | 'H' => some [zeroed .hour]
  | 'I' => some [zeroed .hour12]
  | 'M' => some [zeroed .minute]
  | 'P' => some [.halfDay false]
  | 'R' => some hoursMinutes
  | 'S' => some [zeroed .second]
  | 'T' | 'X' => some clockTime
  | 'U' => some [zeroed .sundayWeek]
  | 'V' => some [zeroed .isoWeek]
  | 'W' => some [zeroed .mondayWeek]
  | 'Y' => some [zeroed .year]
  | 'Z' => some [.zoneName]
  | 'a' => some [.shortWeekday]
  | 'b' | 'h' => some [.shortMonth]
  | 'c' =>
      some ([.shortWeekday, mark ' ', .shortMonth, mark ' ', blanked .day, mark ' '] ++ clockTime ++
        [mark ' ', zeroed .year])
  | 'd' => some [zeroed .day]
  | 'e' => some [blanked .day]
  | 'f' => some [zeroed .nanosecond]
  | 'g' => some [zeroed .isoYearOfCentury]
  | 'j' => some [zeroed .ordinal]
  | 'k' => some [blanked .hour]
  | 'l' => some [blanked .hour12]
  | 'm' => some [zeroed .month]
  | 'n' => some [mark '\n']
  | 'p' => some [.halfDay true]
  | 'q' => some [.number .quarter .none]
  | 'r' =>
      some ([zeroed .hour12, mark ':', zeroed .minute, mark ':', zeroed .second, mark ' ',
        .halfDay true])
  | 's' => some [.number .timestamp .none]
  | 't' => some [mark '\t']
  | 'u' => some [.number .isoWeekday .none]
  | 'v' => some [blanked .day, mark '-', .shortMonth, mark '-', zeroed .year]
  | 'w' => some [.number .weekday .none]
  | 'y' => some [zeroed .yearOfCentury]
  | 'z' => some [.zoneOffset ['+', '0', '0', '0', '0']]
  | '+' => some [.standard]
  | '%' => some [mark '%']
  | _ => none

/-- The padding that a modifier asks for. -/
def padOf? (c : Char) : Option Pad :=
  match c with
  | '-' => some .none
  | '0' => some .zero
  | '_' => some .space
  | _ => none

/-- The items of a letter after a padding modifier, which only a single number can carry. -/
def padded? (pad : Pad) (c : Char) : Option (List Item) :=
  match ofLetter? c with
  | some [.number field _] => some [.number field pad]
  | _ => none

/-- Read one specifier after its percent sign: its items and the rest of the pattern. -/
def readSpecifier? : List Char → Option (List Item × List Char)
  | ':' :: ':' :: ':' :: 'z' :: rest => some ([.zoneOffset ['+', '0', '0']], rest)
  | ':' :: ':' :: 'z' :: rest =>
      some ([.zoneOffset ['+', '0', '0', ':', '0', '0', ':', '0', '0']], rest)
  | ':' :: 'z' :: rest => some ([.zoneOffset ['+', '0', '0', ':', '0', '0']], rest)
  | '.' :: 'f' :: rest => some ([.shortestFraction], rest)
  | '.' :: '3' :: 'f' :: rest => some ([.fraction true 3], rest)
  | '.' :: '6' :: 'f' :: rest => some ([.fraction true 6], rest)
  | '.' :: '9' :: 'f' :: rest => some ([.fraction true 9], rest)
  | '3' :: 'f' :: rest => some ([.fraction false 3], rest)
  | '6' :: 'f' :: rest => some ([.fraction false 6], rest)
  | '9' :: 'f' :: rest => some ([.fraction false 9], rest)
  | c :: rest =>
      match padOf? c, rest with
      | some pad, d :: rest => (padded? pad d).map fun items => (items, rest)
      | some _, [] => none
      | none, rest => (ofLetter? c).map fun items => (items, rest)
  | [] => none

end Item

/-- Read a pattern into items; `fuel` bounds the number of pieces. -/
def readItems? : Nat → List Char → Option (List Item)
  | _, [] => some []
  | 0, _ :: _ => none
  | fuel + 1, '%' :: rest => do
      let (items, rest) ← Item.readSpecifier? rest
      let more ← readItems? fuel rest
      return items ++ more
  | fuel + 1, c :: rest => (readItems? fuel rest).map fun more => .mark c :: more

/-- The items of a pattern; `none` if any of them is bad. -/
def parsePattern? (pattern : String) : Option (List Item) :=
  readItems? pattern.length pattern.toList

/-- The names of the months. -/
def monthNames : List String :=
  ["January", "February", "March", "April", "May", "June", "July", "August", "September",
    "October", "November", "December"]

/-- The names of the weekdays, from Sunday on. -/
def weekdayNames : List String :=
  ["Sunday", "Monday", "Tuesday", "Wednesday", "Thursday", "Friday", "Saturday"]

/-- A name out of a list. -/
def nameAt (names : List String) (index : Nat) : List Char := ((names[index]?).getD "").toList

/-- Fill a number up to a width. -/
def Pad.fill (pad : Pad) (width n : Nat) : List Char :=
  match pad with
  | .none => Number.natDigits n
  | .zero => Number.paddedDigits '0' width n
  | .space => Number.paddedDigits ' ' width n

/-- A two-digit field. Its tens are one character, also when they exceed nine. -/
def twoDigits (pad : Pad) (n : Nat) : List Char :=
  let ones := Char.ofNat ('0'.toNat + n % 10)
  match n / 10, pad with
  | 0, .none => [ones]
  | 0, .space => [' ', ones]
  | tens, _ => [Char.ofNat ('0'.toNat + tens), ones]

/-- A year: four digits, and a sign outside the years 0 to 9999. -/
def showYear (pad : Pad) (year : Int) : List Char :=
  if 0 ≤ year ∧ year < 10000 then pad.fill 4 year.toNat
  else
    let sign := if year < 0 then '-' else '+'
    let digits := Number.natDigits year.natAbs
    match pad with
    | .none => sign :: digits
    | .zero => sign :: (List.replicate (4 - digits.length) '0' ++ digits)
    | .space => List.replicate (4 - digits.length) ' ' ++ sign :: digits

/-- A timestamp, filled up to nine characters. -/
def showTimestamp (pad : Pad) (n : Int) : List Char :=
  if 0 ≤ n then pad.fill 9 n.toNat
  else
    let digits := Number.natDigits n.natAbs
    match pad with
    | .none => '-' :: digits
    | .zero => '-' :: (List.replicate (8 - digits.length) '0' ++ digits)
    | .space => List.replicate (8 - digits.length) ' ' ++ '-' :: digits

/-- A numeric field of a moment. -/
def Field.show (field : Field) (pad : Pad) (moment : Moment) : List Char :=
  let date := moment.date
  match field with
  | .year => showYear pad date.year
  | .century => twoDigits pad (date.year / 100 % 256).toNat
  | .yearOfCentury => twoDigits pad (date.year % 100).toNat
  | .isoYear => showYear pad date.isoWeek.1
  | .isoYearOfCentury => twoDigits pad (date.isoWeek.1 % 100).toNat
  | .quarter => Number.natDigits date.quarter
  | .month => twoDigits pad date.month
  | .day => twoDigits pad date.day
  | .sundayWeek => twoDigits pad date.sundayWeek
  | .mondayWeek => twoDigits pad date.mondayWeek
  | .isoWeek => twoDigits pad date.isoWeek.2
  | .weekday => Number.natDigits date.weekday
  | .isoWeekday => Number.natDigits date.isoWeekday
  | .ordinal => pad.fill 3 date.ordinal
  | .hour => twoDigits pad moment.hour
  | .hour12 => twoDigits pad moment.hour12
  | .minute => twoDigits pad moment.minute
  | .second => twoDigits pad moment.second
  | .nanosecond => pad.fill 9 moment.nanosecond
  | .timestamp => showTimestamp pad moment.timestamp

/-- The first digits of the fraction of a second. -/
def fractionDigits (digits : Nat) (moment : Moment) : List Char :=
  Number.paddedDigits '0' digits (moment.nanosecond / Nat.pow 10 (9 - digits))

/-- The fraction of a second in as many groups of three digits as it needs, after a point. -/
def fractionAsNeeded (moment : Moment) : List Char :=
  if moment.nanosecond = 0 then []
  else if moment.nanosecond % 1000000 = 0 then '.' :: fractionDigits 3 moment
  else if moment.nanosecond % 1000 = 0 then '.' :: fractionDigits 6 moment
  else '.' :: fractionDigits 9 moment

/-- A whole date and time in the standard form. -/
def standardForm (moment : Moment) : List Char :=
  showYear .zero moment.date.year ++ '-' :: twoDigits .zero moment.date.month ++
    '-' :: twoDigits .zero moment.date.day ++ 'T' :: twoDigits .zero moment.hour ++
    ':' :: twoDigits .zero moment.minute ++ ':' :: twoDigits .zero moment.second ++
    fractionAsNeeded moment ++ ['+', '0', '0', ':', '0', '0']

/-- The text of one item. -/
def Item.show (zone : String) (moment : Moment) : Item → List Char
  | .literal text => text
  | .number field pad => field.show pad moment
  | .shortMonth => (nameAt monthNames (moment.date.month - 1)).take 3
  | .longMonth => nameAt monthNames (moment.date.month - 1)
  | .shortWeekday => (nameAt weekdayNames moment.date.weekday).take 3
  | .longWeekday => nameAt weekdayNames moment.date.weekday
  | .halfDay true => if moment.isMorning then ['A', 'M'] else ['P', 'M']
  | .halfDay false => if moment.isMorning then ['a', 'm'] else ['p', 'm']
  | .fraction true digits => '.' :: fractionDigits digits moment
  | .fraction false digits => fractionDigits digits moment
  | .shortestFraction => fractionAsNeeded moment
  | .zoneName => zone.toList
  | .zoneOffset text => text
  | .standard => standardForm moment

/-- A moment written with a pattern; a blank pattern stands for a default one, and a bad pattern
gives the empty text. -/
def format (zone fallback pattern : String) (moment : Moment) : String :=
  let pattern := if Text.strip pattern.toList = [] then fallback else pattern
  match parsePattern? pattern with
  | some items => String.ofList (items.flatMap (Item.show zone moment))
  | none => ""

end MetricsDaemon.Calendar
