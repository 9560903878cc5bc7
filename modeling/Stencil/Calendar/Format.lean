import Stencil.Calendar.Moment
import Stencil.Value.Text

namespace Stencil

/-! Date formats: texts in which a percent sign and a letter stand for a part of a moment.

A conversion to a number has a padding of its own, which a mark between the percent sign and the
letter replaces: `-` for none, `0` for zeros and `_` for blanks.  No other conversion can be marked
in this way.
-/

inductive Padding where
  | none
  | zeros
  | blanks
deriving DecidableEq

inductive DateField where
  | year
  | century
  | yearOfCentury
  | isoYear
  | isoYearOfCentury
  | quarter
  | month
  | day
  | dayOfYear
  | weekFromSunday
  | weekFromMonday
  | isoWeek
  /-- Monday is day 1 and Sunday day 7. -/
  | weekdayFromMonday
  /-- Sunday is day 0. -/
  | weekdayFromSunday
  | hour
  | hour12
  | minute
  | second
  | nanosecond
  | timestamp
deriving DecidableEq

inductive DateItem where
  | literal (text : List Char)
  | number (field : DateField) (padding : Padding)
  | weekdayName
  | weekdayAbbreviation
  | monthName
  | monthAbbreviation
  /-- The half of the day, in capitals or not. -/
  | dayHalf (capital : Bool)
  /-- A time zone offset that may be abbreviated: a form for reading dates, in which none can be
  written. -/
  | looseOffset
deriving DecidableEq

abbrev DateFormat := List DateItem

/-- Fills a number up to a width.  Zeros go between the sign and the digits, blanks before the
sign. -/
def Padding.fill (padding : Padding) (width : Nat) (sign digits : List Char) : List Char :=
  let missing := width - (sign.length + digits.length)
  match padding with
  | .none => sign ++ digits
  | .zeros => sign ++ List.replicate missing '0' ++ digits
  | .blanks => List.replicate missing ' ' ++ sign ++ digits

namespace DateField

/-- A number with a minus if it is negative. -/
def plain (padding : Padding) (width : Nat) (n : Int) : List Char :=
  padding.fill width (if n < 0 then ['-'] else []) (Nat.toDigits 10 n.natAbs)

/-- A year in four digits, with a sign in front if it does not lie between 0 and 9999. -/
def yearText (padding : Padding) (year : Int) : List Char :=
  let digits := Nat.toDigits 10 year.natAbs
  if year < 0 then padding.fill 5 ['-'] digits
  else if 9999 < year then padding.fill 5 ['+'] digits
  else padding.fill 4 [] digits

/-- A count below 256 in two characters.  Tens from ten onwards are written by the characters that
follow `9`. -/
def twoPlaces (padding : Padding) (n : Nat) : List Char :=
  let ones := [Char.ofNat (n % 10 + '0'.toNat)]
  if n < 10 then padding.fill 2 [] ones else Char.ofNat (n / 10 + '0'.toNat) :: ones

/-- The text of a number. Centuries are counted modulo 256. -/
def text (moment : Moment) (padding : Padding) (field : DateField) : List Char :=
  let date := moment.date
  match field with
  | .year => yearText padding date.year
  | .century => twoPlaces padding (date.year / 100 % 256).toNat
  | .yearOfCentury => twoPlaces padding (date.year % 100).toNat
  | .isoYear => yearText padding date.isoYear
  | .isoYearOfCentury => twoPlaces padding (date.isoYear % 100).toNat
  | .quarter => plain .none 1 date.quarter
  | .month => twoPlaces padding date.month
  | .day => twoPlaces padding date.day
  | .dayOfYear => plain padding 3 date.dayOfYear
  | .weekFromSunday => twoPlaces padding (date.weekFrom ((date.weekday + 1) % 7))
  | .weekFromMonday => twoPlaces padding (date.weekFrom date.weekday)
  | .isoWeek => twoPlaces padding date.isoWeek
  | .weekdayFromMonday => plain .none 1 (date.weekday + 1)
  | .weekdayFromSunday => plain .none 1 ((date.weekday + 1) % 7 : Nat)
  | .hour => twoPlaces padding moment.hour
  | .hour12 => twoPlaces padding moment.hour12
  | .minute => twoPlaces padding moment.minute
  | .second => twoPlaces padding moment.second
  | .nanosecond => plain padding 9 0
  | .timestamp => plain padding 9 moment.seconds

end DateField

namespace Date

def weekdayNames : List String :=
  ["Monday", "Tuesday", "Wednesday", "Thursday", "Friday", "Saturday", "Sunday"]

def monthNames : List String :=
  ["January", "February", "March", "April", "May", "June", "July", "August", "September",
    "October", "November", "December"]

def weekdayName (date : Date) : List Char :=
  (weekdayNames.getD date.weekday "").toList

def monthName (date : Date) : List Char :=
  (monthNames.getD (date.month - 1) "").toList

end Date

namespace DateItem

/-- The number of letters in the abbreviations of names. -/
def abbreviation : Nat := 3

def write? (moment : Moment) : DateItem → Option (List Char)
  | .literal text => some text
  | .number field padding => some (field.text moment padding)
  | .weekdayName => some moment.date.weekdayName
  | .weekdayAbbreviation => some (moment.date.weekdayName.take abbreviation)
  | .monthName => some moment.date.monthName
  | .monthAbbreviation => some (moment.date.monthName.take abbreviation)
  | .dayHalf true => some (if moment.afternoon then "PM" else "AM").toList
  | .dayHalf false => some (if moment.afternoon then "pm" else "am").toList
  | .looseOffset => none

end DateItem

namespace DateFormat

def write? (format : DateFormat) (moment : Moment) : Option (List Char) :=
  (format.mapM (DateItem.write? moment)).map List.flatten

/-- The conversions to a number, each with its own padding. -/
def number? : Char → Option (DateField × Padding)
  | 'Y' => some (.year, .zeros)
  | 'C' => some (.century, .zeros)
  | 'y' => some (.yearOfCentury, .zeros)
  | 'G' => some (.isoYear, .zeros)
  | 'g' => some (.isoYearOfCentury, .zeros)
  | 'q' => some (.quarter, .none)
  | 'm' => some (.month, .zeros)
  | 'd' => some (.day, .zeros)
  | 'e' => some (.day, .blanks)
  | 'j' => some (.dayOfYear, .zeros)
  | 'U' => some (.weekFromSunday, .zeros)
  | 'W' => some (.weekFromMonday, .zeros)
  | 'V' => some (.isoWeek, .zeros)
  | 'u' => some (.weekdayFromMonday, .none)
  | 'w' => some (.weekdayFromSunday, .none)
  | 'H' => some (.hour, .zeros)
  | 'k' => some (.hour, .blanks)
  | 'I' => some (.hour12, .zeros)
  | 'l' => some (.hour12, .blanks)
  | 'M' => some (.minute, .zeros)
  | 'S' => some (.second, .zeros)
  | 'f' => some (.nanosecond, .zeros)
  | 's' => some (.timestamp, .none)
  | _ => none

def isoDate : DateFormat :=
  [.number .year .zeros, .literal ['-'], .number .month .zeros, .literal ['-'],
    .number .day .zeros]

def slashedDate : DateFormat :=
  [.number .month .zeros, .literal ['/'], .number .day .zeros, .literal ['/'],
    .number .yearOfCentury .zeros]

def hourMinute : DateFormat :=
  [.number .hour .zeros, .literal [':'], .number .minute .zeros]

def clock : DateFormat :=
  hourMinute ++ [.literal [':'], .number .second .zeros]

/-- The conversions other than to a number.  All moments are at full seconds of universal time. -/
def items? : Char → Option DateFormat
  | 'A' => some [.weekdayName]
  | 'a' => some [.weekdayAbbreviation]
  | 'B' => some [.monthName]
  | 'b' | 'h' => some [.monthAbbreviation]
  | 'P' => some [.dayHalf false]
  | 'p' => some [.dayHalf true]
  | 'F' => some isoDate
  | 'D' | 'x' => some slashedDate
  | 'v' => some
      [.number .day .blanks, .literal ['-'], .monthAbbreviation, .literal ['-'],
        .number .year .zeros]
  | 'R' => some hourMinute
  | 'T' | 'X' => some clock
  | 'r' => some
      [.number .hour12 .zeros, .literal [':'], .number .minute .zeros, .literal [':'],
        .number .second .zeros, .literal [' '], .dayHalf true]
  | 'c' => some <|
      [.weekdayAbbreviation, .literal [' '], .monthAbbreviation, .literal [' '],
        .number .day .blanks, .literal [' ']] ++ clock ++ [.literal [' '], .number .year .zeros]
  | '+' => some (isoDate ++ [.literal ['T']] ++ clock ++ [.literal "+00:00".toList])
  | 'Z' => some [.literal "UTC".toList]
  | 'z' => some [.literal "+0000".toList]
  | 'n' => some [.literal ['\n']]
  | 't' => some [.literal ['\t']]
  | '%' => some [.literal ['%']]
  | _ => none

/-- The conversions of several characters, which are offsets and fractions of a second. -/
def longConversion? : List Char → Option (DateItem × List Char)
  | ':' :: ':' :: ':' :: 'z' :: rest => some (.literal "+00".toList, rest)
  | ':' :: ':' :: 'z' :: rest => some (.literal "+00:00:00".toList, rest)
  | ':' :: 'z' :: rest => some (.literal "+00:00".toList, rest)
  | '#' :: 'z' :: rest => some (.looseOffset, rest)
  | '.' :: 'f' :: rest => some (.literal [], rest)
  | '.' :: '3' :: 'f' :: rest => some (.literal ".000".toList, rest)
  | '.' :: '6' :: 'f' :: rest => some (.literal ".000000".toList, rest)
  | '.' :: '9' :: 'f' :: rest => some (.literal ".000000000".toList, rest)
  | '3' :: 'f' :: rest => some (.literal "000".toList, rest)
  | '6' :: 'f' :: rest => some (.literal "000000".toList, rest)
  | '9' :: 'f' :: rest => some (.literal "000000000".toList, rest)
  | _ => none

theorem longConversion?_shorter {text rest : List Char} {item : DateItem}
    (found : longConversion? text = some (item, rest)) : rest.length < text.length := by
  unfold longConversion? at found
  split at found <;>
    simp_all only [Option.some.injEq, Prod.mk.injEq, reduceCtorEq, List.length_cons] <;> omega

/-- The mark that replaces the padding of a number. -/
def paddingMark? : Char → Option Padding
  | '-' => some .none
  | '0' => some .zeros
  | '_' => some .blanks
  | _ => none

/-- Reads a date format, unless one of its percent signs starts no conversion. -/
def parse? : List Char → Option DateFormat
  | [] => some []
  | '%' :: rest =>
      match _found : longConversion? rest with
      | some (item, after) => (parse? after).map (item :: ·)
      | none =>
          match rest with
          | [] => none
          | c :: rest =>
              match paddingMark? c, rest with
              | some _, [] => none
              | some padding, c :: rest => do
                  let (field, _) ← number? c
                  let format ← parse? rest
                  return .number field padding :: format
              | none, rest =>
                  match number? c, items? c with
                  | some (field, padding), _ => (parse? rest).map (.number field padding :: ·)
                  | none, some items => (parse? rest).map (items ++ ·)
                  | none, none => none
  | c :: rest => (parse? rest).map (.literal [c] :: ·)
termination_by text => text.length
decreasing_by
  · have := longConversion?_shorter _found
    simp only [List.length_cons]
    omega
  all_goals simp only [List.length_cons]; omega

end DateFormat

end Stencil
