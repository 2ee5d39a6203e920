import TemplateScript.Number.Reading
import TemplateScript.Value.Calendar
import TemplateScript.Yaml.Source

/-!
# Written dates and times

A date is written as year, month and day; a time of day with a fraction and an offset may follow
behind a `T` or a gap. Month and day of a date alone have two digits where a plain text is to be
taken for one.
-/

namespace TemplateScript.Yaml

/-- Splits a number of `least` to `most` digits off the front of a text, as long as possible. -/
def splitDigits? (least most : Nat) (text : List Char) : Option (List Char × List Char) :=
  let digits := (text.take most).takeWhile Char.isDigit
  if digits.length < least then none else some (digits, text.drop digits.length)

def expect? (c : Char) : List Char → Option (List Char)
  | d :: rest => if c = d then some rest else none
  | [] => none

structure TimeText where
  hour : Nat
  minute : Nat
  second : Nat
  fraction : List Char
  /-- Minutes ahead of universal time. -/
  offset : Option Int
deriving DecidableEq, Repr

structure TimestampText where
  year : Nat
  month : List Char
  day : List Char
  time : Option TimeText
deriving DecidableEq, Repr

namespace TimestampText

def natOf (digits : List Char) : Nat :=
  valueOfDigits 10 (digits.filterMap alphanumericDigit?)

/-- The offset that a text consists of, if it is not empty. -/
def offset? (text : List Char) : Option (Option Int) :=
  match text.dropWhile isGap with
  | [] => if text.isEmpty then some none else none
  | 'Z' :: rest => if rest.isEmpty then some (some 0) else none
  | sign :: rest =>
    if sign = '+' ∨ sign = '-' then do
      let (hours, rest) ← splitDigits? 1 2 rest
      let minutes ← match rest with
        | [] => some []
        | ':' :: rest => match splitDigits? 2 2 rest with
          | some (minutes, []) => some minutes
          | _ => none
        | _ => none
      let total : Int := natOf hours * 60 + natOf minutes
      return some (if sign = '-' then -total else total)
    else none

/-- What separates a time from its date. -/
def dropSeparator? : List Char → Option (List Char)
  | 'T' :: rest | 't' :: rest => some rest
  | c :: rest => if isGap c then some (rest.dropWhile isGap) else none
  | [] => none

def time? (text : List Char) : Option TimeText := do
  let rest ← dropSeparator? text
  let (hour, rest) ← splitDigits? 1 2 rest
  let (minute, rest) ← splitDigits? 2 2 (← expect? ':' rest)
  let (second, rest) ← splitDigits? 2 2 (← expect? ':' rest)
  let (fraction, rest) := match rest with
    | '.' :: rest => (rest.takeWhile Char.isDigit, rest.dropWhile Char.isDigit)
    | rest => ([], rest)
  let offset ← offset? rest
  return ⟨natOf hour, natOf minute, natOf second, fraction, offset⟩

/-- Reads a date with or without a time. -/
def read? (text : List Char) : Option TimestampText := do
  let (year, rest) ← splitDigits? 4 4 text
  let (month, rest) ← splitDigits? 1 2 (← expect? '-' rest)
  let (day, rest) ← splitDigits? 1 2 (← expect? '-' rest)
  let time ← if rest.isEmpty then some none else (time? rest).map some
  return ⟨natOf year, month, day, time⟩

/-- Whether a plain text is taken for a date or a time. -/
def isImplicit (text : List Char) : Bool :=
  match read? text with
  | some t => t.time.isSome || (t.month.length == 2 && t.day.length == 2)
  | none => false

/-- The microseconds of a fraction of a second, whose further digits are dropped. -/
def microseconds (fraction : List Char) : Nat :=
  let digits := fraction.take 6
  natOf digits * Nat.pow 10 (6 - digits.length)

/-- The date, or the date and time, that is written. -/
def toCalendar (t : TimestampText) : Except CalendarFault (Date ⊕ DateTime) :=
  match t.time with
  | none => do return .inl (← Date.ofFields t.year (natOf t.month) (natOf t.day))
  | some time => do
    return .inr (← DateTime.ofFields t.year (natOf t.month) (natOf t.day) time.hour time.minute
      time.second (microseconds time.fraction) time.offset)

end TimestampText

end TemplateScript.Yaml
