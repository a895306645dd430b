import ModalTutor.Toml.Rest

/-!
# TOML dates and times

A moment is a date, a time of day, or a date and a time with or without an
offset from universal time.  Seconds may be left out.
-/

namespace ModalTutor.Toml

/-- Reads two digits. -/
def twoDigits? : Text → Option (Nat × Text)
  | tens :: ones :: rest =>
      if tens.isDigit && ones.isDigit then
        some (10 * (tens.toNat - '0'.toNat) + (ones.toNat - '0'.toNat), rest)
      else none
  | _ => none

def isLeapYear (year : Nat) : Bool :=
  year % 4 = 0 && (year % 100 ≠ 0 || year % 400 = 0)

def daysInMonth (year month : Nat) : Nat :=
  if month = 2 then (if isLeapYear year then 29 else 28)
  else if month ∈ [4, 6, 9, 11] then 30
  else 31

/-- The rest of a text after the date in front of it. -/
def dropDate? (text : Text) : Option Text := do
  let (century, text) ← twoDigits? text
  let (years, text) ← twoDigits? text
  let ⟨text, _⟩ ← expect? '-' text
  let (month, text) ← twoDigits? text
  let ⟨text, _⟩ ← expect? '-' text
  let (day, text) ← twoDigits? text
  if 1 ≤ month ∧ month ≤ 12 ∧ 1 ≤ day ∧
      day ≤ daysInMonth (100 * century + years) month then
    some text
  else none

/-- The rest of a text after a fraction of a second, if there is one. -/
def dropFraction? : Text → Option Text
  | '.' :: rest =>
      if (rest.takeWhile Char.isDigit).isEmpty then none
      else some (rest.dropWhile Char.isDigit)
  | text => some text

/-- The rest of a text after the time of day in front of it.  A minute may
have a leap second. -/
def dropTime? (text : Text) : Option Text := do
  let (hour, text) ← twoDigits? text
  let ⟨text, _⟩ ← expect? ':' text
  let (minute, text) ← twoDigits? text
  if hour ≤ 23 ∧ minute ≤ 59 then
    match text with
    | ':' :: text =>
        let (second, text) ← twoDigits? text
        if second ≤ 60 then dropFraction? text else none
    | _ => some text
  else none

/-- Nothing, or an offset and nothing after it. -/
def isOffset : Text → Bool
  | [] | ['Z'] | ['z'] => true
  | sign :: rest =>
      (sign = '+' || sign = '-') &&
        match twoDigits? rest with
        | some (hours, ':' :: rest) =>
            match twoDigits? rest with
            | some (minutes, []) => hours ≤ 23 && minutes ≤ 59
            | _ => false
        | _ => false

def isTimeSeparator (character : Char) : Bool :=
  character = 'T' || character = 't' || character = ' '

def isMoment (literal : Text) : Bool :=
  match dropDate? literal with
  | some [] => true
  | some (separator :: rest) =>
      isTimeSeparator separator &&
        match dropTime? rest with
        | some offset => isOffset offset
        | none => false
  | none => dropTime? literal = some []

end ModalTutor.Toml
