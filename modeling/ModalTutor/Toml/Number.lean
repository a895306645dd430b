import ModalTutor.Text.Cluster

/-!
# TOML numbers

Integers in four bases and floats, with single underscores between digits.  A
document shows which literals are meant as numbers; whether one has a value is
found out only when the value is asked for.
-/

namespace ModalTutor.Toml

def digitValue (character : Char) : Nat :=
  if character.isDigit then character.toNat - '0'.toNat
  else character.toLower.toNat - 'a'.toNat + 10

def isHexDigit (character : Char) : Bool :=
  character.isDigit || ('a' ≤ character.toLower && character.toLower ≤ 'f')

def isDigitOf (base : Nat) (character : Char) : Bool :=
  isHexDigit character && digitValue character < base

/-- The number that digits stand for. -/
def ofDigits (base : Nat) (digits : Text) : Nat :=
  digits.foldl (fun number digit => base * number + digitValue digit) 0

def dropUnderscores (digits : Text) : Text :=
  digits.filter (· ≠ '_')

/-- The number that digits with underscores stand for, if there are any digits
and nothing else. -/
def number? (base : Nat) (digits : Text) : Option Nat :=
  let digits := dropUnderscores digits
  if digits ≠ [] ∧ digits.all (isDigitOf base) then
    some (ofDigits base digits)
  else none

/-- A digit stands after every underscore, and something that `divisible`
accepts before it.  `allowed` says so of the start of the text. -/
def hasSoundUnderscores (divisible : Char → Bool) (allowed : Bool) :
    Text → Bool
  | [] => true
  | '_' :: rest =>
      allowed && rest.head?.any divisible &&
        hasSoundUnderscores divisible false rest
  | character :: rest =>
      hasSoundUnderscores divisible (divisible character) rest

/-- Takes a sign off the front; `true` stands for a minus. -/
def splitSign : Text → Bool × Text
  | '-' :: rest => (true, rest)
  | '+' :: rest => (false, rest)
  | text => (false, text)

/-- Takes the mark of a base off the front. -/
def splitBase? : Text → Option (Nat × Text)
  | '0' :: 'x' :: digits => some (16, digits)
  | '0' :: 'o' :: digits => some (8, digits)
  | '0' :: 'b' :: digits => some (2, digits)
  | _ => none

/-- An underscore may stand after a sign. -/
def mayDivideStart (literal : Text) : Bool :=
  literal.head? = some '+' || literal.head? = some '-'

/-- The literal is meant as an integer.  Digits of a base may be missing, and
only what touches an underscore of a decimal number has to be a digit. -/
def isInteger (literal : Text) : Bool :=
  match splitBase? literal with
  | some (base, digits) =>
      hasSoundUnderscores isHexDigit false digits &&
        (dropUnderscores digits).all (isDigitOf base)
  | none =>
      let digits := (splitSign literal).2
      let rest := digits.dropWhile Char.isDigit
      digits ≠ [] && (rest = [] || rest.head? = some '_') &&
        (digits = ['0'] || digits.head? ≠ some '0') &&
        !rest.any (fun mark => mark = '.' || mark = 'e' || mark = 'E') &&
        hasSoundUnderscores isHexDigit (mayDivideStart literal) digits

/-- The value of an integer literal. -/
def integer? (literal : Text) : Option Int :=
  match splitBase? literal with
  | some (base, digits) => (number? base digits).map Int.ofNat
  | none =>
      let signed := splitSign literal
      (number? 10 signed.2).map fun magnitude =>
        if signed.1 then -Int.ofNat magnitude else Int.ofNat magnitude

/-- A decimal number in scientific notation: digits and a power of ten. -/
structure Scientific where
  digits : Nat
  exponent : Int

def exponent? (literal : Text) : Option Int :=
  let signed := splitSign literal
  (number? 10 signed.2).map fun magnitude =>
    if signed.1 then -Int.ofNat magnitude else Int.ofNat magnitude

/-- The number before the exponent, with or without a fraction.  It does not
begin with a needless zero. -/
def significand? (literal : Text) : Option Scientific := do
  let whole := literal.takeWhile (· ≠ '.')
  let number ← number? 10 whole
  if whole.head? = some '0' ∧ 1 < (dropUnderscores whole).length then none
  else
    match literal.dropWhile (· ≠ '.') with
    | [] => some ⟨number, 0⟩
    | _ :: fraction =>
        let _ ← number? 10 fraction
        let places := (dropUnderscores fraction).length
        some ⟨ofDigits 10 (dropUnderscores (whole ++ fraction)),
          -(places : Int)⟩

/-- The number of a float literal that has no sign and is not a name. -/
def scientific? (literal : Text) : Option Scientific :=
  let isMark (character : Char) : Bool := character = 'e' || character = 'E'
  match literal.dropWhile (!isMark ·) with
  | [] => if literal.contains '.' then significand? literal else none
  | _ :: power => do
      let number ← significand? (literal.takeWhile (!isMark ·))
      let exponent ← exponent? power
      some { number with exponent := number.exponent + exponent }

def isFloat (literal : Text) : Bool :=
  let magnitude := (splitSign literal).2
  magnitude = "inf".toList || magnitude = "nan".toList ||
    ((scientific? magnitude).isSome &&
      hasSoundUnderscores Char.isDigit (mayDivideStart literal) magnitude)

/-- The number is so great that it rounds to infinity in double precision. -/
def Scientific.overflows (number : Scientific) : Bool :=
  let bound := Nat.pow 2 1024 - Nat.pow 2 970
  let magnitude := (Nat.toDigits 10 number.digits).length + number.exponent
  if number.digits = 0 ∨ magnitude < 300 then false
  else if 310 < magnitude then true
  else if 0 ≤ number.exponent then
    bound ≤ number.digits * Nat.pow 10 number.exponent.toNat
  else bound * Nat.pow 10 (-number.exponent).toNat ≤ number.digits

/-- A float literal in the range of double precision. -/
def isFiniteFloat (literal : Text) : Bool :=
  match scientific? (splitSign literal).2 with
  | some number => !number.overflows
  | none => true

end ModalTutor.Toml
