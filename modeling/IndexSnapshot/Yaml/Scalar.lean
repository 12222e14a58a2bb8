/-
# IndexSnapshot.Yaml.Scalar -- what a plain scalar stands for

A plain scalar is nothing, a truth value, an integer, a number with a point, or a date or
time, if its text has the form of one, and a text otherwise.

* An integer may have a sign and underscores; a zero in front makes it octal, `0x`
  hexadecimal and `0b` binary, and colons separate parts of sixty.
* A number needs a point, and its exponent a sign.
* A text may have the form of a number that there is not: without digits behind the
  letter of its base, or with too many of them.  There may be no such day or time either.
-/
import IndexSnapshot.Decimal.Nearest
import IndexSnapshot.Value.Basic
import IndexSnapshot.Yaml.Fault
import IndexSnapshot.Yaml.Time

namespace IndexSnapshot.Yaml

set_option autoImplicit false

/-! ## Words -/

/-- A word in small letters, with a capital, or in capitals. -/
def spellings (word : String) : List String :=
  [word, word.capitalize, String.ofList (word.toList.map Char.toUpper)]

def nothingWords : List String := "" :: "~" :: spellings "null"

def trueWords : List String := ["yes", "true", "on"].flatMap spellings

def falseWords : List String := ["no", "false", "off"].flatMap spellings

/-! ## Forms -/

/-- A sign, if there is one, and what comes after it. -/
def splitSign (chars : List Char) : Bool × List Char :=
  match chars with
  | '-' :: rest => (true, rest)
  | '+' :: rest => (false, rest)
  | chars => (false, chars)

/-- What stands between colons. -/
def splitColons (chars : List Char) : List (List Char) :=
  chars.foldr
    (fun c parts =>
      if c = ':' then [] :: parts
      else
        match parts with
        | [] => [[c]]
        | part :: rest => (c :: part) :: rest)
    [[]]

/-- Not nothing, and every character is in a class. -/
def consistsOf (ok : Char → Bool) (chars : List Char) : Bool :=
  !chars.isEmpty && chars.all ok

def isOctalDigit (c : Char) : Bool := '0' ≤ c && c ≤ '7'

def isHexDigit (c : Char) : Bool :=
  c.isDigit || ('a' ≤ c && c ≤ 'f') || ('A' ≤ c && c ≤ 'F')

/-- Digits and underscores, a digit first. -/
def isDigits (chars : List Char) : Bool :=
  chars.head?.any Char.isDigit && chars.all fun c => c.isDigit || c == '_'

/-- A number below sixty, in one or two digits. -/
def isSixtieth (chars : List Char) : Bool :=
  match chars with
  | [c] => c.isDigit
  | [c, d] => '0' ≤ c && c ≤ '5' && d.isDigit
  | _ => false

/-! ## Integers -/

/-- What digits in a base are worth; underscores do not count. -/
def digitsIn (base : Nat) (chars : List Char) : Nat :=
  (chars.filter (· != '_')).foldl
    (fun n c =>
      let digit :=
        if c.isDigit then c.toNat - '0'.toNat
        else c.toLower.toNat - 'a'.toNat + 10
      base * n + digit) 0

/-- What digits in the base two or sixteen are worth; there has to be one. -/
def inBase (base : Nat) (chars : List Char) : Except ScalarFault Nat :=
  if chars.all (· == '_') then .error (.noDigits base) else .ok (digitsIn base chars)

/-- What decimal digits are worth, if they are not too many. -/
def decimal (chars : List Char) : Except ScalarFault Nat :=
  let count := (chars.filter (· != '_')).length
  if Text.digitLimit < count then .error (.tooManyDigits count) else .ok (digitsIn 10 chars)

/-- What the digits of an integer are worth, if they have the form of one. -/
def magnitude? (chars : List Char) : Option (Except ScalarFault Nat) :=
  match chars with
  | '0' :: 'b' :: rest =>
      if consistsOf (fun c => c == '0' || c == '1' || c == '_') rest then some (inBase 2 rest)
      else none
  | '0' :: 'x' :: rest =>
      if consistsOf (fun c => isHexDigit c || c == '_') rest then some (inBase 16 rest)
      else none
  | ['0'] => some (.ok 0)
  | '0' :: rest =>
      if consistsOf (fun c => isOctalDigit c || c == '_') rest then some (.ok (digitsIn 8 rest))
      else none
  | chars =>
      match splitColons chars with
      | [whole] => if isDigits whole then some (decimal whole) else none
      | first :: rest =>
          if isDigits first && rest.all isSixtieth then
            some ((decimal first).map fun n =>
              rest.foldl (fun n part => 60 * n + digitsIn 10 part) n)
          else none
      | [] => none

/-- The integer that a text has the form of. -/
def integer? (chars : List Char) : Option (Except ScalarFault Int) :=
  let (negative, digits) := splitSign chars
  (magnitude? digits).map fun n => n.map fun n => if negative then -n else n

/-! ## Numbers with a point -/

/-- The exponent behind the digits, if it has the form of one: a letter, a sign and
digits.  Nothing is the exponent zero. -/
def exponent? (chars : List Char) : Option Int :=
  match chars with
  | [] => some 0
  | e :: sign :: digits =>
      if (e = 'e' ∨ e = 'E') ∧ (sign = '-' ∨ sign = '+') ∧ consistsOf Char.isDigit digits then
        some (if sign = '-' then -(digitsIn 10 digits : Int) else digitsIn 10 digits)
      else none
  | _ => none

/-- The decimal with digits before and after the point. -/
def decimalOf (whole fraction : List Char) (exponent : Int) : Decimal :=
  let places := (fraction.filter (· != '_')).length
  ⟨digitsIn 10 (whole ++ fraction), exponent - places⟩

/-- The sum of parts of sixty, added from the last one to the first.  What a part stands
for is rounded, and so are its product with the part and the sum. -/
def sumOfSixties (parts : List Double) : Except ScalarFault Double := do
  let (sum, _) ← parts.reverse.foldlM
    (fun (sum, unit) part => do
      match Double.ofInt? unit with
      | none => throw .partTooLarge
      | some worth => return (Double.plusMagnitude sum (part.timesMagnitude worth), 60 * unit))
    (Double.withSign false 0, 1)
  return sum

/-- The number with a point that a text has the form of. -/
def number? (chars : List Char) : Option (Except ScalarFault Double) :=
  let (negative, rest) := splitSign chars
  let isSigned := rest.length != chars.length
  if (spellings "inf").contains (String.ofList (rest.drop 1)) && rest.head? == some '.' then
    some (.ok (Double.infinity negative))
  else if [".nan", ".NaN", ".NAN"].contains (String.ofList chars) then some (.ok Double.notANumber)
  else
    match rest.span (· != '.') with
    | (_, []) => none
    | (before, _ :: after) =>
        let (fraction, tail) := after.span fun c => c.isDigit || c == '_'
        let withExponent : Option (Except ScalarFault Double) :=
          (exponent? tail).map fun exponent =>
            .ok (Double.ofDecimal negative (decimalOf before fraction exponent))
        match splitColons before with
        | [[]] => if !isSigned && isDigits fraction then withExponent else none
        | [whole] => if isDigits whole then withExponent else none
        | parts =>
            if parts.head?.any isDigits && parts.tail.all isSixtieth && tail.isEmpty then
              let last := Double.ofDecimal false (decimalOf (parts.getLastD []) fraction 0)
              let whole := parts.dropLast.map fun part =>
                Double.ofDecimal false ⟨digitsIn 10 part, 0⟩
              some ((sumOfSixties (whole ++ [last])).map fun sum =>
                Double.withSign negative sum.bits.toNat)
            else none

/-! ## Scalars -/

/-- What the text of a plain scalar stands for. -/
def plainValue (text : String) : Except ScalarFault Value :=
  if trueWords.contains text then .ok (.bool true)
  else if falseWords.contains text then .ok (.bool false)
  else if nothingWords.contains text then .ok .none
  else
    match number? text.toList, integer? text.toList, time? text.toList with
    | some number, _, _ => number.map .float
    | none, some integer, _ => integer.map .int
    | none, none, some time => time.mapError .noTime
    | none, none, none => .ok (.text text)

end IndexSnapshot.Yaml
