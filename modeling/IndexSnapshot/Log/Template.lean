/-
# IndexSnapshot.Log.Template -- messages with places for values

A message may have places for values, each of which begins with a percent sign and ends
with a letter.  The letter says how the value is written: `s` as it is printed, `r` as a
literal and `a` as a literal in ASCII; `d`, `i` and `u` as an integer, `o`, `x` and `X`
in another base; `e`, `f` and `g` as a number with a point; `c` as a character.  Between
the two there may be, in this order, the key of an entry in brackets, flags, a width, a
precision, and a letter that means nothing.  Two percent signs side by side are one in
the text.  A message that comes without values is taken as it is.

* `Place.read` takes a place apart, `Place.write` puts a value into it.
* `Template.fill` puts values into a message: there have to be as many as places.  A
  single map with entries stands for its entries, which are looked up by their keys.
-/
import IndexSnapshot.Bytes.Word
import IndexSnapshot.Decimal.Places
import IndexSnapshot.Value.Literal

namespace IndexSnapshot.Log

set_option autoImplicit false

/-! ## Faults -/

/-- Why values do not fit into the places of a message. -/
inductive TemplateFault where
  | tooFew
  | tooMany
  /-- The message ends within a place. -/
  | incomplete
  /-- The message ends within a key. -/
  | incompleteKey
  /-- A place has a key, but the values are no map. -/
  | mapNeeded
  | keyMissing (key : String)
  /-- A width or precision is taken from a value that is no integer. -/
  | starNotInteger
  /-- A width or precision is taken from a value that does not fit into a word of the
  named kind. -/
  | starTooLarge (word : String)
  | widthTooLarge
  | precisionTooLarge
  /-- No integer is written with so many digits. -/
  | digitsTooMany
  /-- An integer has more digits than are written. -/
  | integerTooLong
  | notANumber (letter : Char) (kind : String)
  | notAnInteger (letter : Char) (kind : String)
  | notReal (kind : String)
  /-- A value that is not a number has no integer part. -/
  | noInteger
  | infinite
  | integerTooLarge
  | notACharacter
  | characterTooLarge
  | unknownPlace (letter : Char) (position : Nat)
  deriving DecidableEq, Repr

/-- A letter as messages about it show it. -/
def shownLetter (letter : Char) : Char :=
  if 31 ≤ letter.toNat ∧ letter.toNat ≤ 126 then letter else '?'

def TemplateFault.message : TemplateFault → String
  | .tooFew => "not enough arguments for format string"
  | .tooMany => "not all arguments converted during string formatting"
  | .incomplete => "incomplete format"
  | .incompleteKey => "incomplete format key"
  | .mapNeeded => "format requires a mapping"
  | .keyMissing key => Text.literal key
  | .starNotInteger => "* wants int"
  | .starTooLarge word => "Python int too large to convert to C " ++ word
  | .widthTooLarge => "width too big"
  | .precisionTooLarge => "precision too big"
  | .digitsTooMany => "precision too large"
  | .integerTooLong => Text.tooManyDigits
  | .notANumber letter kind =>
      "%" ++ letter.toString ++ " format: a real number is required, not " ++ kind
  | .notAnInteger letter kind =>
      "%" ++ letter.toString ++ " format: an integer is required, not " ++ kind
  | .notReal kind => "must be real number, not " ++ kind
  | .noInteger => "cannot convert float NaN to integer"
  | .infinite => "cannot convert float infinity to integer"
  | .integerTooLarge => "int too large to convert to float"
  | .notACharacter => "%c requires int or char"
  | .characterTooLarge => "%c arg not in range(0x110000)"
  | .unknownPlace letter position =>
      "unsupported format character '" ++ (shownLetter letter).toString ++ "' (0x"
        ++ String.ofList (Nat.toDigits 16 letter.toNat) ++ ") at index " ++ toString position

/-! ## Values at hand -/

/-- The values that places are filled with. -/
structure Supply where
  /-- The entries that keys are looked up in. -/
  entries : Option (List (Value × Value)) := none
  /-- The values that no place has taken yet. -/
  values : List Value
  deriving Inhabited

namespace Supply

/-- The values of a message.  A single map with entries is a value and has entries. -/
def ofValues : List Value → Supply
  | [.map (first :: more)] => ⟨some (first :: more), [.map (first :: more)]⟩
  | values => ⟨none, values⟩

/-- The next value. -/
def next (supply : Supply) : Except TemplateFault (Value × Supply) :=
  match supply.values with
  | [] => .error .tooFew
  | value :: values => .ok (value, { supply with values })

/-- The supply whose only value is that of an entry. -/
def atKey (supply : Supply) (key : String) : Except TemplateFault Supply :=
  match supply.entries with
  | none => .error .mapNeeded
  | some entries =>
      match Value.lookup? key entries with
      | none => .error (.keyMissing key)
      | some value => .ok { supply with values := [value] }

/-- The next value as an integer in a signed word. -/
def nextInteger (supply : Supply) (bits : Nat) (word : String) :
    Except TemplateFault (Int × Supply) := do
  let (value, supply) ← supply.next
  let n ←
    match value with
    | .int n => pure n
    | .bool b => pure (if b then 1 else 0)
    | _ => throw .starNotInteger
  if Word.fits bits n then return (n, supply)
  else throw (.starTooLarge word)

end Supply

/-! ## Places -/

/-- How a value is written. -/
structure Place where
  letter : Char
  /-- The value stands at the left of its width. -/
  isLeft : Bool := false
  /-- A number that is not negative has a plus sign. -/
  hasPlus : Bool := false
  /-- A number that is not negative has a space where its sign would be. -/
  hasBlank : Bool := false
  /-- Integers show their base, and numbers with a point keep it. -/
  isAlternate : Bool := false
  /-- Numbers are filled up with zeros. -/
  hasZeros : Bool := false
  width : Nat := 0
  precision : Option Nat := none
  deriving DecidableEq, Repr

namespace Place

/-! ### Reading a place -/

/-- A key up to the bracket that closes it, and what comes after that.  `depth` brackets
are open within the key. -/
def splitKey? (depth : Nat) : List Char → Option (List Char × List Char)
  | [] => none
  | ')' :: rest =>
      match depth with
      | 0 => some ([], rest)
      | depth + 1 => (splitKey? depth rest).map fun (key, rest) => (')' :: key, rest)
  | c :: rest =>
      (splitKey? (if c = '(' then depth + 1 else depth) rest).map fun (key, rest) =>
        (c :: key, rest)

/-- Takes the flags at the start. -/
def readFlags (place : Place) : List Char → Place × List Char
  | '-' :: rest => readFlags { place with isLeft := true } rest
  | '+' :: rest => readFlags { place with hasPlus := true } rest
  | ' ' :: rest => readFlags { place with hasBlank := true } rest
  | '#' :: rest => readFlags { place with isAlternate := true } rest
  | '0' :: rest => readFlags { place with hasZeros := true } rest
  | rest => (place, rest)

/-- The number that digits at the start stand for, and what comes after them. -/
def readNumber (rest : List Char) : Nat × List Char :=
  let (digits, rest) := rest.span Char.isDigit
  (digits.foldl (fun n c => 10 * n + (c.toNat - '0'.toNat)) 0, rest)

/-- Takes the width; a negative one puts the value at the left. -/
def readWidth (place : Place) (rest : List Char) (supply : Supply) :
    Except TemplateFault (Place × List Char × Supply) := do
  match rest with
  | '*' :: rest =>
      let (n, supply) ← supply.nextInteger 64 "ssize_t"
      return ({ place with width := n.natAbs, isLeft := place.isLeft || n < 0 }, rest, supply)
  | rest =>
      let (width, rest) := readNumber rest
      if width < Word.limit 64 then return ({ place with width }, rest, supply)
      else throw .widthTooLarge

/-- Takes the precision behind a point; a negative one is zero. -/
def readPrecision (place : Place) (rest : List Char) (supply : Supply) :
    Except TemplateFault (Place × List Char × Supply) := do
  match rest with
  | '.' :: '*' :: rest =>
      let (n, supply) ← supply.nextInteger 32 "int"
      return ({ place with precision := some n.toNat }, rest, supply)
  | '.' :: rest =>
      let (precision, rest) := readNumber rest
      if precision < Word.limit 32 then return ({ place with precision := some precision }, rest, supply)
      else throw .precisionTooLarge
  | rest => return (place, rest, supply)

/-- Takes the letter that ends a place, and one before it that means nothing. -/
def readLetter (place : Place) (rest : List Char) : Except TemplateFault (Place × List Char) :=
  let rest :=
    match rest with
    | c :: after => if c = 'h' ∨ c = 'l' ∨ c = 'L' then after else rest
    | [] => rest
  match rest with
  | [] => .error .incomplete
  | letter :: rest => .ok ({ place with letter }, rest)

/-- The place behind a percent sign, what comes after it, and the values for it. -/
def read (rest : List Char) (supply : Supply) :
    Except TemplateFault (Place × List Char × Supply) := do
  let (rest, supply) ←
    match rest with
    | '(' :: behind =>
        if supply.entries.isNone then throw .mapNeeded
        match splitKey? 0 behind with
        | none => throw .incompleteKey
        | some (key, rest) => pure (rest, ← supply.atKey (String.ofList key))
    | rest => pure (rest, supply)
  let (place, rest) := readFlags { letter := 's' } rest
  let (place, rest, supply) ← place.readWidth rest supply
  let (place, rest, supply) ← place.readPrecision rest supply
  let (place, rest) ← place.readLetter rest
  return (place, rest, supply)

/-! ### Writing a value -/

/-- A text in the width of a place. -/
def aligned (place : Place) (text : List Char) : List Char :=
  let blanks := List.replicate (place.width - text.length) ' '
  if place.isLeft then text ++ blanks else blanks ++ text

/-- The sign of a number, or what stands in its place. -/
def sign (place : Place) (isNegative : Bool) : List Char :=
  if isNegative then ['-'] else if place.hasPlus then ['+'] else if place.hasBlank then [' '] else []

/-- A number in the width of a place: zeros stand between its beginning and its digits,
spaces around all. -/
def number (place : Place) (beginning digits : List Char) : List Char :=
  if place.hasZeros && !place.isLeft then
    beginning ++ List.replicate (place.width - (beginning ++ digits).length) '0' ++ digits
  else place.aligned (beginning ++ digits)

/-- A text, cut to the precision. -/
def text (place : Place) (value : String) : List Char :=
  place.aligned (match place.precision with
    | none => value.toList
    | some count => value.toList.take count)

/-- A text in which a value is written. -/
def written (place : Place) (value : Value) (text : String) : Except TemplateFault (List Char) :=
  if value.isWritable then .ok (place.text text) else .error .integerTooLong

/-- The integer that a value stands for: the part of a number before its point. -/
def integer (place : Place) : Value → Except TemplateFault Int
  | .bool b => .ok (if b then 1 else 0)
  | .int n => .ok n
  | .float v =>
      match v.place? with
      | none => .error .noInteger
      | some (.at n) => .ok (Int.tdiv n Double.Place.unit)
      | some _ => .error .infinite
  | value => .error (.notANumber place.letter value.kindName)

/-- An integer in a base, with as many digits at least as the precision says. -/
def integerText (place : Place) (base : Nat) (marker : List Char) (n : Int) :
    Except TemplateFault (List Char) := do
  let count := place.precision.getD 0
  if count ≤ Word.limit 32 - 4 then
    if base = 10 ∧ !Text.isWritable n then throw .integerTooLong
    let digits := Decimal.padded count (Nat.toDigits base n.natAbs)
    return place.number (place.sign (n < 0) ++ if place.isAlternate then marker else []) digits
  else throw .digitsTooMany

/-- An integer in another base than ten; only integers are written so. -/
def inBase (place : Place) (base : Nat) (value : Value) : Except TemplateFault (List Char) :=
  let marker := ['0', place.letter]
  match value with
  | .bool b => place.integerText base marker (if b then 1 else 0)
  | .int n => place.integerText base marker n
  | value => .error (.notAnInteger place.letter value.kindName)

/-- The number with a point that a value stands for. -/
def real : Value → Except TemplateFault Double
  | .float v => .ok v
  | .int n =>
      match Double.ofInt? n with
      | some v => .ok v
      | none => .error .integerTooLarge
  | .bool b => .ok (Double.ofRatio false (if b then 1 else 0) 1)
  | value => .error (.notReal value.kindName)

/-- The magnitude of a number in the notation of a letter. -/
def realText (place : Place) (v : Double) : List Char :=
  let count := place.precision.getD 6
  if v.isNaN then "nan".toList
  else if v.isInfinite then "inf".toList
  else
    match place.letter.toLower with
    | 'e' => v.scientific place.isAlternate count
    | 'f' => v.fixed place.isAlternate count
    | _ => v.general place.isAlternate count

/-- The character that a value stands for. -/
def character : Value → Except TemplateFault Char
  | .text s =>
      match s.toList with
      | [c] => .ok c
      | _ => .error .notACharacter
  | .int n =>
      if 0 ≤ n ∧ n < 0x110000 then .ok (Char.ofNat n.toNat) else .error .characterTooLarge
  | .bool b => .ok (Char.ofNat (if b then 1 else 0))
  | _ => .error .notACharacter

/-- A value in its place.  `position` is the index of the letter in the message. -/
def write (place : Place) (position : Nat) (value : Value) : Except TemplateFault (List Char) :=
  match place.letter with
  | 's' => place.written value value.plain
  | 'r' => place.written value value.literal
  | 'a' => place.written value (Text.asciiOnly value.literal)
  | 'd' => do place.integerText 10 [] (← place.integer value)
  | 'i' => do place.integerText 10 [] (← place.integer value)
  | 'u' => do place.integerText 10 [] (← place.integer value)
  | 'o' => place.inBase 8 value
  | 'x' => place.inBase 16 value
  | 'X' => (place.inBase 16 value).map fun text => text.map Char.toUpper
  | 'c' => do return place.aligned [← character value]
  | letter => do
      if "efg".toList.contains letter.toLower then
        let v ← real value
        let text := place.number (place.sign (v.isNegative && !v.isNaN)) (place.realText v)
        return if letter.isUpper then text.map Char.toUpper else text
      else throw (.unknownPlace letter position)

end Place

/-! ## Messages -/

namespace Template

/-- Puts values into the places of a message of the given length.  Every step takes a
character, so `fuel` is the number of characters. -/
def fillFrom (length : Nat) : Nat → List Char → Supply → Except TemplateFault (List Char)
  | 0, _, _ => .ok []
  | _, [], supply =>
      if supply.entries.isNone && !supply.values.isEmpty then .error .tooMany else .ok []
  | fuel + 1, '%' :: '%' :: rest, supply => do
      return '%' :: (← fillFrom length fuel rest supply)
  | fuel + 1, '%' :: rest, supply => do
      let (place, rest, supply) ← Place.read rest supply
      let (value, supply) ← supply.next
      let text ← place.write (length - rest.length - 1) value
      if supply.entries.isSome && !supply.values.isEmpty then throw .tooMany
      return text ++ (← fillFrom length fuel rest supply)
  | fuel + 1, c :: rest, supply => do return c :: (← fillFrom length fuel rest supply)

/-- A message with values in its places. -/
def fill (message : String) (values : List Value) : Except TemplateFault String :=
  if values.isEmpty then .ok message
  else
    let chars := message.toList
    (fillFrom chars.length (chars.length + 1) chars (.ofValues values)).map String.ofList

end Template

end IndexSnapshot.Log
