/-
# IndexSnapshot.Text.Quoted -- texts in quotes

Two ways to write a text between quotes.

* `json` uses double quotes and the escapes of JSON, and leaves every other character
  as it is; `jsonAscii` also escapes whatever is not printable ASCII, as UTF-16 units.
* `literal` uses single quotes, or double ones around a text that has a single quote
  and no double one, and escapes what is not printable; `bytesLiteral` does the same
  for a byte string.  `asciiOnly` escapes what is not ASCII and leaves the rest.
-/
import IndexSnapshot.Bytes.Basic
import IndexSnapshot.Text.Printable

namespace IndexSnapshot.Text

set_option autoImplicit false

/-! ## Hexadecimal escapes -/

/-- The last `k` hexadecimal digits of a number. -/
def hexDigits : Nat → Nat → List Char
  | 0, _ => []
  | k + 1, n => hexDigits k (n / 16) ++ [Bytes.hexDigit (n % 16)]

/-- A backslash, a letter, and `k` hexadecimal digits. -/
def hexEscape (letter : Char) (k n : Nat) : List Char :=
  '\\' :: letter :: hexDigits k n

/-! ## Double quotes -/

/-- The short escape of a character that must be escaped in JSON, if it has one. -/
def jsonShort? (c : Char) : Option Char :=
  match c with
  | '"' => some '"'
  | '\\' => some '\\'
  | '\n' => some 'n'
  | '\r' => some 'r'
  | '\t' => some 't'
  | '\x08' => some 'b'
  | '\x0c' => some 'f'
  | _ => none

/-- A character between double quotes. -/
def jsonChar (c : Char) : List Char :=
  match jsonShort? c with
  | some letter => ['\\', letter]
  | none => if c.toNat < 0x20 then hexEscape 'u' 4 c.toNat else [c]

/-- A text between double quotes. -/
def json (text : String) : String :=
  String.ofList ('"' :: text.toList.flatMap jsonChar ++ ['"'])

/-- A character between double quotes, in ASCII; two escapes above U+FFFF. -/
def jsonAsciiChar (c : Char) : List Char :=
  let n := c.toNat
  match jsonShort? c with
  | some letter => ['\\', letter]
  | none =>
      if 0x20 ≤ n ∧ n < 0x7F then [c]
      else if n < 0x10000 then hexEscape 'u' 4 n
      else
        hexEscape 'u' 4 (0xD800 + (n - 0x10000) / 1024)
          ++ hexEscape 'u' 4 (0xDC00 + (n - 0x10000) % 1024)

/-- A text between double quotes, in ASCII. -/
def jsonAscii (text : String) : String :=
  String.ofList ('"' :: text.toList.flatMap jsonAsciiChar ++ ['"'])

/-! ## Single quotes -/

/-- The quote around a text with the given characters. -/
def quoteFor (chars : List Char) : Char :=
  if chars.contains '\'' && !chars.contains '"' then '"' else '\''

/-- A character by its number, in as many digits as are needed of two, four or eight. -/
def escaped (c : Char) : List Char :=
  if c.toNat < 0x100 then hexEscape 'x' 2 c.toNat
  else if c.toNat < 0x10000 then hexEscape 'u' 4 c.toNat
  else hexEscape 'U' 8 c.toNat

/-- A character between the given quotes. -/
def literalChar (quote c : Char) : List Char :=
  if c = quote ∨ c = '\\' then ['\\', c]
  else if c = '\n' then ['\\', 'n']
  else if c = '\r' then ['\\', 'r']
  else if c = '\t' then ['\\', 't']
  else if isPrintable c then [c]
  else escaped c

/-- Characters between the quotes that suit them. -/
def literalChars (chars : List Char) : List Char :=
  let quote := quoteFor chars
  quote :: chars.flatMap (literalChar quote) ++ [quote]

/-- A text between single quotes, or double ones. -/
def literal (text : String) : String :=
  String.ofList (literalChars text.toList)

/-- A text with every character escaped that is not ASCII. -/
def asciiOnly (text : String) : String :=
  String.ofList (text.toList.flatMap fun c => if c.toNat < 0x80 then [c] else escaped c)

/-- A byte string after the letter `b`: printable ASCII as it is, other bytes escaped. -/
def bytesLiteral (bytes : Bytes) : String :=
  String.ofList ('b' :: literalChars (bytes.map fun b => Char.ofNat b.toNat) |>.flatMap escapeHigh)
where
  escapeHigh (c : Char) : List Char :=
    if c.toNat < 0x7F then [c] else hexEscape 'x' 2 c.toNat

end IndexSnapshot.Text
