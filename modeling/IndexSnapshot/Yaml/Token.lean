/-
# IndexSnapshot.Yaml.Token -- the tokens of a YAML document

Tokens are the scalars and marks of a document.  Besides those that are written there
are three kinds that indentation stands for: the start of a block list, the start of a
block map, and the end of either.  That a scalar was a key becomes known only at the
colon behind it, so the place of the last token that may have begun a key is kept, and
the mark of a key is put in there later on.

* `Token.ofText` are the tokens of a text.  Where a text breaks the rules of tokens, a
  token that says so is the last one.  Anchors, tags, directives and block scalars are
  not read.
-/
import IndexSnapshot.Text.Lines
import IndexSnapshot.Yaml.Fault

namespace IndexSnapshot.Yaml

set_option autoImplicit false

/-- A token of a document. -/
inductive Token where
  /-- A scalar; a plain one may stand for something other than its text. -/
  | scalar (text : String) (isPlain : Bool)
  | listStart
  | mapStart
  | blockEnd
  /-- The dash in front of an item of a block list. -/
  | item
  | key
  | value
  | flowListStart
  | flowListEnd
  | flowMapStart
  | flowMapEnd
  | comma
  | documentStart
  | documentEnd
  /-- From here on there are no tokens. -/
  | broken (fault : Fault)
  deriving DecidableEq, Repr

/-! ## Characters -/

/-- The characters that a document may hold. -/
def isPrintable (c : Char) : Bool :=
  let n := c.toNat
  n == 0x09 || n == 0x0A || (0x20 ≤ n && n ≤ 0x7E) || n == 0x85 || (0xA0 ≤ n && n ≤ 0xD7FF)
    || (0xE000 ≤ n && n ≤ 0xFFFD) || 0x10000 ≤ n

/-- The characters that end a line. -/
def isBreak (c : Char) : Bool :=
  c == '\n' || c.toNat == 0x85 || c.toNat == 0x2028 || c.toNat == 0x2029

/-- What the end of a line means inside of a scalar. -/
def breakText (c : Char) : Char :=
  if c.toNat = 0x2028 ∨ c.toNat = 0x2029 then c else '\n'

/-- White space, the end of a line, or the end of the text. -/
def endsWord (c : Option Char) : Bool :=
  match c with
  | none => true
  | some c => c == ' ' || c == '\t' || isBreak c

/-- Three dashes or three dots that stand alone at the start of a line. -/
def isDocumentMark (chars : List Char) : Bool :=
  match chars with
  | '-' :: '-' :: '-' :: rest => endsWord rest.head?
  | '.' :: '.' :: '.' :: rest => endsWord rest.head?
  | _ => false

/-! ## Places in the text -/

/-- A place in the text: what is still to come, and how many characters and lines lie
behind. -/
structure Place where
  rest : List Char
  index : Nat := 0
  line : Nat := 0
  column : Nat := 0

namespace Place

/-- The mark at the start of a text that says how its bytes are ordered. -/
def orderMark : Char := Char.ofNat 0xFEFF

/-- The place one character further on. -/
def next (p : Place) : Place :=
  match p.rest with
  | [] => p
  | c :: rest =>
      if isBreak c then ⟨rest, p.index + 1, p.line + 1, 0⟩
      else ⟨rest, p.index + 1, p.line, if c = orderMark then p.column else p.column + 1⟩

/-- The place some characters further on. -/
def skip (p : Place) : Nat → Place
  | 0 => p
  | n + 1 => p.next.skip n

/-- The place where only `rest` is still to come. -/
def goTo (p : Place) (rest : List Char) : Place :=
  p.skip (p.rest.length - rest.length)

end Place

/-! ## Scalars -/

/-- The ends of lines and the indentation from the start of a line on, as the text that
the ends of lines mean; none if the document ends in between. -/
def foldedBreaks? (atStart : Bool) (chars : List Char) : Option (List Char × List Char) :=
  if atStart && isDocumentMark chars then none
  else
    match chars with
    | [] => some ([], [])
    | c :: rest =>
        if c = ' ' ∨ c = '\t' then foldedBreaks? false rest
        else if isBreak c then
          (foldedBreaks? true rest).map fun (text, after) => (breakText c :: text, after)
        else some ([], c :: rest)

/-- White space inside of quotes: one end of a line is a space, and every further one is
kept. -/
def quotedSpace? (chars : List Char) : Option (List Char × List Char) :=
  let blanks := chars.takeWhile fun c => c == ' ' || c == '\t'
  match chars.dropWhile fun c => c == ' ' || c == '\t' with
  | [] => none
  | c :: rest =>
      if isBreak c then
        (foldedBreaks? true rest).map fun (text, after) =>
          if breakText c = '\n' then (if text.isEmpty then [' '] else text, after)
          else (breakText c :: text, after)
      else some (blanks, c :: rest)

/-- What a letter behind a backslash stands for. -/
def escaped? (c : Char) : Option Char :=
  match c with
  | '0' => some (Char.ofNat 0)
  | 'a' => some (Char.ofNat 7)
  | 'b' => some (Char.ofNat 8)
  | 't' => some '\t'
  | '\t' => some '\t'
  | 'n' => some '\n'
  | 'v' => some (Char.ofNat 0x0B)
  | 'f' => some (Char.ofNat 0x0C)
  | 'r' => some '\r'
  | 'e' => some (Char.ofNat 0x1B)
  | ' ' => some ' '
  | '"' => some '"'
  | '\\' => some '\\'
  | '/' => some '/'
  | 'N' => some (Char.ofNat 0x85)
  | '_' => some (Char.ofNat 0xA0)
  | 'L' => some (Char.ofNat 0x2028)
  | 'P' => some (Char.ofNat 0x2029)
  | _ => none

/-- How many digits of a code follow a letter behind a backslash. -/
def codeLength? (c : Char) : Option Nat :=
  match c with
  | 'x' => some 2
  | 'u' => some 4
  | 'U' => some 8
  | _ => none

/-- What a hexadecimal digit is worth. -/
def hexValue? (c : Char) : Option Nat :=
  if c.isDigit then some (c.toNat - '0'.toNat)
  else if 'a' ≤ c ∧ c ≤ 'f' then some (c.toNat - 'a'.toNat + 10)
  else if 'A' ≤ c ∧ c ≤ 'F' then some (c.toNat - 'A'.toNat + 10)
  else none

/-- What an optional result is; without one the text is malformed. -/
def orMalformed {α : Type} (result : Option α) : Except Fault α :=
  match result with
  | some value => .ok value
  | none => .error .malformed

/-- The character with a code of the given number of digits. -/
def coded (length : Nat) (chars : List Char) : Except Fault (Char × List Char) := do
  let digits := chars.take length
  if digits.length < length then throw .malformed
  let values ← orMalformed (digits.mapM hexValue?)
  let code := values.foldl (fun code value => 16 * code + value) 0
  if 0x110000 ≤ code then throw (.scalar (.noCharacter code))
  if code.isValidChar then return (Char.ofNat code, chars.drop length) else throw .malformed

/-- What stands behind a backslash: its text, and what comes after it.  At the end of a
line it is nothing, and the space around it neither. -/
def escape (chars : List Char) : Except Fault (List Char × List Char) :=
  match chars with
  | [] => .error .malformed
  | c :: rest =>
      match escaped? c with
      | some meant => .ok ([meant], rest)
      | none =>
          match codeLength? c with
          | some length => (coded length rest).map fun (meant, after) => ([meant], after)
          | none =>
              if isBreak c then orMalformed (foldedBreaks? true rest) else .error .malformed

/-- The text of a quoted scalar from behind its first quote on, and what comes after its
last one.  Within single quotes a quote is written twice, within double quotes a
backslash is special.  Every step takes a character, so `fuel` is the number of them. -/
def quoted (double : Bool) : Nat → List Char → Except Fault (List Char × List Char)
  | 0, _ => .error .malformed
  | _ + 1, [] => .error .malformed
  | fuel + 1, c :: rest =>
      let go (text after : List Char) :=
        (quoted double fuel after).map fun (more, after) => (text ++ more, after)
      if c = (if double then '"' else '\'') then
        if !double && rest.head? == some '\'' then go ['\''] rest.tail else .ok ([], rest)
      else if double && c == '\\' then
        match escape rest with
        | .error fault => .error fault
        | .ok (text, after) => go text after
      else if endsWord (some c) then
        match quotedSpace? (c :: rest) with
        | none => .error .malformed
        | some (text, after) => go text after
      else go [c] rest

/-- Whether a plain scalar ends at a character: at white space, at a colon that ends a
key, and within brackets at the marks of flow collections. -/
def endsPlain (inFlow : Bool) (c : Char) (after : Option Char) : Bool :=
  endsWord (some c)
    || (c == ':' && (endsWord after || (inFlow && (after.any ",[]\x7b\x7d".toList.contains))))
    || (inFlow && ",?[]\x7b\x7d".toList.contains c)

/-- The characters of a plain scalar up to the next place where it can end. -/
def plainWord (inFlow : Bool) : List Char → List Char × List Char
  | [] => ([], [])
  | c :: rest =>
      if endsPlain inFlow c rest.head? then ([], c :: rest)
      else
        let (word, after) := plainWord inFlow rest
        (c :: word, after)

/-- The ends of lines and the spaces between the lines of a plain scalar; at the mark of
a document the text is nothing. -/
def plainBreaks (atStart : Bool) (chars : List Char) : Option (List Char) × List Char :=
  if atStart && isDocumentMark chars then (none, chars)
  else
    match chars with
    | [] => (some [], [])
    | c :: rest =>
        if c = ' ' then plainBreaks false rest
        else if isBreak c then
          let (text, after) := plainBreaks true rest
          (text.map (breakText c :: ·), after)
        else (some [], c :: rest)

/-- The space behind a word of a plain scalar: what it means, if the scalar can go on
behind it, what comes after it, and whether it ends a line. -/
def plainSpace (chars : List Char) : List Char × List Char × Bool :=
  let blanks := chars.takeWhile (· == ' ')
  match chars.dropWhile (· == ' ') with
  | [] => (blanks, [], false)
  | c :: rest =>
      if isBreak c then
        match plainBreaks true rest with
        | (none, after) => ([], after, true)
        | (some text, after) =>
            if breakText c = '\n' then (if text.isEmpty then [' '] else text, after, true)
            else (breakText c :: text, after, true)
      else (blanks, c :: rest, false)

/-- A plain scalar: its text, the place behind it, and whether that is on a new line.
Outside of brackets it goes on only in lines that are indented by `indent`. -/
def plain (inFlow : Bool) (indent : Int) : Nat → Place → List Char × Place × Bool
  | 0, p => ([], p, false)
  | fuel + 1, p =>
      if p.rest.head? = some '#' then ([], p, false)
      else
        match plainWord inFlow p.rest with
        | ([], _) => ([], p, false)
        | (word, afterWord) =>
            let (space, after, newLine) := plainSpace afterWord
            let q := p.goTo after
            if space.isEmpty || after.head? == some '#' || (!inFlow && q.column < indent) then
              (word, q, newLine)
            else
              match plain inFlow indent fuel q with
              | ([], q, _) => (word, q, newLine)
              | (more, q, newLine) => (word ++ space ++ more, q, newLine)

/-! ## Scanning -/

/-- The place of a token that may have begun a key: how many tokens lie before it, and
whether a key is the only thing that can stand there. -/
structure KeyPlace where
  tokens : Nat
  isRequired : Bool
  place : Place

/-- The state between two tokens. -/
structure Scanner where
  place : Place
  tokens : Array Token := #[]
  /-- The column of the block collection that is open; -1 outside of all. -/
  indent : Int := -1
  /-- The columns of the block collections around it. -/
  outer : List Int := []
  /-- How many brackets are open. -/
  depth : Nat := 0
  /-- Whether a key can begin here. -/
  keyAllowed : Bool := true
  /-- Where a key may have begun, for each open bracket and for the text around all. -/
  keys : List (Option KeyPlace) := [none]

namespace Scanner

def push (s : Scanner) (token : Token) : Scanner :=
  { s with tokens := s.tokens.push token }

def inFlow (s : Scanner) : Bool :=
  0 < s.depth

/-- Goes on behind some characters. -/
def skip (s : Scanner) (count : Nat) : Scanner :=
  { s with place := s.place.skip count }

/-! ### Keys -/

/-- The place where a key of the innermost collection may have begun. -/
def key? (s : Scanner) : Option KeyPlace :=
  s.keys.head?.join

/-- Sets the place where a key of the innermost collection may have begun. -/
def withKey (s : Scanner) (key : Option KeyPlace) : Scanner :=
  { s with keys := key :: s.keys.tail }

/-- Whether a key that began at a place cannot end at another one: a key is on one line
and has at most 1024 characters. -/
def isStale (p : Place) (key : KeyPlace) : Bool :=
  key.place.line != p.line || 1024 < p.index - key.place.index

/-- Forgets the places of keys that did not end; that is an error where one had to. -/
def dropStale (s : Scanner) : Except Fault Scanner :=
  let stale := s.keys.map fun key => key.any (isStale s.place)
  if (s.keys.zip stale).any fun (key, gone) => gone && key.any KeyPlace.isRequired then
    .error .malformed
  else .ok { s with keys := s.keys.map fun key => key.filter fun k => !isStale s.place k }

/-- Forgets where a key may have begun; that is an error if there had to be one. -/
def dropKey (s : Scanner) : Except Fault Scanner :=
  if s.key?.any KeyPlace.isRequired then .error .malformed else .ok (s.withKey none)

/-- Remembers that a key may begin with the next token. -/
def saveKey (s : Scanner) : Except Fault Scanner :=
  if s.keyAllowed then do
    let required := !s.inFlow && s.indent == s.place.column
    let s ← s.dropKey
    return s.withKey (some ⟨s.tokens.size, required, s.place⟩)
  else .ok s

/-! ### Indentation -/

/-- Ends the block collections that are indented by more than a column; `fuel` is their
number. -/
def closeBlocksFrom (column : Int) : Nat → Scanner → Scanner
  | 0, s => s
  | fuel + 1, s =>
      if column < s.indent then
        match s.outer with
        | [] => { s with indent := -1 }
        | indent :: outer =>
            closeBlocksFrom column fuel ({ s with indent, outer }.push .blockEnd)
      else s

/-- Ends the block collections that are indented by more than a column.  Within brackets
indentation means nothing. -/
def closeBlocks (s : Scanner) (column : Int) : Scanner :=
  if s.inFlow then s else closeBlocksFrom column s.outer.length s

/-- Opens a block collection at a column, if it is indented by more than the open one. -/
def openBlock (s : Scanner) (column : Int) : Bool × Scanner :=
  if s.indent < column then (true, { s with indent := column, outer := s.indent :: s.outer })
  else (false, s)

/-- Opens a block collection at this column with a token of its own. -/
def openBlockHere (s : Scanner) (start : Token) : Scanner :=
  match s.openBlock s.place.column with
  | (true, s) => s.push start
  | (false, s) => s

/-! ### Space between tokens -/

/-- Skips spaces, comments and the ends of lines.  Outside of brackets a key can begin on
every new line.  A mark of byte order is skipped at the very start. -/
def skipSpace : Nat → Scanner → Scanner
  | 0, s => s
  | fuel + 1, s =>
      match s.place.rest with
      | [] => s
      | c :: _ =>
          if c = ' ' || (c = Place.orderMark && s.place.index == 0) then skipSpace fuel (s.skip 1)
          else if isBreak c then
            skipSpace fuel { s.skip 1 with keyAllowed := s.keyAllowed || !s.inFlow }
          else if c = '#' then
            skipSpace fuel (s.skip (s.place.rest.takeWhile fun c => !isBreak c).length)
          else s

/-! ### One token -/

/-- The start or the end of a document. -/
def documentMark (s : Scanner) (token : Token) : Except Fault Scanner := do
  let s ← (s.closeBlocks (-1)).dropKey
  return { s.skip 3 with keyAllowed := false }.push token

/-- An opening bracket. -/
def flowStart (s : Scanner) (token : Token) : Except Fault Scanner := do
  let s ← s.saveKey
  return { s.skip 1 with depth := s.depth + 1, keyAllowed := true, keys := none :: s.keys }.push
    token

/-- A closing bracket. -/
def flowEnd (s : Scanner) (token : Token) : Except Fault Scanner := do
  let s ← s.dropKey
  if s.inFlow then
    return { s.skip 1 with depth := s.depth - 1, keyAllowed := false, keys := s.keys.tail }.push
      token
  else throw .malformed

/-- A comma. -/
def comma (s : Scanner) : Except Fault Scanner := do
  let s ← s.dropKey
  return { s.skip 1 with keyAllowed := true }.push .comma

/-- The dash of an item. -/
def item (s : Scanner) : Except Fault Scanner := do
  if s.inFlow then throw .malformed
  else if s.keyAllowed then
    let s ← (s.openBlockHere .listStart).dropKey
    return { s.skip 1 with keyAllowed := true }.push .item
  else throw .malformed

/-- The question mark of a key. -/
def questionMark (s : Scanner) : Except Fault Scanner := do
  if s.inFlow then
    let s ← s.dropKey
    return { s.skip 1 with keyAllowed := false }.push .key
  else if s.keyAllowed then
    let s ← (s.openBlockHere .mapStart).dropKey
    return { s.skip 1 with keyAllowed := true }.push .key
  else throw .malformed

/-- The mark of a key is put in front of the tokens of the key, and before it the start of
a map, if the key opens one. -/
def markKey (s : Scanner) (key : KeyPlace) : Scanner :=
  let s := s.withKey none
  let (opens, s) := if s.inFlow then (false, s) else s.openBlock key.place.column
  let marks := if opens then #[Token.mapStart, .key] else #[Token.key]
  { s with tokens := s.tokens.extract 0 key.tokens ++ marks ++ s.tokens.extract key.tokens }

/-- The colon behind a key.  Where no key lies before it, the key is empty. -/
def colon (s : Scanner) : Except Fault Scanner := do
  match s.key? with
  | some key => return { (s.markKey key).skip 1 with keyAllowed := false }.push .value
  | none =>
      if s.inFlow then return { s.skip 1 with keyAllowed := false }.push .value
      else if s.keyAllowed then
        return { (s.openBlockHere .mapStart).skip 1 with keyAllowed := true }.push .value
      else throw .malformed

/-- A scalar within quotes. -/
def quotedScalar (s : Scanner) (double : Bool) : Except Fault Scanner := do
  let s ← s.saveKey
  let start := s.place.next
  let (text, after) ← quoted double (start.rest.length + 1) start.rest
  return { s with place := start.goTo after, keyAllowed := false }.push
    (.scalar (String.ofList text) false)

/-- A scalar without quotes. -/
def plainScalar (s : Scanner) : Except Fault Scanner := do
  let s ← s.saveKey
  let (text, after, newLine) := plain s.inFlow (s.indent + 1) s.place.rest.length s.place
  return { s with place := after, keyAllowed := newLine }.push
    (.scalar (String.ofList text) true)

/-- The characters that a plain scalar begins with only if a word follows at once, or
never. -/
def indicators : List Char :=
  "-?:,[]\x7b\x7d#&*!|>'\"%@`".toList

/-- Whether a plain scalar begins with a character. -/
def startsPlain (s : Scanner) (c : Char) (after : Option Char) : Bool :=
  !(endsWord (some c) || indicators.contains c)
    || (!endsWord after && (c == '-' || (!s.inFlow && (c == '?' || c == ':'))))

/-- The next token begins with a character. -/
def token (s : Scanner) (c : Char) (rest : List Char) : Except Fault Scanner :=
  if s.place.column = 0 ∧ isDocumentMark (c :: rest) then
    s.documentMark (if c = '-' then .documentStart else .documentEnd)
  else if c = '[' then s.flowStart .flowListStart
  else if c = '\x7b' then s.flowStart .flowMapStart
  else if c = ']' then s.flowEnd .flowListEnd
  else if c = '\x7d' then s.flowEnd .flowMapEnd
  else if c = ',' then s.comma
  else if c = '-' ∧ endsWord rest.head? then s.item
  else if c = '?' ∧ (s.inFlow ∨ endsWord rest.head?) then s.questionMark
  else if c = ':' ∧ (s.inFlow ∨ endsWord rest.head?) then s.colon
  else if c = '\'' then s.quotedScalar false
  else if c = '"' then s.quotedScalar true
  else if s.startsPlain c rest.head? then s.plainScalar
  else .error .malformed

/-- The tokens of a text that breaks at the next token.  As long as something here may yet
become a key no token of it is settled, so the tokens end before it. -/
def cutShort (s : Scanner) (fault : Fault) : List Token :=
  let undecided := s.keys.filterMap fun key => key.filter fun k => !isStale s.place k
  let settled := (undecided.map KeyPlace.tokens).foldl min s.tokens.size
  s.tokens.toList.take settled ++ [.broken fault]

/-- All tokens from here on.  Every token takes a character, so `fuel` is the number of
characters. -/
def tokensFrom : Nat → Scanner → List Token
  | 0, s => s.cutShort .malformed
  | fuel + 1, s =>
      match (s.skipSpace (s.place.rest.length + 1)).dropStale with
      | .error fault => s.cutShort fault
      | .ok next =>
          let next := next.closeBlocks next.place.column
          match next.place.rest with
          | [] =>
              match (next.closeBlocks (-1)).dropKey with
              | .error fault => s.cutShort fault
              | .ok next => next.tokens.toList
          | c :: rest =>
              match next.token c rest with
              | .error fault => s.cutShort fault
              | .ok next => tokensFrom fuel next

end Scanner

/-- The tokens of a text. -/
def Token.ofText (text : String) : List Token :=
  let chars := text.toList
  if chars.all isPrintable then
    Scanner.tokensFrom (chars.length + 1) { place := ⟨chars, 0, 0, 0⟩ }
  else [.broken .malformed]

end IndexSnapshot.Yaml
