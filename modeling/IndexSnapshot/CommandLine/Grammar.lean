/-
# IndexSnapshot.CommandLine.Grammar -- options and arguments of a command

The words behind a command are options, which begin with a dash, and arguments, which
are told apart by their order.  An option may be cut short as long as only one begins
so, and its value may follow an equals sign.  Short options may stand together in one
word.  Behind two dashes that stand alone there are only arguments.

* `Grammar.classify` says what a word is by itself, `Grammar.read` what all words mean.
  Words that mean nothing are given back, and are no fault of this command.
* `Given.ofWords` is the value that words give.  The first two dashes that stand alone
  among them are taken away also where they are the value, and then there is none.
-/
import IndexSnapshot.Text.Digit
import IndexSnapshot.Text.Quoted

namespace IndexSnapshot.CommandLine

set_option autoImplicit false

/-! ## Grammars -/

/-- An option: its spellings, and whether a value follows. -/
structure Flag where
  names : List String
  takesValue : Bool := false
  isRequired : Bool := false
  deriving DecidableEq, Repr

/-- All spellings of an option. -/
def Flag.shown (flag : Flag) : String :=
  "/".intercalate flag.names

/-- How many words an argument takes. -/
inductive Arity where
  | one
  | optional
  /-- One word and all that follows, options too. -/
  | all
  deriving DecidableEq, Repr

/-- An argument. -/
structure Argument where
  name : String
  arity : Arity
  deriving DecidableEq, Repr

/-- What may stand behind a command. -/
structure Grammar where
  /-- The command as it is called. -/
  program : String
  usage : String
  flags : List Flag
  arguments : List Argument
  deriving DecidableEq, Repr

/-- What is wrong with the words behind a command. -/
inductive UsageFault where
  | ambiguous (word : String) (candidates : List String)
  | valueMissing (flag : Flag)
  | valueIgnored (flag : Flag) (value : String)
  | invalidChoice (argument word : String) (choices : List String)
  | missing (names : List String)
  | unrecognized (words : List String)
  deriving DecidableEq, Repr

def UsageFault.message : UsageFault → String
  | .ambiguous word candidates =>
      "ambiguous option: " ++ word ++ " could match " ++ ", ".intercalate candidates
  | .valueMissing flag => "argument " ++ flag.shown ++ ": expected one argument"
  | .valueIgnored flag value =>
      "argument " ++ flag.shown ++ ": ignored explicit argument " ++ Text.literal value
  | .invalidChoice argument word choices =>
      "argument " ++ argument ++ ": invalid choice: " ++ Text.literal word ++ " (choose from "
        ++ ", ".intercalate (choices.map Text.literal) ++ ")"
  | .missing names => "the following arguments are required: " ++ ", ".intercalate names
  | .unrecognized words => "unrecognized arguments: " ++ " ".intercalate words

/-- Why words are not read to their end. -/
inductive Stop where
  /-- Help was asked for. -/
  | help
  | fault (fault : UsageFault)
  deriving DecidableEq, Repr

/-! ## Single words -/

/-- What a word is by itself. -/
inductive Mark where
  /-- The first two dashes that stand alone. -/
  | separator
  | plain (word : String)
  | known (word name : String) (flag : Flag) (value : Option String)
  /-- An option that the grammar does not have. -/
  | unknown (word : String)
  deriving DecidableEq, Repr

namespace Mark

def word : Mark → String
  | .separator => "--"
  | .plain word => word
  | .known word _ _ _ => word
  | .unknown word => word

def isOption : Mark → Bool
  | .known _ _ _ _ => true
  | .unknown _ => true
  | _ => false

end Mark

/-- What stands before and behind the first equals sign. -/
def splitSign (chars : List Char) : List Char × Option (List Char) :=
  match chars.span (· != '=') with
  | (before, []) => (before, none)
  | (before, _ :: behind) => (before, some behind)

/-- A minus sign and digits, or a minus sign and digits with a point before the last
ones.  The end of a line behind them does not count. -/
def isNegativeNumber (chars : List Char) : Bool :=
  let chars := if chars.getLast? = some '\n' then chars.dropLast else chars
  match chars with
  | '-' :: rest =>
      match rest.span Text.isDecimalDigit with
      | (whole, []) => !whole.isEmpty
      | (_, '.' :: places) => !places.isEmpty && places.all Text.isDecimalDigit
      | _ => false
  | _ => false

namespace Grammar

/-- All spellings, each with its option, in order. -/
def spellings (g : Grammar) : List (String × Flag) :=
  g.flags.flatMap fun flag => flag.names.map fun name => (name, flag)

/-- The option with the given spelling. -/
def flag? (g : Grammar) (name : String) : Option Flag :=
  (g.spellings.find? fun (spelling, _) => spelling == name).map Prod.snd

/-- The options that a word may be short for.  A word with two dashes is cut at its equals
sign; a word with one dash may also be a short option with a value in the same word. -/
def candidates (g : Grammar) (word : String) : List Mark :=
  match word.toList with
  | '-' :: '-' :: _ =>
      let (start, value) := splitSign word.toList
      g.spellings.filterMap fun (name, flag) =>
        if start.isPrefixOf name.toList then
          some (.known word name flag (value.map String.ofList))
        else none
  | dash :: letter :: behind =>
      g.spellings.filterMap fun (name, flag) =>
        if name.toList = [dash, letter] then
          some (.known word name flag (some (String.ofList behind)))
        else if word.toList.isPrefixOf name.toList then some (.known word name flag none)
        else none
  | _ => []

/-- The option with the spelling before an equals sign, and the value behind it. -/
def withValue? (g : Grammar) (word : String) : Option Mark :=
  match splitSign word.toList with
  | (_, none) => none
  | (start, some value) =>
      let name := String.ofList start
      (g.flag? name).map fun flag => .known word name flag (some (String.ofList value))

/-- The name under which an option is found. -/
def foundName : Mark → String
  | .known _ name _ _ => name
  | mark => mark.word

/-- What a word is by itself.  A word that begins with a dash and is no option is one that
this grammar does not have, unless it is a negative number or has a space in it. -/
def classify (g : Grammar) (word : String) : Except UsageFault Mark :=
  match word.toList with
  | '-' :: _ :: _ =>
      match g.flag? word, g.withValue? word, g.candidates word with
      | some flag, _, _ => .ok (.known word word flag none)
      | none, some mark, _ => .ok mark
      | none, none, [mark] => .ok mark
      | none, none, [] =>
          if isNegativeNumber word.toList || word.toList.contains ' ' then .ok (.plain word)
          else .ok (.unknown word)
      | none, none, marks => .error (.ambiguous word (marks.map foundName))
  | _ => .ok (.plain word)

/-- What each of some words is by itself. -/
def classifyAll (g : Grammar) : List String → Except UsageFault (List Mark)
  | [] => .ok []
  | word :: rest =>
      if word = "--" then .ok (.separator :: rest.map .plain)
      else do
        let mark ← g.classify word
        let marks ← g.classifyAll rest
        return mark :: marks

end Grammar

/-! ## All words -/

/-- The value of an option or of an argument. -/
inductive Given where
  | word (text : String)
  /-- The only word was the separator. -/
  | nothing
  deriving DecidableEq, Repr

/-- The value that words give. -/
def Given.ofWords (words : List String) : Given :=
  match words.erase "--" with
  | first :: _ => .word first
  | [] => .nothing

/-- What has been read so far. -/
structure Reading where
  /-- The options with their values; an option that takes none has nothing. -/
  flags : List (Flag × Given) := []
  /-- The arguments with their words. -/
  arguments : List (String × List String) := []
  extras : List String := []
  deriving Repr

namespace Reading

/-- Adds an option; a request for help ends the reading. -/
def addFlag (r : Reading) (flag : Flag) (value : Given) : Except Stop Reading :=
  if flag.names.contains "--help" then .error .help
  else .ok { r with flags := r.flags ++ [(flag, value)] }

/-- Adds options without values. -/
def addFlags (r : Reading) (flags : List Flag) : Except Stop Reading :=
  flags.foldlM (fun r flag => r.addFlag flag .nothing) r

def addExtras (r : Reading) (words : List String) : Reading :=
  { r with extras := r.extras ++ words }

end Reading

/-- Whether a mark is the separator. -/
def isSeparator (mark : Mark) : Bool :=
  mark == .separator

/-- The marks that an argument takes, and the others; none if it cannot be there. -/
def Arity.take? (arity : Arity) (marks : List Mark) : Option (List Mark × List Mark) :=
  let (lead, rest) := marks.span isSeparator
  match arity, rest with
  | .all, .plain _ :: _ => some (marks, [])
  | .all, _ => none
  | _, .plain word :: rest =>
      let (tail, rest) := rest.span isSeparator
      some (lead ++ .plain word :: tail, rest)
  | .one, _ => none
  | .optional, rest => some (lead, rest)

/-- Gives the marks to as many arguments as can be there: what they take, the arguments
that are left, and the marks that are left. -/
def takeArguments : List Argument → List Mark →
    List (String × List String) × List Argument × List Mark
  | [], marks => ([], [], marks)
  | argument :: more, marks =>
      match argument.arity.take? marks with
      | none => ([], argument :: more, marks)
      | some (mine, rest) =>
          let (taken, left, rest) := takeArguments more rest
          ((argument.name, mine.map Mark.word) :: taken, left, rest)

namespace Grammar

/-- The options that stand together in one word: those before the last one, the last one,
and its value if that is in the word, too.  An option takes what follows it as its value;
one without a value may be followed by the letter of another one, if it is short itself. -/
def together (g : Grammar) (flag : Flag) (isShort : Bool) :
    List Char → Except UsageFault (List Flag × Flag × Option String)
  | [] =>
      if flag.takesValue then .ok ([], flag, some "") else .error (.valueIgnored flag "")
  | letter :: behind =>
      let value := String.ofList (letter :: behind)
      if flag.takesValue then .ok ([], flag, some value)
      else
        match g.flag? (String.ofList ['-', letter]), behind with
        | none, _ => .error (.valueIgnored flag value)
        | some next, behind =>
            if !isShort then .error (.valueIgnored flag value)
            else if behind.isEmpty then .ok ([flag], next, none)
            else (g.together next true behind).map fun (before, last) => (flag :: before, last)

/-- The options of a word: those before the last one, the last one, and its value if that
is in the word, too. -/
def optionsOf (g : Grammar) (name : String) (flag : Flag) (value : Option String) :
    Except UsageFault (List Flag × Flag × Option String) :=
  match value with
  | none => .ok ([], flag, none)
  | some value => g.together flag (name.toList[1]? != some '-') value.toList

/-- Reads the options of a word, and the word behind it where the last of them takes a
value.  Nothing is done before all of them are known. -/
def readOptions (g : Grammar) (name : String) (flag : Flag) (value : Option String)
    (marks : List Mark) (r : Reading) : Except Stop (List Mark × Reading) := do
  let (before, last, value) ← (g.optionsOf name flag value).mapError .fault
  match last.takesValue, value, marks with
  | false, _, marks => return (marks, ← r.addFlags (before ++ [last]))
  | true, some value, marks =>
      return (marks, ← (← r.addFlags before).addFlag last (.ofWords [value]))
  | true, none, .plain word :: rest =>
      return (rest, ← (← r.addFlags before).addFlag last (.ofWords [word]))
  | true, none, _ => throw (.fault (.valueMissing last))

/-- Reads marks to their end.  Arguments are taken as soon as words for them are there, and
what no argument takes is left over.  Every step takes a mark, so `fuel` is the number
of marks. -/
def readMarks (g : Grammar) : Nat → List Argument → List Mark → Reading →
    Except Stop (List Argument × Reading)
  | 0, left, _, r => .ok (left, r)
  | fuel + 1, left, marks, r =>
      match marks.span fun mark => !mark.isOption with
      | (_, []) =>
          let (taken, left, rest) := takeArguments left marks
          .ok (left, { r with arguments := r.arguments ++ taken }.addExtras (rest.map Mark.word))
      | ([], .known _ name flag value :: rest) => do
          let (rest, r) ← g.readOptions name flag value rest r
          g.readMarks fuel left rest r
      | ([], mark :: rest) => g.readMarks fuel left rest (r.addExtras [mark.word])
      | (words, behind) =>
          let (taken, left, rest) := takeArguments left marks
          if taken.isEmpty then
            g.readMarks fuel left behind (r.addExtras (words.map Mark.word))
          else g.readMarks fuel left rest { r with arguments := r.arguments ++ taken }

/-- The names of what is required and missing. -/
def missingNames (g : Grammar) (left : List Argument) (r : Reading) : List String :=
  let flags := g.flags.filter fun flag =>
    flag.isRequired && !r.flags.any fun (given, _) => given == flag
  let arguments := left.filter fun argument => argument.arity == .one
  flags.map Flag.shown ++ arguments.map Argument.name

/-- What words mean. -/
def read (g : Grammar) (words : List String) : Except Stop Reading := do
  let marks ← (g.classifyAll words).mapError .fault
  let (left, r) ← g.readMarks (marks.length + 1) g.arguments marks {}
  match g.missingNames left r with
  | [] => return r
  | names => throw (.fault (.missing names))

end Grammar

namespace Reading

/-- Whether an option is given. -/
def has (r : Reading) (name : String) : Bool :=
  r.flags.any fun (flag, _) => flag.names.contains name

/-- The value of an option; if it is given more than once, the last one. -/
def value? (r : Reading) (name : String) : Option Given :=
  (r.flags.reverse.find? fun (flag, _) => flag.names.contains name).map Prod.snd

/-- The words of an argument. -/
def words (r : Reading) (name : String) : List String :=
  ((r.arguments.find? fun (argument, _) => argument == name).map Prod.snd).getD []

/-- The value of an argument. -/
def argument (r : Reading) (name : String) : Given :=
  .ofWords (r.words name)

end Reading

end IndexSnapshot.CommandLine
