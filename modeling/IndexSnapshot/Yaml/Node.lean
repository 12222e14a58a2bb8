/-
# IndexSnapshot.Yaml.Node -- the tree of a YAML document

A node is a scalar, a list or a map; what is left out is an empty plain scalar.  The
tree follows from the tokens: every collection ends with a token of its own, but for a
list whose dashes stand in the column of the key before it, which ends where no further
dash follows.

* `Node.ofTokens` is the tree of a document.  An empty text has no tree, and of several
  documents in one text none is read.
-/
import IndexSnapshot.Yaml.Token

namespace IndexSnapshot.Yaml

set_option autoImplicit false

/-- A node of a document. -/
inductive Node where
  | scalar (text : String) (isPlain : Bool)
  | list (items : List Node)
  | map (entries : List (Node × Node))

namespace Node

/-- What stands where a node is left out. -/
def empty : Node :=
  .scalar "" true

/-- The first token is one of some tokens. -/
def isNext (choice : List Token) (tokens : List Token) : Bool :=
  tokens.head?.any choice.contains

/-- What is wrong where tokens do not fit: that they are broken off, or their order. -/
def refuse {α : Type} (tokens : List Token) : Except Fault α :=
  match tokens with
  | .broken fault :: _ => .error fault
  | _ => .error .malformed

mutual

/-- A node and the tokens behind it.  Block collections do not stand within brackets, and
a list without indentation of its own only behind a key.  Of four calls in a row one takes
a token, so four times the number of tokens is enough for `fuel`. -/
def read (inBlock bareList : Bool) : Nat → List Token → Except Fault (Node × List Token)
  | 0, _ => .error .malformed
  | fuel + 1, tokens =>
      match tokens with
      | .scalar text isPlain :: rest => .ok (.scalar text isPlain, rest)
      | .flowListStart :: rest =>
          (flowItems true fuel rest).map fun (items, rest) => (.list items, rest)
      | .flowMapStart :: rest =>
          (flowEntries true fuel rest).map fun (entries, rest) => (.map entries, rest)
      | .item :: _ =>
          if bareList then
            (bareItems fuel tokens).map fun (items, rest) => (.list items, rest)
          else refuse tokens
      | .listStart :: rest =>
          if inBlock then (items fuel rest).map fun (items, rest) => (.list items, rest)
          else refuse tokens
      | .mapStart :: rest =>
          if inBlock then
            (entries fuel rest).map fun (entries, rest) => (.map entries, rest)
          else refuse tokens
      | _ => refuse tokens

/-- A node, unless one of the tokens comes first that cannot begin one. -/
def readUnless (stop : List Token) (inBlock bareList : Bool) :
    Nat → List Token → Except Fault (Node × List Token)
  | 0, _ => .error .malformed
  | fuel + 1, tokens =>
      if isNext stop tokens then .ok (empty, tokens) else read inBlock bareList fuel tokens

/-- The items of a block list. -/
def items : Nat → List Token → Except Fault (List Node × List Token)
  | 0, _ => .error .malformed
  | fuel + 1, tokens =>
      match tokens with
      | .item :: rest => do
          let (first, rest) ← readUnless [.item, .blockEnd] true false fuel rest
          let (more, rest) ← items fuel rest
          return (first :: more, rest)
      | .blockEnd :: rest => .ok ([], rest)
      | _ => refuse tokens

/-- The items of a list without indentation of its own. -/
def bareItems : Nat → List Token → Except Fault (List Node × List Token)
  | 0, _ => .error .malformed
  | fuel + 1, tokens =>
      match tokens with
      | .item :: rest => do
          let (first, rest) ← readUnless [.item, .key, .value, .blockEnd] true false fuel rest
          let (more, rest) ← bareItems fuel rest
          return (first :: more, rest)
      | _ => .ok ([], tokens)

/-- The entries of a block map. -/
def entries : Nat → List Token → Except Fault (List (Node × Node) × List Token)
  | 0, _ => .error .malformed
  | fuel + 1, tokens =>
      match tokens with
      | .key :: rest => do
          let stop := [Token.key, .value, .blockEnd]
          let (key, rest) ← readUnless stop true true fuel rest
          let (value, rest) ←
            match rest with
            | .value :: rest => readUnless stop true true fuel rest
            | _ => .ok (empty, rest)
          let (more, rest) ← entries fuel rest
          return ((key, value) :: more, rest)
      | .blockEnd :: rest => .ok ([], rest)
      | _ => refuse tokens

/-- The items of a list within brackets.  An item may be a map with one entry that has no
brackets of its own. -/
def flowItems (first : Bool) : Nat → List Token → Except Fault (List Node × List Token)
  | 0, _ => .error .malformed
  | fuel + 1, tokens => do
      if isNext [.flowListEnd] tokens then return ([], tokens.tail)
      else
        let tokens ←
          if first then .ok tokens
          else if isNext [.comma] tokens then .ok tokens.tail else refuse tokens
        match tokens with
        | .flowListEnd :: rest => return ([], rest)
        | .key :: rest =>
            let stop := [Token.comma, .flowListEnd]
            let (key, rest) ← readUnless (.value :: stop) false false fuel rest
            let (value, rest) ←
              match rest with
              | .value :: rest => readUnless stop false false fuel rest
              | _ => .ok (empty, rest)
            let (more, rest) ← flowItems false fuel rest
            return (.map [(key, value)] :: more, rest)
        | tokens =>
            let (item, rest) ← read false false fuel tokens
            let (more, rest) ← flowItems false fuel rest
            return (item :: more, rest)

/-- The entries of a map within brackets.  A key may come without a colon. -/
def flowEntries (first : Bool) :
    Nat → List Token → Except Fault (List (Node × Node) × List Token)
  | 0, _ => .error .malformed
  | fuel + 1, tokens => do
      if isNext [.flowMapEnd] tokens then return ([], tokens.tail)
      else
        let tokens ←
          if first then .ok tokens
          else if isNext [.comma] tokens then .ok tokens.tail else refuse tokens
        match tokens with
        | .flowMapEnd :: rest => return ([], rest)
        | .key :: rest =>
            let stop := [Token.comma, .flowMapEnd]
            let (key, rest) ← readUnless (.value :: stop) false false fuel rest
            let (value, rest) ←
              match rest with
              | .value :: rest => readUnless stop false false fuel rest
              | _ => .ok (empty, rest)
            let (more, rest) ← flowEntries false fuel rest
            return ((key, value) :: more, rest)
        | tokens =>
            let (key, rest) ← read false false fuel tokens
            let (more, rest) ← flowEntries false fuel rest
            return ((key, empty) :: more, rest)

end

/-- The content of a document: nothing if its end comes first. -/
def content (tokens : List Token) : Except Fault (Node × List Token) :=
  match tokens with
  | [] => .ok (empty, [])
  | .documentStart :: _ => .ok (empty, tokens)
  | .documentEnd :: _ => .ok (empty, tokens)
  | _ => read true false (4 * tokens.length + 4) tokens

/-- Drops the marks of the end of a document. -/
def dropEnds (tokens : List Token) : List Token :=
  tokens.dropWhile (· == .documentEnd)

/-- The tree of the only document of a text; nothing if the text has no document, and no
answer if the tokens are not those of one document. -/
def ofTokens (tokens : List Token) : Except Fault (Option Node) := do
  match tokens with
  | [] => return none
  | .documentStart :: rest =>
      let (node, rest) ← content rest
      if (dropEnds rest).isEmpty then return some node else refuse (dropEnds rest)
  | _ =>
      let (node, rest) ← read true false (4 * tokens.length + 4) tokens
      if (dropEnds rest).isEmpty then return some node else refuse (dropEnds rest)

end Node

end IndexSnapshot.Yaml
