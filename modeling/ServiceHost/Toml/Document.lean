import ServiceHost.Toml.Scalar
import ServiceHost.Toml.Tree

/-!
# TOML documents

A document is a sequence of lines: comments, headers and assignments.  `Toml.read?` gives the
tree of a whole document and refuses every other text.  Values and dotted keys nest less than 80
levels deep.
-/

namespace ServiceHost.Toml

/-! ## Layout -/

/-- The text behind a comment, which goes on to the end of its line. -/
def skipComment : Rest → Rest
  | '#' :: rest => rest.dropWhile isTextChar
  | input => input

/-- The text behind blanks, a comment and the end of the line. -/
def afterLine? (input : Rest) : Option Rest :=
  match skipComment (skipBlanks input) with
  | [] => some []
  | rest => afterNewline? rest

/-- The text behind blanks, comments and line ends, at most `fuel` lines of them. -/
def skipGaps : (fuel : Nat) → Rest → Option Rest
  | 0, _ => none
  | fuel + 1, input =>
    match skipBlanks input with
    | '#' :: rest => (afterNewline? (skipComment ('#' :: rest))).bind (skipGaps fuel)
    | '\n' :: rest => skipGaps fuel rest
    | '\r' :: rest => (afterNewline? ('\r' :: rest)).bind (skipGaps fuel)
    | rest => some rest

/-! ## Keys -/

/-- The levels of values and of dotted keys stay below this. -/
def depthLimit : Nat := 80

/-- A character of a key without quotes. -/
def isBareChar (c : Char) : Bool :=
  c.isAlphanum || c == '_' || c == '-'

/-- One part of a key. -/
def takeSimpleKey : Rest → Option Text
  | '"' :: rest => takeBasic [] rest
  | '\'' :: rest => takeLiteral [] rest
  | input =>
    let (bare, rest) := input.span isBareChar
    if bare.isEmpty then none else some (String.ofList bare, rest)

/-- A dotted key of at most `fuel` parts, behind the parts already read. -/
def takeKeyOnto (done : List String) : (fuel : Nat) → Rest → Option (List String × Rest)
  | 0, _ => none
  | fuel + 1, input =>
    match takeSimpleKey (skipBlanks input) with
    | none => none
    | some (key, rest) =>
      match skipBlanks rest with
      | '.' :: rest => takeKeyOnto (key :: done) fuel rest
      | rest => some ((key :: done).reverse, rest)

/-- A dotted key. -/
def takeKey (input : Rest) : Option (List String × Rest) :=
  takeKeyOnto [] (depthLimit - 1) input

/-! ## Values -/

/-- The node of an inline table with these assignments. -/
def inlineTable? (pairs : List (List String × Node)) : Option Node :=
  let assign (table : Origin × Entries) (pair : List String × Node) : Option (Origin × Entries) :=
    setDotted pair.1 pair.2 table.1 table.2
  (pairs.foldlM assign (.header, [])).map fun (_, entries) => .table (entriesToNodes entries)

mutual

/-- A value with at most `room` levels of arrays and inline tables. -/
def takeValue : (fuel : Nat) → (room : Nat) → Rest → Option (Node × Rest)
  | 0, _, _ => none
  | fuel + 1, room, input =>
    match input with
    | '"' :: '"' :: '"' :: rest =>
      (takeBasicLines false [] (dropFirstNewline rest)).map fun (s, rest) => (.text s, rest)
    | '"' :: rest => (takeBasic [] rest).map fun (s, rest) => (.text s, rest)
    | '\'' :: '\'' :: '\'' :: rest =>
      (takeLiteralLines [] (dropFirstNewline rest)).map fun (s, rest) => (.text s, rest)
    | '\'' :: rest => (takeLiteral [] rest).map fun (s, rest) => (.text s, rest)
    | 't' :: 'r' :: 'u' :: 'e' :: rest => some (.flag true, rest)
    | 'f' :: 'a' :: 'l' :: 's' :: 'e' :: rest => some (.flag false, rest)
    | '[' :: rest => if room = 0 then none else takeArray fuel (room - 1) [] rest
    | '{' :: rest =>
      if room = 0 then none
      else
        match skipBlanks rest with
        | '}' :: rest => some (.table [], rest)
        | rest => takeInline fuel (room - 1) [] rest
    | _ => takeNumeric input

/-- The rest of an array, behind the items already read. -/
def takeArray : (fuel : Nat) → (room : Nat) → List Node → Rest → Option (Node × Rest)
  | 0, _, _, _ => none
  | fuel + 1, room, done, input =>
    match skipGaps fuel input with
    | none => none
    | some (']' :: rest) => some (.list done.reverse, rest)
    | some rest =>
      match takeValue fuel room rest with
      | none => none
      | some (item, rest) =>
        match skipGaps fuel rest with
        | some (',' :: rest) => takeArray fuel room (item :: done) rest
        | some (']' :: rest) => some (.list (item :: done).reverse, rest)
        | _ => none

/-- The rest of an inline table, behind the assignments already read. -/
def takeInline : (fuel : Nat) → (room : Nat) → List (List String × Node) → Rest →
    Option (Node × Rest)
  | 0, _, _, _ => none
  | fuel + 1, room, done, input =>
    match takeKey input with
    | some (path, '=' :: rest) =>
      match takeValue fuel room (skipBlanks rest) with
      | none => none
      | some (node, rest) =>
        match skipBlanks rest with
        | ',' :: rest => takeInline fuel room ((path, node) :: done) rest
        | '}' :: rest => (inlineTable? ((path, node) :: done).reverse).map (·, rest)
        | _ => none
    | _ => none

end

/-! ## Lines -/

/-- What has been read of a document. -/
structure Draft where
  /-- The entries of the root. -/
  root : Entries := []
  /-- The table that assignments go to. -/
  current : List String := []

/-- Change the table at a path from the root. -/
def Draft.change (draft : Draft) (path : List String) (change : Change) : Option Draft :=
  (changeAt .implied change path .header draft.root).map fun (_, root) => { draft with root }

/-- Read an assignment. -/
def takeAssignment (fuel : Nat) (draft : Draft) (input : Rest) : Option (Draft × Rest) :=
  match takeKey input with
  | some (path, '=' :: rest) =>
    (takeValue fuel (depthLimit - 1) (skipBlanks rest)).bind fun (node, rest) =>
    (afterLine? rest).bind fun rest =>
    (draft.change draft.current (setDotted path node)).map (·, rest)
  | _ => none

/-- Open the table or the array element of a header. -/
def Draft.openSection (draft : Draft) (path : List String) (opened : String → Change) :
    Option Draft :=
  path.getLast?.bind fun key =>
  (draft.change path.dropLast (opened key)).map fun draft => { draft with current := path }

/-- Read a header behind its opening bracket. -/
def takeHeader (draft : Draft) (input : Rest) : Option (Draft × Rest) :=
  match input with
  | '[' :: rest =>
    match takeKey rest with
    | some (path, ']' :: ']' :: rest) =>
      (afterLine? rest).bind fun rest => (draft.openSection path openElement).map (·, rest)
    | _ => none
  | _ =>
    match takeKey input with
    | some (path, ']' :: rest) =>
      (afterLine? rest).bind fun rest => (draft.openSection path openTable).map (·, rest)
    | _ => none

/-- Read the lines of a document. -/
def takeLines : (fuel : Nat) → Draft → Rest → Option Draft
  | 0, _, _ => none
  | fuel + 1, draft, input =>
    match skipBlanks input with
    | [] => some draft
    | '#' :: rest => (afterLine? ('#' :: rest)).bind (takeLines fuel draft)
    | '\n' :: rest => takeLines fuel draft rest
    | '\r' :: rest => (afterNewline? ('\r' :: rest)).bind (takeLines fuel draft)
    | '[' :: rest => (takeHeader draft rest).bind fun (draft, rest) => takeLines fuel draft rest
    | rest => (takeAssignment fuel draft rest).bind fun (draft, rest) => takeLines fuel draft rest

/-- A document may start with a byte order mark. -/
def dropMark : Rest → Rest
  | '\uFEFF' :: rest => rest
  | input => input

/-- The tree of a text that is one whole document. -/
def read? (text : String) : Option Node :=
  let input := dropMark text.toList
  (takeLines (2 * input.length + 2) {} input).map fun draft => .table (entriesToNodes draft.root)

end ServiceHost.Toml
