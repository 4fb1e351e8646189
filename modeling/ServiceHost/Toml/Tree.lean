import ServiceHost.Settings.Node

/-!
# The tree of a TOML document

While a document is read, a table remembers how it came to be: by its own header, by a longer
header that goes through it, or by a dotted key.  A header may open a table that a longer header
only implied, and dotted keys may go on in a table that dotted keys made; everything else that
comes twice is an error.  Values, inline tables among them, are closed.
-/

namespace ServiceHost.Toml

/-- How a table came to be. -/
inductive Origin where
  /-- By its own header. -/
  | header
  /-- By a longer header. -/
  | implied
  /-- By a dotted key. -/
  | dotted
  deriving DecidableEq, Repr

/-- An entry of a table that is still open. -/
inductive Item where
  /-- A closed value. -/
  | value (node : Node)
  /-- A table. -/
  | table (origin : Origin) (entries : List (String × Item))
  /-- An array of tables, each opened by a header of its own. -/
  | tables (elements : List (List (String × Item)))
  deriving Repr, Inhabited

/-- The entries of a table, in the order in which they were written. -/
abbrev Entries := List (String × Item)

/-- The item at a key. -/
def find? (key : String) (entries : Entries) : Option Item :=
  (entries.find? fun e => e.1 == key).map (·.2)

/-- Replace the item at a key that is there. -/
def replace (key : String) (item : Item) (entries : Entries) : Entries :=
  entries.map fun e => if e.1 == key then (key, item) else e

/-- A change of a table, which may turn out to be an error. -/
abbrev Change := Origin → Entries → Option (Origin × Entries)

/-- Change the table at a path.  Tables that are missing on the way are made with the given
origin.  A path goes on in the last element of an array of tables; a dotted key goes through no
table that has a header. -/
def changeAt (make : Origin) (change : Change) : List String → Change
  | [], origin, entries => change origin entries
  | key :: rest, origin, entries =>
    match find? key entries with
    | none =>
      (changeAt make change rest make []).map fun (o, inner) =>
        (origin, entries ++ [(key, .table o inner)])
    | some (.value _) => none
    | some (.tables elements) =>
      (changeAt make change rest .header (elements.getLast?.getD [])).map fun (_, inner) =>
        (origin, replace key (.tables (elements.dropLast ++ [inner])) entries)
    | some (.table o inner) =>
      if make = .dotted ∧ o = .header then none
      else
        (changeAt make change rest o inner).map fun (o, inner) =>
          (origin, replace key (.table o inner) entries)

/-- Set a key that is not there yet.  Through dotted keys only a table made by dotted keys can
be entered. -/
def setKey (isDotted : Bool) (key : String) (node : Node) : Change := fun origin entries =>
  if (origin == .dotted) != isDotted then none
  else if (find? key entries).isSome then none
  else some (origin, entries ++ [(key, .value node)])

/-- Set the value of a dotted key. -/
def setDotted (path : List String) (node : Node) : Change :=
  match path.getLast? with
  | none => fun _ _ => none
  | some key =>
    changeAt .dotted (setKey (1 < path.length) key node) path.dropLast

/-- Open the table of a header. -/
def openTable (key : String) : Change := fun origin entries =>
  match find? key entries with
  | none => some (origin, entries ++ [(key, .table .header [])])
  | some (.table .implied inner) => some (origin, replace key (.table .header inner) entries)
  | some _ => none

/-- Open the next element of an array of tables. -/
def openElement (key : String) : Change := fun origin entries =>
  match find? key entries with
  | none => some (origin, entries ++ [(key, .tables [[]])])
  | some (.tables elements) => some (origin, replace key (.tables (elements ++ [[]])) entries)
  | some _ => none

mutual

/-- The node of an item. -/
def Item.toNode : Item → Node
  | .value node => node
  | .table _ entries => .table (entriesToNodes entries)
  | .tables elements => .list (elementsToNodes elements)

/-- The nodes of entries. -/
def entriesToNodes : List (String × Item) → List (String × Node)
  | [] => []
  | (key, item) :: rest => (key, item.toNode) :: entriesToNodes rest

/-- The nodes of an array of tables. -/
def elementsToNodes : List (List (String × Item)) → List Node
  | [] => []
  | entries :: rest => .table (entriesToNodes entries) :: elementsToNodes rest

end

end ServiceHost.Toml
