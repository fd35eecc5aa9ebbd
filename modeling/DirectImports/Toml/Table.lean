import DirectImports.Json.Basic

/-!
# Tables of TOML

A document is a table that is filled line by line. A header names a table once; a dotted key
reaches only into tables that other dotted keys have made; a value, once given, is never extended.
`Fields.descend` keeps these rules.
-/

namespace DirectImports.Toml

/-- How a table came to be. -/
inductive Origin
  /-- named by a header -/
  | header
  /-- above a table that a header names -/
  | implied
  /-- named by a dotted key -/
  | dotted
deriving DecidableEq, Repr

/-- What stands under a key. -/
inductive Entry
  /-- a value that is complete -/
  | value (value : Json.Value)
  | table (origin : Origin) (fields : List (String × Entry))
  /-- the tables of `[[key]]` headers -/
  | tables (items : List (List (String × Entry)))

/-- The entries of a table. -/
abbrev Fields := List (String × Entry)

namespace Fields

/-- Sets an entry: in its place if the key is there, else at the end. -/
def put (fields : Fields) (key : String) (entry : Entry) : Fields :=
  match fields with
  | [] => [(key, entry)]
  | field :: rest => if field.1 = key then (key, entry) :: rest else field :: put rest key entry

/-- Changes the table at the end of a path, and makes the tables on the way that are missing.
`dotted` tells that the path is the beginning of a dotted key. -/
def descend (dotted : Bool) (change : Fields → Option Fields) :
    List String → Fields → Option Fields
  | [], fields => change fields
  | key :: path, fields => do
    let last := dotted && path.isEmpty
    match fields.lookup key with
    | none =>
      let inner ← descend dotted change path []
      return fields.put key (.table (if dotted then .dotted else .implied) inner)
    | some (.table origin inner) =>
      if (dotted && origin == .header) || (last && origin != .dotted) then none
      else
        let inner ← descend dotted change path inner
        return fields.put key (.table origin inner)
    | some (.tables items) =>
      let item ← items.getLast?
      if last then none
      else
        let item ← descend dotted change path item
        return fields.put key (.tables (items.dropLast ++ [item]))
    | some (.value _) => none

/-- Adds an entry under a new key. -/
def add (key : String) (entry : Entry) (fields : Fields) : Option Fields :=
  if (fields.lookup key).isSome then none else some (fields.put key entry)

/-- Adds an entry under a dotted key. -/
def addDotted (path : List String) (entry : Entry) (fields : Fields) : Option Fields := do
  let key ← path.getLast?
  fields.descend true (add key entry) path.dropLast

/-- Opens the table that a header names. -/
def openTable (path : List String) (fields : Fields) : Option Fields := do
  let key ← path.getLast?
  fields.descend false (fun above =>
    match above.lookup key with
    | none => some (above.put key (.table .header []))
    | some (.table .implied inner) => some (above.put key (.table .header inner))
    | _ => none) path.dropLast

/-- Begins the next table that a double header names. -/
def openItem (path : List String) (fields : Fields) : Option Fields := do
  let key ← path.getLast?
  fields.descend false (fun above =>
    match above.lookup key with
    | none => some (above.put key (.tables [[]]))
    | some (.tables items) => some (above.put key (.tables (items ++ [[]])))
    | _ => none) path.dropLast

end Fields

/-! ## As JSON -/

mutual

/-- An entry as a JSON value. -/
def Entry.toJson : Entry → Json.Value
  | .value value => value
  | .table _ fields => .object (fieldsToJson fields)
  | .tables items => .array (itemsToJson items)

/-- The entries of a table as the fields of an object. -/
def fieldsToJson : List (String × Entry) → List (String × Json.Value)
  | [] => []
  | (key, entry) :: rest => (key, entry.toJson) :: fieldsToJson rest

/-- Tables as objects. -/
def itemsToJson : List (List (String × Entry)) → List Json.Value
  | [] => []
  | fields :: rest => .object (fieldsToJson fields) :: itemsToJson rest

end

end DirectImports.Toml
