/-!
# Paths

A path is kept as it was written. Most questions about it are asked of its *components*, the
names between the slashes: an empty piece and a `.` count for nothing, except for a `.` that
begins the path. Two texts with the same components name the same place (`Path.Same`), which is
how paths are compared wherever the text itself is not shown.

The text is cut at its slashes once (`pieces`), and the first piece tells how the path is
anchored: at the root, at an explicit `.`, or nowhere.
-/

namespace DirectImports

/-- A path as written, with `/` between its names. -/
structure Path where
  text : String
deriving DecidableEq, Repr, Inhabited

/-- One step of a path. -/
inductive Component
  /-- the leading `/` -/
  | root
  /-- a leading `.` -/
  | current
  /-- `..` -/
  | parent
  | name (name : String)
deriving DecidableEq, Repr

namespace Path

/-! ## Pieces between slashes -/

/-- The pieces of a text between its slashes, at least one. -/
def pieces : List Char → List (List Char)
  | [] => [[]]
  | c :: cs =>
    if c = '/' then [] :: pieces cs
    else match pieces cs with
      | [] => [[c]]
      | piece :: rest => (c :: piece) :: rest

/-- Pieces with a slash between each two. -/
def joinPieces : List (List Char) → List Char
  | [] => []
  | [piece] => piece
  | piece :: rest => piece ++ '/' :: joinPieces rest

theorem pieces_ne_nil (cs : List Char) : pieces cs ≠ [] := by
  cases cs with
  | nil => simp [pieces]
  | cons c cs =>
    unfold pieces
    split
    · simp
    · split <;> simp

theorem joinPieces_pieces (cs : List Char) : joinPieces (pieces cs) = cs := by
  induction cs with
  | nil => rfl
  | cons c cs ih =>
    unfold pieces
    by_cases hc : c = '/'
    · rw [if_pos hc]
      match h : pieces cs with
      | [] => exact absurd h (pieces_ne_nil cs)
      | piece :: rest => rw [joinPieces, ← h, ih, hc]; simp; simp
    · rw [if_neg hc]
      match h : pieces cs with
      | [] => exact absurd h (pieces_ne_nil cs)
      | [piece] => rw [h, joinPieces] at ih; simp [joinPieces, ih]
      | piece :: next :: rest => rw [h] at ih; simp_all [joinPieces]

/-- Where the first name of a path is looked up. -/
inductive Anchor
  /-- at the root: the text begins with `/` -/
  | root
  /-- at an explicit `.` -/
  | current
  /-- the text begins with a name or `..`, or is empty -/
  | none
deriving DecidableEq, Repr

/-- The anchor of a text and the pieces that follow it. -/
def anchored (text : List Char) : Anchor × List (List Char) :=
  match pieces text with
  | [] => (.none, [])
  | first :: rest =>
    if first = [] ∧ rest ≠ [] then (.root, rest)
    else if first = ['.'] then (.current, rest)
    else (.none, first :: rest)

/-- The text of an anchor and the pieces that follow it. -/
def unanchored : Anchor → List (List Char) → List Char
  | .root, body => '/' :: joinPieces body
  | .current, [] => ['.']
  | .current, body => '.' :: '/' :: joinPieces body
  | .none, body => joinPieces body

/-! ## Components -/

/-- The component a piece stands for, if it counts. -/
def componentOfPiece? : List Char → Option Component
  | [] => none
  | ['.'] => none
  | ['.', '.'] => some .parent
  | piece => some (.name (String.ofList piece))

/-- The component of an anchor. -/
def Anchor.components : Anchor → List Component
  | .root => [.root]
  | .current => [.current]
  | .none => []

/-- The components of a path. -/
def components (path : Path) : List Component :=
  let parts := anchored path.text.toList
  parts.1.components ++ parts.2.filterMap componentOfPiece?

/-- The two texts name the same place. -/
def Same (p q : Path) : Prop :=
  p.components = q.components

instance (p q : Path) : Decidable (Same p q) :=
  inferInstanceAs (Decidable (p.components = q.components))

/-- The path begins at the root. -/
def isAbsolute (path : Path) : Bool :=
  path.text.toList.head? == some '/'

/-! ## Building paths -/

/-- Appends a text: an absolute one replaces the path, any other is set off by one slash. -/
def join (path : Path) (text : String) : Path :=
  if text.toList.head? = some '/' then ⟨text⟩
  else if path.text.toList.getLast?.all (· == '/') then ⟨path.text ++ text⟩
  else ⟨path.text ++ "/" ++ text⟩

end Path

/-- The text of one component. -/
def Component.text : Component → String
  | .root => "/"
  | .current => "."
  | .parent => ".."
  | .name n => n

namespace Path

/-- The path with the given components, joined one after the other. -/
def ofComponents (components : List Component) : Path :=
  components.foldl (fun path component => path.join component.text) ⟨""⟩

/-! ## Taking paths apart -/

/-- The pieces up to the last one that counts. -/
def trimmed (body : List (List Char)) : List (List Char) :=
  (body.reverse.dropWhile fun piece => piece == [] || piece == ['.']).reverse

/-- The path without its last component; the root and the empty path have no parent. -/
def parent? (path : Path) : Option Path :=
  let (anchor, body) := anchored path.text.toList
  match trimmed body with
  | [] => if anchor = .current then some ⟨""⟩ else none
  | piece :: rest =>
    some ⟨String.ofList (unanchored anchor (trimmed (piece :: rest).dropLast))⟩

/-- The last component, if it is a name. -/
def fileName? (path : Path) : Option String :=
  match path.components.getLast? with
  | some (.name name) => some name
  | _ => none

/-- A file name cut at its last dot, unless that dot is its first character. -/
def cutExtension (name : List Char) : List Char × Option (List Char) :=
  let extension := (name.reverse.takeWhile (· != '.')).reverse
  let stem := name.take (name.length - extension.length - 1)
  if stem = [] ∨ ¬ '.' ∈ name then (name, none) else (stem, some extension)

/-- The part of the file name before its last dot. -/
def fileStem? (path : Path) : Option String :=
  path.fileName?.map fun name => String.ofList (cutExtension name.toList).1

/-- The part of the file name after its last dot. -/
def extension? (path : Path) : Option String :=
  path.fileName?.bind fun name => (cutExtension name.toList).2.map String.ofList

/-- The components of `base` are the first of `path`. -/
def startsWith (path base : Path) : Bool :=
  base.components.isPrefixOf path.components

/-- What remains of a path after the components of `base`. -/
def relativeTo? (path base : Path) : Option Path :=
  if path.startsWith base then
    some (ofComponents (path.components.drop base.components.length))
  else none

/-- A path as shown when working in `base`. -/
def shownFrom (path base : Path) : Path :=
  (path.relativeTo? base).getD path

end Path

end DirectImports
