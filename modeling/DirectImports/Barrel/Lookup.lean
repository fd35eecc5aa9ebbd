import DirectImports.Barrel.Error
import DirectImports.Path.Clean
import DirectImports.Text.CharClass

/-!
# Module lookup

A module specifier may lead to a file, to a directory, whose index file is meant, or to a file
whose extension is left out (`FileSystem.locate`).

Where several files could be meant, the least one is taken in an order of its own, so the order
of a directory's listing never matters.
-/

namespace DirectImports

/-- The extensions of modules, most preferred first. -/
def moduleExtensions : List String := ["ts", "tsx", "mts", "cts", "js", "jsx", "mjs", "cjs"]

namespace Lookup

/-! ## Names of candidates -/

/-- The extension of an entry that is exactly `base.extension`, where the extension is a word. -/
def extensionAfter? (base entry : String) : Option String :=
  match entry.toList.drop base.toList.length with
  | '.' :: extension =>
    if base.toList.isPrefixOf entry.toList && !extension.isEmpty
        && extension.all (fun c => Text.isAlphanumeric c || c == '_') then
      some (String.ofList extension)
    else none
  | _ => none

/-- The place of an extension among those of modules. -/
def rank? (extension : String) : Option Nat :=
  moduleExtensions.idxOf? extension

/-- A text occurs within another. -/
def occursIn (part : List Char) : List Char → Bool
  | [] => part.isEmpty
  | c :: rest => part.isPrefixOf (c :: rest) || occursIn part rest

/-- The name that marks an index file. -/
def indexName : String := "index"

/-! ## The least candidate -/

/-- What candidates are ordered by: a number, then a text. -/
structure Key where
  rank : Nat
  name : String
deriving DecidableEq, Repr

/-- The first key comes before the second. -/
def Key.less (a b : Key) : Bool :=
  a.rank < b.rank || (a.rank == b.rank && a.name < b.name)

/-- An index file is `index` with a known extension if possible, else the first name of all. -/
def indexKey (entry : String) : Key :=
  match (extensionAfter? indexName entry).bind rank? with
  | some rank => ⟨rank, ""⟩
  | none => ⟨moduleExtensions.length, entry⟩

/-- Of the files with a given name, one with a known extension is preferred. -/
def siblingKey (base entry : String) : Key :=
  ⟨((extensionAfter? base entry).bind rank?).getD moduleExtensions.length, entry⟩

/-- The first of the candidates whose key is least. -/
def least? (key : String → Key) : List String → Option String
  | [] => none
  | first :: rest =>
    some (rest.foldl (fun best entry => if (key entry).less (key best) then entry else best) first)

end Lookup

namespace FileSystem

open Lookup

/-- The index file among the entries of a directory. -/
def indexFile? (fs : FileSystem) (dir : Path) (entries : List String) : Option String :=
  least? indexKey <| entries.filter fun entry =>
    occursIn indexName.toList entry.toList && fs.isFile (dir.join entry)

/-- The file meant by a path whose extension is left out. -/
def locateSibling (fs : FileSystem) (path : Path) : Except BarrelError Path :=
  match path.fileName?, path.parent? with
  | some base, some parent =>
    match fs.list parent with
    | .ok entries =>
      let candidates := entries.filter fun entry =>
        (extensionAfter? base entry).isSome && fs.isFile (parent.join entry)
      match least? (siblingKey base) candidates with
      | some entry => .ok (parent.join entry)
      | none => .error (.missing path)
    | .error cause =>
      if cause.isNotFound then .error (.missing path) else .error (.unreadable parent cause)
  | _, _ => .error (.missing path)

/-- The index file of a directory. -/
def locateIndex (fs : FileSystem) (dir : Path) : Except BarrelError Path :=
  match fs.list dir with
  | .ok entries =>
    match fs.indexFile? dir entries with
    | some entry => .ok (dir.join entry)
    | none => .error (.noIndex dir)
  | .error cause => .error (.unreadable dir cause)

/-- The file that a path leads to. -/
def locate (fs : FileSystem) (path : Path) : Except BarrelError Path :=
  match fs.metadata path with
  | .ok metadata => if metadata.isDir then fs.locateIndex path else .ok path
  | .error cause =>
    if cause.isNotFound then fs.locateSibling path else .error (.unreadable path cause)

/-- A path made absolute from the working directory, in normal form. -/
def absolute (fs : FileSystem) (path : Path) : Except BarrelError Path :=
  if path.isAbsolute then .ok path.clean
  else
    match fs.cwd with
    | .ok cwd => .ok (cwd.join path.text).clean
    | .error cause => .error (.unreadable path cause)

end FileSystem

end DirectImports
