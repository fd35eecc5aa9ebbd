import DirectImports.FileSystem.Disk
import DirectImports.Proofs.Flatten.Depth
import DirectImports.Proofs.Redirect.RootFile

/-!
# Places on a disk

On a disk without links a path in normal form leads to the place that its names spell
(`IsProject.components_of_locate`), so such a path is given by its place. On a disk that is a tree
(`Disk.IsTree`) only directories have something below them.

A disk whose files get other texts keeps its *shape* (`Disk.SameShape`): every path leads to where
it led before. So a file that could once be read can be written later, whatever was written in
between (`SameShape.writeText`), and only what that file holds changes (`SameShape.put`,
`node?_put`).
-/

namespace DirectImports

/-! ## Tables -/

namespace Table

/-- Replacing what stands at a location moves nothing. -/
theorem keys_insert {table : Table α} {location : Location} {old : α}
    (h : table.get? location = some old) (value : α) :
    (table.insert location value).map (·.1) = table.map (·.1) := by
  induction table with
  | nil => cases h
  | cons entry rest ih =>
    obtain ⟨key, first⟩ := entry
    unfold insert
    by_cases hkey : key = location
    · rw [if_pos hkey]
      rfl
    · have hrest : get? rest location = some old := by simpa [get?, hkey] using h
      rw [if_neg hkey, List.map_cons, ih hrest]
      rfl

end Table

/-! ## Disks without links -/

/-- The node is a link. -/
def Node.isLink : Node → Bool
  | .link _ => true
  | _ => false

/-- A disk as a project has it: all names are plain, and nothing is a link. -/
structure Disk.IsProject (disk : Disk) : Prop where
  isPlain : disk.nodes.IsPlain
  isLink_eq_false : ∀ entry ∈ disk.nodes, entry.2.isLink = false

namespace Disk

variable {disk other : Disk} {path : Path} {location : Location}

theorem IsProject.node?_ne_link (hdisk : disk.IsProject) (location : Location) (target : String) :
    disk.node? location ≠ some (.link target) := by
  unfold node?
  split
  · simp
  · intro hget
    have hlink := hdisk.isLink_eq_false _ (Table.mem_of_get?_eq_some hget)
    cases hlink

/-- Names other than `.` and `..` are followed to the place that they spell. -/
theorem IsProject.advance_names (hdisk : disk.IsProject) {names : List String}
    (hnames : ∀ name ∈ names, name ≠ "." ∧ name ≠ "..") {followLast : Bool} {dir : Location}
    {progress : Progress} (h : disk.advance followLast dir names = .ok progress) :
    (∃ node, progress = .found (.node (dir ++ names) node))
      ∨ progress = .found (.absent (dir ++ names)) := by
  induction names generalizing dir with
  | nil =>
    unfold advance at h
    cases h
    exact Or.inl ⟨.directory, by rw [List.append_nil]⟩
  | cons name rest ih =>
    obtain ⟨hdot, hdots⟩ := hnames name List.mem_cons_self
    have hrest : ∀ other ∈ rest, other ≠ "." ∧ other ≠ ".." :=
      fun other hother => hnames other (List.mem_cons_of_mem _ hother)
    unfold advance at h
    rw [if_neg hdot, if_neg hdots] at h
    split at h
    · cases h
    · dsimp only at h
      split at h
      · split at h
        · next hnil => cases h; exact Or.inr (by rw [hnil])
        · cases h
      · rw [List.append_cons]
        exact ih hrest h
      · split at h
        · next hnil => cases h; exact Or.inl ⟨_, by rw [hnil]⟩
        · cases h
      · next target hlink => exact absurd hlink (hdisk.node?_ne_link _ target)

/-- The names that a path in normal form is followed by: its own. The root is followed by a `.`. -/
theorem exists_names_of_isNormal (hpath : path.IsNormal) :
    ∃ names : List String, path.components = .root :: names.map .name
      ∧ (∀ name ∈ names, name ≠ "." ∧ name ≠ "..")
      ∧ path.text.toList.head? = some '/'
      ∧ steps path.text = if names = [] then ["."] else names := by
  obtain ⟨cs, hcs, hcomponents⟩ := hpath.isRooted
  have hsteps : ∀ c ∈ cs, c.IsStep := fun c hc => (hcs c hc).2
  have hname : cs = (cs.map Component.text).map .name := by
    have hid : ∀ c ∈ cs, Component.name c.text = c := by
      intro c hc
      cases c with
      | name name => rfl
      | root => cases (hcs _ hc).1
      | current => cases (hcs _ hc).1
      | parent => cases (hcs _ hc).1
    rw [List.map_map]
    exact (List.map_id cs).symm.trans (List.map_congr_left fun c hc => (hid c hc).symm)
  have htext : path.text.toList = '/' :: Path.joinPieces (cs.map (·.text.toList)) := by
    rw [← hpath.isTidy.ofComponents_components, hcomponents]
    exact Path.toList_ofComponents .root hsteps
  refine ⟨cs.map Component.text, by rw [hcomponents, ← hname], ?_, by rw [htext]; rfl, ?_⟩
  · intro name hmem
    obtain ⟨c, hc, rfl⟩ := List.mem_map.mp hmem
    obtain ⟨hisName, hstep⟩ := hcs c hc
    have hread := hstep.2
    refine ⟨fun hdot => ?_, fun hdots => ?_⟩
    · rw [hdot] at hread
      cases hread
    · rw [hdots] at hread
      cases hread
      cases hisName
  · unfold steps
    rw [htext]
    cases cs with
    | nil => rfl
    | cons c rest =>
      obtain ⟨last, hslash, hlast⟩ := Path.getLast?_joinPieces_texts hsteps (by simp)
      have hpieces : Path.pieces ('/' :: Path.joinPieces ((c :: rest).map (·.text.toList)))
          = [] :: (c :: rest).map (·.text.toList) := by
        exact congrArg ([] :: ·)
          (Path.pieces_joinPieces (by simp) (Path.slash_not_mem_of_mem_texts hsteps))
      have hfilter : ((c :: rest).map (·.text.toList)).filter (· != [])
          = (c :: rest).map (·.text.toList) := by
        rw [List.filter_eq_self]
        intro piece hpiece
        obtain ⟨d, hd, rfl⟩ := List.mem_map.mp hpiece
        simpa using Path.IsStep.text_ne_nil (hsteps d hd)
      have hend : ('/' :: Path.joinPieces ((c :: rest).map (·.text.toList))).getLast?
          ≠ some '/' := by
        rw [List.getLast?_cons, hlast]
        simpa using hslash
      rw [if_neg hend, if_neg (by simp), hpieces, List.filter_cons_of_neg (by simp), hfilter,
        List.map_map]
      exact List.map_congr_left fun d _ => String.ofList_toList

/-- What is found without a link is what following the names comes to. -/
theorem IsProject.follow_eq (hdisk : disk.IsProject) {followLast : Bool} {links : Nat}
    {names : List String} (hnames : ∀ name ∈ names, name ≠ "." ∧ name ≠ "..") {dir : Location}
    {found : Found} (h : disk.follow followLast links dir names = .ok found) :
    disk.advance followLast dir names = .ok (.found found) := by
  unfold follow at h
  cases hadvance : disk.advance followLast dir names with
  | error error => rw [hadvance] at h; cases h
  | ok progress =>
    rw [hadvance] at h
    rcases hdisk.advance_names hnames hadvance with ⟨node, rfl⟩ | rfl
    · cases h
      rfl
    · cases h
      rfl

theorem locate_eq_ok_iff {node : Node} :
    disk.locate path = .ok (location, node) ↔ disk.find true path = .ok (.node location node) := by
  unfold locate
  cases disk.find true path with
  | error error => constructor <;> intro h <;> cases h
  | ok found =>
    cases found with
    | node place found => constructor <;> intro h <;> cases h <;> rfl
    | absent place => constructor <;> intro h <;> cases h

/-- A path that leads somewhere is one whose names can be followed, on any disk. -/
theorem find_eq_follow {followLast : Bool} {found : Found}
    (h : disk.find followLast path = .ok found) (other : Disk) :
    other.find followLast path
      = other.follow followLast maxLinks (startOf other.cwd path.text) (steps path.text) := by
  unfold find at h ⊢
  split at h
  · cases h
  · next hvalid =>
    split at h
    · cases h
    · next hempty =>
      split at h
      · cases h
      · next hlong => rw [if_neg hvalid, if_neg hempty, if_neg hlong]

/-- A path in normal form that leads somewhere is followed by its own names from the root on. -/
theorem IsProject.advance_of_locate (hdisk : disk.IsProject) (hpath : path.IsNormal) {node : Node}
    (h : disk.locate path = .ok (location, node)) :
    ∃ names : List String, path.components = .root :: names.map .name
      ∧ (∀ name ∈ names, name ≠ "." ∧ name ≠ "..")
      ∧ disk.advance true [] names = .ok (.found (.node location node)) := by
  obtain ⟨names, hcomponents, hnames, hslash, hsteps⟩ := exists_names_of_isNormal hpath
  have hfind := locate_eq_ok_iff.mp h
  have hfollow : disk.follow true maxLinks [] (steps path.text) = .ok (.node location node) := by
    rw [find_eq_follow hfind, show startOf disk.cwd path.text = [] from if_pos hslash] at hfind
    exact hfind
  refine ⟨names, hcomponents, hnames, ?_⟩
  rw [hsteps] at hfollow
  split at hfollow
  · next hnil =>
    -- a `.` does not lead away from the root
    have hroot : disk.advance true [] ["."] = .ok (.found (.node [] .directory)) := by
      simp [advance]
    unfold follow at hfollow
    rw [hroot] at hfollow
    cases hfollow
    rw [hnil]
    rfl
  · exact hdisk.follow_eq hnames hfollow

/-- A path in normal form leads to the place that its names spell. -/
theorem IsProject.components_of_locate (hdisk : disk.IsProject) (hpath : path.IsNormal)
    {node : Node} (h : disk.locate path = .ok (location, node)) :
    path.components = .root :: location.map .name := by
  obtain ⟨names, hcomponents, hnames, hadvance⟩ := hdisk.advance_of_locate hpath h
  rcases hdisk.advance_names hnames hadvance with ⟨found, heq⟩ | heq
  · cases heq
    exact hcomponents
  · cases heq

/-- What names lead to from a directory stands where they lead. -/
theorem node?_of_advance_names {names : List String}
    (hnames : ∀ name ∈ names, name ≠ "." ∧ name ≠ "..") {dir : Location}
    (hdir : disk.node? dir = some .directory) {followLast : Bool} {node : Node}
    (h : disk.advance followLast dir names = .ok (.found (.node location node))) :
    disk.node? location = some node := by
  induction names generalizing dir with
  | nil =>
    unfold advance at h
    cases h
    exact hdir
  | cons name rest ih =>
    obtain ⟨hdot, hdots⟩ := hnames name List.mem_cons_self
    unfold advance at h
    rw [if_neg hdot, if_neg hdots] at h
    split at h
    · cases h
    · dsimp only at h
      split at h
      · split at h <;> cases h
      · next hnode => exact ih (fun other hother => hnames other (by simp [hother])) hnode h
      · next hnode =>
        split at h
        · cases h
          exact hnode
        · cases h
      · next hnode =>
        split at h
        · cases h
          exact hnode
        · cases h

/-- A path in normal form leads to what stands there. -/
theorem IsProject.node?_of_locate (hdisk : disk.IsProject) (hpath : path.IsNormal) {node : Node}
    (h : disk.locate path = .ok (location, node)) : disk.node? location = some node := by
  obtain ⟨names, -, hnames, hadvance⟩ := hdisk.advance_of_locate hpath h
  exact node?_of_advance_names hnames (if_pos rfl) hadvance

/-- Without links it does not matter whether the last one is followed. -/
theorem IsProject.advance_followLast (hdisk : disk.IsProject) (dir : Location)
    (names : List String) : disk.advance false dir names = disk.advance true dir names := by
  induction names generalizing dir with
  | nil => rfl
  | cons name rest ih =>
    unfold advance
    simp only [ih]
    split
    · rfl
    · split
      · rfl
      · split
        · rfl
        · split
          · rfl
          · rfl
          · rfl
          · next target hlink => exact absurd hlink (hdisk.node?_ne_link _ target)

theorem IsProject.linkKind_of_locate (hdisk : disk.IsProject) {node : Node}
    (h : disk.locate path = .ok (location, node)) : disk.linkKind path = .ok node := by
  have hfollow (links : Nat) (dir : Location) (names : List String) :
      disk.follow false links dir names = disk.follow true links dir names := by
    induction links generalizing dir names with
    | zero => unfold follow; rw [hdisk.advance_followLast]
    | succ links ih => unfold follow; rw [hdisk.advance_followLast]; simp only [ih]
  have hfind : disk.find false path = .ok (.node location node) := by
    rw [← locate_eq_ok_iff.mp h]
    unfold find
    rw [hfollow]
  unfold linkKind
  rw [hfind]
  rfl

/-- Paths in normal form that lead to one place are the same. -/
theorem IsProject.eq_of_locate (hdisk : disk.IsProject) {p q : Path} (hp : p.IsNormal)
    (hq : q.IsNormal) {node found : Node} (hlocate : disk.locate p = .ok (location, node))
    (hother : disk.locate q = .ok (location, found)) : p = q := by
  refine hp.eq_of_same hq ?_
  show p.components = q.components
  rw [hdisk.components_of_locate hp hlocate, hdisk.components_of_locate hq hother]

end Disk

/-! ## Trees -/

/-- Whatever stands on a disk stands in a directory. -/
structure Disk.IsTree (disk : Disk) : Prop where
  node?_dropLast : ∀ entry ∈ disk.nodes, disk.node? entry.1.dropLast = some .directory

/-- A file stands where the path leads by its names. -/
def Disk.HasFile (disk : Disk) (path : Path) : Prop :=
  ∃ location text, path.components = .root :: location.map .name
    ∧ disk.node? location = some (.file text)

namespace Disk

variable {disk : Disk} {location : Location}

theorem mem_nodes_of_node? {node : Node} (h : disk.node? location = some node)
    (hne : location ≠ []) : (location, node) ∈ disk.nodes := by
  unfold node? at h
  rw [if_neg hne] at h
  exact Table.mem_of_get?_eq_some h

/-- Whatever has something below it is a directory. -/
theorem IsTree.node?_of_append (hdisk : disk.IsTree) {names : List String} (hne : names ≠ [])
    {node : Node} (h : disk.node? (location ++ names) = some node) :
    disk.node? location = some .directory := by
  induction names using List.reverseRecOn generalizing node with
  | nil => exact absurd rfl hne
  | append_singleton front last ih =>
    have hmem := mem_nodes_of_node? h (by simp)
    have habove := hdisk.node?_dropLast _ hmem
    rw [← List.append_assoc, List.dropLast_concat] at habove
    by_cases hfront : front = []
    · rw [hfront, List.append_nil] at habove
      exact habove
    · exact ih hfront habove

end Disk

/-! ## The shape of a disk -/

/-- The node whatever text it holds. -/
def Node.blank : Node → Node
  | .file _ => .file none
  | node => node

namespace Disk

variable {disk other : Disk} {path : Path} {location : Location}

/-- What following names comes to, whatever text a file holds. -/
def Progress.blank : Progress → Progress
  | .found (.node location node) => .found (.node location node.blank)
  | progress => progress

/-- The same things are at the same places, but files may hold other texts. -/
structure SameShape (disk other : Disk) : Prop where
  cwd_eq : other.cwd = disk.cwd
  keys_eq : other.nodes.map (·.1) = disk.nodes.map (·.1)
  blank_eq : ∀ location,
    (other.node? location).map Node.blank = (disk.node? location).map Node.blank

theorem SameShape.refl (disk : Disk) : disk.SameShape disk := ⟨rfl, rfl, fun _ => rfl⟩

namespace SameShape

theorem advance_eq (h : disk.SameShape other) (followLast : Bool) (dir : Location)
    (names : List String) :
    (other.advance followLast dir names).map Progress.blank
      = (disk.advance followLast dir names).map Progress.blank := by
  induction names generalizing dir with
  | nil => rfl
  | cons name rest ih =>
    unfold advance
    split
    · exact ih dir
    · split
      · exact ih dir.dropLast
      · split
        · rfl
        · have hblank := h.blank_eq (dir ++ [name])
          dsimp only
          cases hfound : disk.node? (dir ++ [name]) with
          | none =>
            rw [hfound, Option.map_none, Option.map_eq_none_iff] at hblank
            rw [hblank]
          | some node =>
            rw [hfound, Option.map_some, Option.map_eq_some_iff] at hblank
            obtain ⟨now, hnow, hsame⟩ := hblank
            rw [hnow]
            cases node with
            | directory =>
              cases now with
              | directory => exact ih (dir ++ [name])
              | file text => cases hsame
              | link target => cases hsame
            | file text =>
              cases now with
              | directory => cases hsame
              | file text => dsimp only; split <;> rfl
              | link target => cases hsame
            | link target =>
              cases now with
              | directory => cases hsame
              | file text => cases hsame
              | link target => cases hsame; rfl

theorem advance_file (h : disk.SameShape other) {followLast : Bool} {dir : Location}
    {names : List String} {text : Option String}
    (hadvance : disk.advance followLast dir names = .ok (.found (.node location (.file text)))) :
    ∃ now, other.advance followLast dir names = .ok (.found (.node location (.file now))) := by
  have heq := h.advance_eq followLast dir names
  rw [hadvance] at heq
  cases hother : other.advance followLast dir names with
  | error error => rw [hother] at heq; cases heq
  | ok progress =>
    rw [hother] at heq
    rcases progress with ⟨⟨place, node⟩ | place⟩ | ⟨place, target, rest⟩
    · cases node with
      | file now => cases heq; exact ⟨now, rfl⟩
      | directory => cases heq
      | link target => cases heq
    · cases heq
    · cases heq

theorem advance_link (h : disk.SameShape other) {followLast : Bool} {dir place : Location}
    {names rest : List String} {target : String}
    (hadvance : disk.advance followLast dir names = .ok (.link place target rest)) :
    other.advance followLast dir names = .ok (.link place target rest) := by
  have heq := h.advance_eq followLast dir names
  rw [hadvance] at heq
  cases hother : other.advance followLast dir names with
  | error error => rw [hother] at heq; cases heq
  | ok progress =>
    rw [hother] at heq
    rcases progress with ⟨⟨place, node⟩ | place⟩ | ⟨place, target, rest⟩
    · cases heq
    · cases heq
    · cases heq
      rfl

end SameShape

/-- A file that names lead to is there. -/
theorem node?_of_advance {followLast : Bool} {dir : Location} {names : List String}
    {text : Option String}
    (h : disk.advance followLast dir names = .ok (.found (.node location (.file text)))) :
    disk.node? location = some (.file text) := by
  induction names generalizing dir with
  | nil => cases h
  | cons name rest ih =>
    unfold advance at h
    split at h
    · exact ih h
    · split at h
      · exact ih h
      · split at h
        · cases h
        · dsimp only at h
          split at h
          · split at h <;> cases h
          · exact ih h
          · next hnode =>
            split at h
            · cases h
              exact hnode
            · cases h
          · split at h <;> cases h

/-- Where names lead to a file, it is there, and they lead to a file on every disk of this shape. -/
theorem follow_file (h : disk.SameShape other) {followLast : Bool} {links : Nat} {dir : Location}
    {names : List String} {text : Option String}
    (hfollow : disk.follow followLast links dir names = .ok (.node location (.file text))) :
    disk.node? location = some (.file text)
      ∧ ∃ now, other.follow followLast links dir names = .ok (.node location (.file now)) := by
  induction links generalizing dir names with
  | zero =>
    unfold follow at hfollow ⊢
    cases hadvance : disk.advance followLast dir names with
    | error error => rw [hadvance] at hfollow; cases hfollow
    | ok progress =>
      rw [hadvance] at hfollow
      cases progress with
      | found found =>
        cases hfollow
        obtain ⟨now, hnow⟩ := h.advance_file hadvance
        exact ⟨node?_of_advance hadvance, now, by rw [hnow]; rfl⟩
      | link place target rest => cases hfollow
  | succ links ih =>
    unfold follow at hfollow ⊢
    cases hadvance : disk.advance followLast dir names with
    | error error => rw [hadvance] at hfollow; cases hfollow
    | ok progress =>
      rw [hadvance] at hfollow
      cases progress with
      | found found =>
        cases hfollow
        obtain ⟨now, hnow⟩ := h.advance_file hadvance
        exact ⟨node?_of_advance hadvance, now, by rw [hnow]; rfl⟩
      | link place target rest =>
        rw [h.advance_link hadvance]
        exact ih hfollow

theorem SameShape.find_file (h : disk.SameShape other) {text : Option String}
    (hfind : disk.find true path = .ok (.node location (.file text))) :
    disk.node? location = some (.file text)
      ∧ ∃ now, other.find true path = .ok (.node location (.file now)) := by
  rw [find_eq_follow hfind other, h.cwd_eq]
  rw [find_eq_follow hfind disk] at hfind
  exact follow_file h hfind

/-! ## Writing -/

/-- The disk with another text in the file at a location. -/
def put (disk : Disk) (location : Location) (code : String) : Disk :=
  { disk with nodes := disk.nodes.insert location (.file (some code)) }

theorem node?_put {text : Option String} (h : disk.node? location = some (.file text))
    (code : String) (place : Location) :
    (disk.put location code).node? place
      = if location = place then some (.file (some code)) else disk.node? place := by
  have hne : location ≠ [] := by
    intro hnil
    rw [hnil] at h
    cases h
  unfold node? put
  by_cases hroot : place = []
  · rw [if_pos hroot, if_pos hroot, if_neg (hroot ▸ hne)]
  · rw [if_neg hroot, if_neg hroot]
    exact Table.get?_insert ..

/-- A file that could be read can be written, and that changes the shape no more than the writes
before it. -/
theorem SameShape.writeText (h : disk.SameShape other) {text : Option String}
    (hlocate : disk.locate path = .ok (location, .file text)) (code : String) :
    ∃ now, other.node? location = some (.file now)
      ∧ other.writeText path code = .ok (other.put location code)
      ∧ disk.SameShape (other.put location code) := by
  obtain ⟨hnode, now, hfind⟩ := h.find_file (locate_eq_ok_iff.mp hlocate)
  have hnow : other.node? location = some (.file now) :=
    ((SameShape.refl other).find_file hfind).1
  refine ⟨now, hnow, ?_, h.cwd_eq, ?_, ?_⟩
  · unfold Disk.writeText
    rw [hfind]
    rfl
  · refine Eq.trans ?_ h.keys_eq
    have hget : other.nodes.get? location = some (.file now) := by
      unfold node? at hnow
      split at hnow
      · cases hnow
      · exact hnow
    exact Table.keys_insert hget _
  · intro place
    rw [node?_put hnow]
    split
    · next heq =>
      subst heq
      rw [hnode]
      rfl
    · exact h.blank_eq place

/-- A text is read from a file. -/
theorem exists_of_read {text : String} (h : disk.view.read path = .ok text) :
    ∃ location, disk.locate path = .ok (location, .file (some text)) := by
  change describe "read" path (disk.readText path) = .ok text at h
  unfold describe readText at h
  cases hlocate : disk.locate path with
  | error error => rw [hlocate] at h; cases h
  | ok found =>
    obtain ⟨location, node⟩ := found
    rw [hlocate] at h
    cases node with
    | directory => cases h
    | link target => cases h
    | file held =>
      cases held with
      | none => cases h
      | some held => cases h; exact ⟨location, rfl⟩

end Disk

end DirectImports
