import SchemaMigration.Files.Path

/-
  File trees: files with their texts and directories, by location.

  A path is followed part by part, and every part but the first must start in a
  directory, also the empty part behind a slash at the end. The empty text is a
  path that leads nowhere. A name has at most 255 bytes and a path at most 4095. A
  change succeeds or fails for one reason; only making a directory with those
  above it may fail half way.

  Main statements: `location_of_walk`, a path that can be followed leads to its
  location; `at?_putAt`, what is put at a location is there.
-/
namespace SchemaMigration.Files

/-- A file with its text, or a directory. -/
inductive Node where
  | file (text : String)
  | directory
  deriving DecidableEq, Repr

/-- Why an operation on files failed. -/
inductive Fault where
  | missing
  | occupied
  | notDirectory
  | isDirectory
  | nameTooLong
  | zeroCharacter
  deriving DecidableEq, Repr

/-- The wording of a fault. -/
def Fault.message : Fault → String
  | missing => "No such file or directory (os error 2)"
  | occupied => "File exists (os error 17)"
  | notDirectory => "Not a directory (os error 20)"
  | isDirectory => "Is a directory (os error 21)"
  | nameTooLong => "File name too long (os error 36)"
  | zeroCharacter => "file name contained an unexpected NUL byte"

/-- Files and directories by location; each location occurs once. The root is a
directory that is always there. -/
structure Tree where
  nodes : List (Location × Node)
  deriving DecidableEq, Repr

/-- The place where a path would have something made. -/
inductive Spot where
  /-- A name in a directory, and whether the path goes on with a slash. -/
  | entry (directory : Location) (name : String) (slash : Bool)
  /-- A directory itself, as the path ends in `.` or `..` or is the root. -/
  | standing

namespace Tree

/-- The tree of the root alone. -/
def empty : Tree := ⟨[]⟩

/-! ## Locations -/

/-- What is at a location. -/
def at? (t : Tree) (l : Location) : Option Node :=
  if l = [] then some .directory else (t.nodes.find? (·.1 == l)).map Prod.snd

/-- Puts something at a location, in place of what was there. -/
def putAt (t : Tree) (l : Location) (node : Node) : Tree :=
  ⟨t.nodes.filter (·.1 != l) ++ [(l, node)]⟩

/-- Puts something where a path leads to, whatever is on the way. -/
def put (t : Tree) (path : String) (node : Node) : Tree :=
  t.putAt (Path.location [] (Path.ofText path)) node

/-- Takes what a path leads to away, with everything below it. -/
def remove (t : Tree) (path : String) : Tree :=
  ⟨t.nodes.filter fun n => !(Path.location [] (Path.ofText path)).isPrefixOf n.1⟩

/-! ## Following paths -/

/-- Fails unless a location is a directory. -/
def enter (t : Tree) (l : Location) : Except Fault Unit :=
  match t.at? l with
  | some .directory => .ok ()
  | some (.file _) => .error .notDirectory
  | none => .error .missing

/-- Fails for a name of too many bytes. -/
def checkName (name : String) : Except Fault Unit :=
  if 255 < name.utf8ByteSize then .error .nameTooLong else .ok ()

/-- Fails for a path that no operation takes. -/
def checkPath (p : Path) : Except Fault Unit :=
  if p = [""] then .error .missing
  else if p.any (·.toList.contains '\x00') then .error .zeroCharacter
  else if 4095 < (Path.text p).utf8ByteSize then .error .nameTooLong
  else .ok ()

/-- The location that a path leads to; what is there is not looked at. -/
def walk (t : Tree) (here : Location) : Path → Except Fault Location
  | [] => .ok here
  | part :: rest => do
    t.enter here
    checkName part
    t.walk (Path.follow here part) rest

/-- What is at a path. -/
def find? (t : Tree) (p : Path) : Option Node :=
  match checkPath p, t.walk [] p with
  | .ok (), .ok l => t.at? l
  | _, _ => none

/-- What is at a path. -/
def get? (t : Tree) (path : String) : Option Node := t.find? (Path.ofText path)

def isDirectory (t : Tree) (path : String) : Bool := t.get? path == some .directory

/-- The names in the directory at a path and what they name. -/
def children (t : Tree) (path : String) : List (String × Node) :=
  let l := Path.location [] (Path.ofText path)
  t.nodes.filterMap fun n => if n.1.dropLast = l then n.1.getLast?.map (·, n.2) else none

/-! ## Changes -/

/-- The place where a path would have something made. -/
def spotOf (t : Tree) (p : Path) : Except Fault Spot := do
  checkPath p
  let body := (p.reverse.dropWhile (· == "")).reverse
  match body.getLast? with
  | none => return .standing
  | some last =>
    let directory ← t.walk [] body.dropLast
    t.enter directory
    if last = "." ∨ last = ".." then return .standing
    else return .entry directory last (body.length < p.length)

/-- Makes one directory where nothing is yet. -/
def makeDirectory (t : Tree) (p : Path) : Except Fault Tree := do
  match ← t.spotOf p with
  | .standing => .error .occupied
  | .entry directory name _ =>
    checkName name
    let l := directory ++ [name]
    if (t.at? l).isSome then .error .occupied else .ok (t.putAt l .directory)

/-- A fault that does not count where a path leads to a directory. -/
def unlessDirectory (t : Tree) (p : Path) (f : Fault) : Except Fault Unit :=
  if t.find? p = some .directory then .ok () else .error f

/-- Makes a directory, and those above it if one is missing. What is made before
a fault stays. -/
def makeWithParents (p : Path) (t : Tree) : Except Fault Unit × Tree :=
  match t.makeDirectory p with
  | .ok t => (.ok (), t)
  | .error .missing =>
    if _h : Path.settled p = [] then (.error .missing, t)
    else match makeWithParents p.parent t with
      | (.error f, t) => (.error f, t)
      | (.ok (), t) =>
        match t.makeDirectory p with
        | .ok t => (.ok (), t)
        | .error f => (t.unlessDirectory p f, t)
  | .error f => (t.unlessDirectory p f, t)
termination_by p.length
decreasing_by exact Path.parent_length_lt _h

/-- Makes the directory at a path, and those above it if one is missing. For the
empty path there is nothing to make. -/
def makeDirectories (t : Tree) (path : String) : Except Fault Unit × Tree :=
  if path = "" then (.ok (), t) else makeWithParents (Path.ofText path) t

/-- Puts a file at a path; `taken` is the fault for what is there already. -/
def putFile (t : Tree) (path text : String) (taken : Node → Option Fault) : Except Fault Tree := do
  match ← t.spotOf (Path.ofText path) with
  | .standing => .error ((taken .directory).getD .isDirectory)
  | .entry directory name slash =>
    if slash then .error .isDirectory
    else
      checkName name
      let l := directory ++ [name]
      match (t.at? l).bind taken with
      | some f => .error f
      | none => .ok (t.putAt l (.file text))

/-- Writes a file where nothing is yet. -/
def create (t : Tree) (path text : String) : Except Fault Tree :=
  t.putFile path text fun _ => some .occupied

/-- Writes a file, over one that is there. -/
def write (t : Tree) (path text : String) : Except Fault Tree :=
  t.putFile path text fun
    | .directory => some .isDirectory
    | .file _ => none

/-! ## Laws -/

theorem location_of_walk {t : Tree} {here l : Location} {p : Path} (h : t.walk here p = .ok l) :
    l = Path.location here p := by
  induction p generalizing here with
  | nil =>
    rw [walk] at h
    exact (Except.ok.inj h).symm
  | cons part rest ih =>
    rw [walk] at h
    cases he : t.enter here with
    | error f => simp [he, bind, Except.bind] at h
    | ok =>
      cases hn : checkName part with
      | error f => simp [he, hn, bind, Except.bind] at h
      | ok =>
        simp only [he, hn, bind, Except.bind] at h
        exact ih h

theorem at?_putAt {t : Tree} {l : Location} (node : Node) (h : l ≠ []) :
    (t.putAt l node).at? l = some node := by
  have hnot : (t.nodes.filter (·.1 != l)).find? (·.1 == l) = none := by
    rw [List.find?_eq_none]
    intro n hn he
    have := (List.mem_filter.1 hn).2
    simp_all
  simp [at?, h, putAt, List.find?_append, hnot]

end Tree

end SchemaMigration.Files
