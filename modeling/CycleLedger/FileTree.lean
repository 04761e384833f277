import CycleLedger.Storage
import CycleLedger.Text.Pieces

/-! # File trees

A tree of folders and files, with a folder from which relative paths start. A place is the list of
names that leads to it from the root. A path is walked name by name, each step from a folder: a dot
stays, two dots go up, and any other name goes down. Paths and names have a longest length.
-/

namespace CycleLedger

/-- What is at a place. A device keeps nothing of what is written to it, and refuses it if full. -/
inductive FileEntry where
  | folder
  | file (content : String)
  | device (full : Bool)
deriving DecidableEq

structure FileTree where
  /-- everything but the root, with its place -/
  entries : List (List String × FileEntry)
  home : List String

namespace FileTree

/--
A tree in which the folder from which paths start is empty. That folder stands among the temporary
files, and its name is one that no path can spell, so no absolute path leads to it. Beside it the
tree holds what every system has.
-/
def empty : FileTree where
  entries := [
    (["tmp"], .folder), (["tmp", ""], .folder),
    (["dev"], .folder), (["dev", "null"], .device false), (["dev", "full"], .device true)]
  home := ["tmp", ""]

inductive Refusal where
  | missing
  | notFolder
  | isFolder
  | present
  | tooLong
  | full
  | badPath
deriving DecidableEq

def Refusal.text : Refusal → String
  | missing => "no such file or folder"
  | notFolder => "not a folder"
  | isFolder => "is a folder"
  | present => "already exists"
  | tooLong => "name too long"
  | full => "no space left"
  | badPath => "a path cannot hold the null character"

def longestName : Nat := 255

def longestPath : Nat := 4095

/-- A path cut into the names between its slashes. -/
structure Path where
  absolute : Bool
  names : List String
  /-- a slash ends the path, so it can only be a folder -/
  slash : Bool

namespace Path

def ofString (path : String) : Except Refusal Path :=
  if path.toList.contains '\x00' then .error .badPath
  else if longestPath < path.utf8ByteSize then .error .tooLong
  else .ok {
    absolute := path.toList.head? = some '/'
    names := ((Text.pieces '/' path.toList).filter (!·.isEmpty)).map String.ofList
    slash := path.toList.getLast? = some '/' }

/-- The names without dots that change nothing; a dot that begins a relative path is kept. -/
def plainNames (p : Path) : List String :=
  match p.names with
  | "." :: rest => if p.absolute then rest.filter (· ≠ ".") else "." :: rest.filter (· ≠ ".")
  | names => names.filter (· ≠ ".")

end Path

def entry? (t : FileTree) (place : List String) : Option FileEntry :=
  if place.isEmpty then some .folder else t.entries.lookup place

/-- The place that a name leads to from a folder, if there is anything. -/
def enter (t : FileTree) (place : List String) (name : String) : Except Refusal (List String) :=
  match t.entry? place with
  | some .folder =>
    if name = "." then .ok place
    else if name = ".." then .ok place.dropLast
    else if longestName < name.utf8ByteSize then .error .tooLong
    else if (t.entry? (place ++ [name])).isSome then .ok (place ++ [name])
    else .error .missing
  | some (.file _) | some (.device _) => .error .notFolder
  | none => .error .missing

def walk (t : FileTree) (absolute : Bool) (names : List String) : Except Refusal (List String) :=
  names.foldlM t.enter (if absolute then [] else t.home)

def isFolder (t : FileTree) (absolute : Bool) (names : List String) : Bool :=
  match t.walk absolute names with
  | .ok place => t.entry? place == some .folder
  | .error _ => false

def put (place : List String) (e : FileEntry) (t : FileTree) : FileTree :=
  { t with entries := (place, e) :: t.entries.filter (·.1 ≠ place) }

/-- The place that the last name would have in its folder, and what is there already. -/
def target (t : FileTree) (absolute : Bool) (names : List String) :
    Except Refusal (List String × Option FileEntry) :=
  match names.getLast? with
  | none => .error (if absolute then .present else .missing)
  | some last => do
    let place ← t.walk absolute names.dropLast
    match t.enter place last with
    | .ok place => return (place, t.entry? place)
    | .error .missing => return (place ++ [last], none)
    | .error refusal => throw refusal

/-- Makes one folder in a folder. -/
def makeFolder (absolute : Bool) (names : List String) (t : FileTree) : Except Refusal FileTree :=
  match t.target absolute names with
  | .ok (place, none) => .ok (t.put place .folder)
  | .ok (_, some _) => .error .present
  | .error refusal => .error refusal

/-- Makes a folder unless it is there already. -/
def ensureFolder (absolute : Bool) (names : List String) (t : FileTree) :
    Except Refusal Unit × FileTree :=
  match t.makeFolder absolute names with
  | .ok t => (.ok (), t)
  | .error refusal => (if t.isFolder absolute names then .ok () else .error refusal, t)

/--
Makes the folder of a path given by its names, the last one first. If the folder around it is
missing, that one is made before.
-/
def makeReversed (absolute : Bool) : (reversed : List String) → FileTree →
    Except Refusal Unit × FileTree
  | [], t => (.ok (), t)
  | name :: around, t =>
    let names := (name :: around).reverse
    match t.makeFolder absolute names with
    | .error .missing =>
      match makeReversed absolute around t with
      | (.ok (), t) => t.ensureFolder absolute names
      | failed => failed
    | _ => t.ensureFolder absolute names

/--
Makes the folder of a path and all folders around it that are missing; the empty path is there.
-/
def makeFolders (path : String) (t : FileTree) : Except Refusal Unit × FileTree :=
  if path.isEmpty then (.ok (), t)
  else match Path.ofString path with
    | .error refusal => (.error refusal, t)
    | .ok p =>
      match t.makeFolder p.absolute p.names with
      | .error .missing =>
        match makeReversed p.absolute p.plainNames.reverse.tail t with
        | (.ok (), t) => t.ensureFolder p.absolute p.names
        | failed => failed
      | _ => t.ensureFolder p.absolute p.names

/--
Gives a file a content, whatever it held before, or a device something to take. The folder around it
must be there.
-/
def write (path content : String) (t : FileTree) : Except Refusal FileTree := do
  let p ← Path.ofString path
  let (place, found?) ← t.target p.absolute p.names
  if p.slash then throw .isFolder
  match found? with
  | some .folder => throw .isFolder
  | some (.device true) => throw .full
  | some (.device false) => return t
  | some (.file _) | none => return t.put place (.file content)

/-- The tree as a place for reports. -/
def storage : Storage FileTree where
  makeFolders path t := let (result, t) := t.makeFolders path; (result.mapError Refusal.text, t)
  write path content t := match t.write path content with
    | .ok t => (.ok (), t)
    | .error refusal => (.error refusal.text, t)

/-- Places in the order of their names, a folder before what it holds. -/
def placeLE : List String → List String → Bool
  | [], _ => true
  | _ :: _, [] => false
  | a :: as, b :: bs => if a = b then placeLE as bs else a < b

/-- What the starting folder holds, with places relative to it. -/
def contents (t : FileTree) : List (List String × FileEntry) :=
  let inside := t.entries.filterMap fun (place, e) =>
    if t.home.isPrefixOf place && t.home.length < place.length then
      some (place.drop t.home.length, e)
    else none
  inside.mergeSort fun a b => placeLE a.1 b.1

/--
Each file with its content and each folder, marked by a slash, before what it holds. A device is
listed without content.
-/
def listing (t : FileTree) : List (String × Option String) :=
  t.contents.map fun (place, e) =>
    let path := String.intercalate "/" place
    match e with
    | .folder => (path ++ "/", none)
    | .file content => (path, some content)
    | .device _ => (path, none)

end FileTree

end CycleLedger
