import SoundCard.Files
import SoundCard.Text.Split

/-!
# A file system as a value

The files below one working directory. Of what lies outside of it, only directories are known, and
they are empty. A path is followed name by name, so a missing directory on the way and a file in the
place of a directory are told apart. Names and paths have the usual limits on their length.
-/

set_option autoImplicit false

namespace SoundCard

inductive Entry where
  | directory
  | file (content : List UInt8)
  deriving DecidableEq

inductive Place where
  | inside (way : List String)
  | outside
  deriving DecidableEq, Repr

def Place.parent : Place → Place
  | inside [] => outside
  | inside way => inside way.dropLast
  | outside => outside

structure Store where
  entries : List (List String × Entry)

namespace Store

def empty : Store := ⟨[]⟩

/-- What stands at a place. The working directory itself is a directory. -/
def find? (store : Store) : Place → Option Entry
  | .outside => some .directory
  | .inside [] => some .directory
  | .inside way => (store.entries.find? fun entry => entry.1 = way).map (·.2)

def nameLimit : Nat := 255

def pathLimit : Nat := 4095

/-- Follows names from a place. Only a directory can be left: `.` stays in it, `..` goes up, and any
other name goes down. -/
def walk (store : Store) : Place → List String → Except FileError Place
  | place, [] => .ok place
  | place, name :: rest =>
    match store.find? place with
    | none => .error .notFound
    | some (.file _) => .error .notDirectory
    | some .directory =>
      if name = "." then store.walk place rest
      else if name = ".." then store.walk place.parent rest
      else if nameLimit < name.utf8ByteSize then .error .nameTooLong
      else
        match place with
        | .inside way => store.walk (.inside (way ++ [name])) rest
        | .outside => .error .notFound

/-- The names in a path. Slashes that follow each other count as one. -/
def names (path : String) : List String :=
  (Split.parts '/' path).filter (· ≠ "")

/-- Where a path starts: at the working directory, unless a slash comes first. -/
def start (path : String) : Place :=
  if path.toList.head? = some '/' then .outside else .inside []

def endsInSlash (path : String) : Bool :=
  path.toList.getLast? == some '/'

/-- Follows names from where a path starts. The path as a whole is judged before any of the names. -/
def follow (store : Store) (path : String) (names : List String) : Except FileError Place :=
  if path.toList.contains '\x00' then .error .zeroInPath
  else if path = "" then .error .notFound
  else if pathLimit < path.utf8ByteSize then .error .nameTooLong
  else store.walk (start path) names

/-- Where a path leads, if everything on the way is a directory. What stands there is left open. -/
def resolve (store : Store) (path : String) : Except FileError Place :=
  store.follow path (names path)

def read (store : Store) (path : String) : Except FileError (List UInt8) := do
  match store.find? (← store.resolve path) with
  | none => .error .notFound
  | some .directory => .error .isDirectory
  | some (.file content) => if endsInSlash path then .error .notDirectory else .ok content

def insert (store : Store) (way : List String) (entry : Entry) : Store :=
  ⟨(way, entry) :: store.entries.filter fun other => other.1 ≠ way⟩

/-- The store with the content in the file at a path. A path that asks for a directory is refused
before its last name is looked up, as soon as it is known that a directory would hold that name. -/
def write (store : Store) (path : String) (content : List UInt8) : Except FileError Store := do
  if endsInSlash path then
    let _ ← store.follow path ((names path).dropLast ++ ["."])
    .error .isDirectory
  else
    match ← store.resolve path with
    | .outside => .error .isDirectory
    | .inside way =>
      if store.find? (.inside way) = some .directory then .error .isDirectory
      else .ok (store.insert way (.file content))

instance : FileSystem (StateM Store) where
  read path := fun store => (store.read path, store)
  write path content := fun store =>
    match store.write path content with
    | .ok store => (.ok (), store)
    | .error refusal => (.error refusal, store)

end Store

end SoundCard
