import CloudTenancy.Text.Split
import CloudTenancy.Text.Utf8

/-!
CloudTenancy.FileSystem — the directory with the token files.

* `Node` — a file or an empty directory.
* `FileSystem` — the nodes of a directory by name.
* `FileError` — why a file cannot be read or written, `FileError.message` the wording.
* `FileSystem.read`, `FileSystem.readText`, `FileSystem.write` — access by path.

The directory is the one that the program runs in, and it is all that there is: directories below it
are empty, and a path that starts with a slash leads to nothing. So token files are named here by
paths relative to the directory that holds them. A path is handed on as it is, and what it leads to
is decided by the file system alone; no other restriction is made on it.

Main statement: a name that has been set has its new node, and other names keep theirs.
-/

namespace CloudTenancy

/-- What a name of the directory stands for. -/
inductive Node
  | file (contents : Bytes)
  | directory
  deriving DecidableEq, Repr

/-- A directory: names with their nodes. -/
abbrev FileSystem := List (String × Node)

inductive FileError
  | notFound
  | notDirectory
  | isDirectory
  | nameTooLong
  | nulByte
  | invalidUtf8
  deriving DecidableEq, Repr

def FileError.message : FileError → String
  | notFound => "No such file or directory (os error 2)"
  | notDirectory => "Not a directory (os error 20)"
  | isDirectory => "Is a directory (os error 21)"
  | nameTooLong => "File name too long (os error 36)"
  | nulByte => "file name contained an unexpected NUL byte"
  | invalidUtf8 => "stream did not contain valid UTF-8"

namespace FileSystem

def node? (files : FileSystem) (name : String) : Option Node :=
  (files.find? fun entry => entry.1 = name).map (·.2)

/-- The directory with a node under a name, new or in place of the old one. -/
def set (files : FileSystem) (name : String) (node : Node) : FileSystem :=
  match files with
  | [] => [(name, node)]
  | (n, old) :: rest => if n = name then (n, node) :: rest else (n, old) :: set rest name node

/-- Where a path leads: to the directory itself or to a name in it. -/
inductive Target
  | root
  | entry (name : String)
  deriving DecidableEq, Repr

/-- One more step of a path. Names in directories below lead nowhere, as those are empty. -/
def step (files : FileSystem) (target : Target) (component : String) : Except FileError Target :=
  if 255 < (Utf8.encode component).length then .error .nameTooLong
  else match target with
    | .root => if component = "." ∨ component = "" then .ok .root else .ok (.entry component)
    | .entry name =>
      match files.node? name with
      | none => .error .notFound
      | some (.file _) => .error .notDirectory
      | some .directory =>
        if component = "." ∨ component = "" then .ok (.entry name)
        else if component = ".." then .ok .root
        else .error .notFound

/-- Where a path leads. A path that starts with a slash leads to nothing: there is nothing outside
of the directory. -/
def resolve (files : FileSystem) (path : String) : Except FileError Target :=
  if path.toList.contains '\x00' then .error .nulByte
  else if path.isEmpty ∨ path.toList.head? = some '/' then .error .notFound
  else (Text.split '/' path).foldlM (step files) .root

def read (files : FileSystem) (path : String) : Except FileError Bytes := do
  match ← resolve files path with
  | .root => throw .isDirectory
  | .entry name =>
    match files.node? name with
    | none => throw .notFound
    | some .directory => throw .isDirectory
    | some (.file contents) => return contents

def readText (files : FileSystem) (path : String) : Except FileError String := do
  match Utf8.decode? (← read files path) with
  | some text => return text
  | none => throw .invalidUtf8

def write (files : FileSystem) (path : String) (contents : Bytes) :
    Except FileError FileSystem := do
  match ← resolve files path with
  | .root => throw .isDirectory
  | .entry name =>
    match files.node? name with
    | some .directory => throw .isDirectory
    | _ => return files.set name (.file contents)

/-! ## Reading what was written -/

theorem node?_set (files : FileSystem) (name other : String) (node : Node) :
    (files.set name node).node? other = if other = name then some node else files.node? other := by
  induction files with
  | nil =>
    by_cases h : other = name
    · subst h; simp [set, node?]
    · simp [set, node?, h, Ne.symm h]
  | cons entry rest ih =>
    obtain ⟨n, old⟩ := entry
    unfold set
    by_cases hn : n = name
    · subst hn
      by_cases h : other = n
      · subst h; simp [node?]
      · simp [node?, h, Ne.symm h]
    · simp only [hn, if_false]
      by_cases h : n = other
      · subst h
        simp [node?, hn]
      · have hcons : ∀ (v : Node) (tail : FileSystem),
            node? ((n, v) :: tail) other = tail.node? other := by
          intro v tail; simp [node?, h]
        rw [hcons, hcons, ih]

end FileSystem

end CloudTenancy
