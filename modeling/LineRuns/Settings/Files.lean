import LineRuns.Text.Basic
import LineRuns.Text.Octets

/-!
# Paths and files

Paths in their normal form, and what is found at them in a tree of files and directories.
-/

/-! ## Paths

A path is a root and components. Its normal form has no empty component and no single point;
double points stay, for they may lead through a link. Two slashes in front are a root of their
own, any other number of them is one slash.
-/

namespace LineRuns.Settings

/-- A path in normal form: the root, which may be empty, and the components. -/
structure Path where
  root : Text
  components : List Text
  deriving DecidableEq, Repr

namespace Path

/-- The parts of a text between slashes. -/
def split : Text → List Text
  | [] => [[]]
  | c :: rest =>
    if c.val = 0x2F then [] :: split rest
    else
      match split rest with
      | [] => [[c]]
      | first :: more => (c :: first) :: more

/-- The path that a text writes. -/
def ofText (t : Text) : Path :=
  let slashes := (t.takeWhile (·.val == 0x2F)).length
  ⟨if slashes = 0 then [] else if slashes = 2 then "//" else "/",
    (split t).filter fun part => !part.isEmpty && part != [0x2E]⟩

/-- The text of a path; the empty path is a single point. -/
def text (path : Path) : Text :=
  match path.root ++ Text.join "/" path.components with
  | [] => "."
  | t => t

/-- A path with a tilde as its first component starts in the home directory. -/
def expanded (path home : Path) : Path :=
  match path.root, path.components with
  | [], first :: rest =>
    if first = [0x7E] then ⟨home.root, home.components ++ rest⟩ else path
  | _, _ => path

/-- The path of the directory that a path is in. -/
def parent (path : Path) : Path :=
  { path with components := path.components.dropLast }

/-- The path of something in the directory at a path. -/
def child (path : Path) (name : Text) : Path :=
  { path with components := path.components ++ [name] }

/-- The path that double points lead to from the directory at a path. A root leads to itself. -/
def above (path : Path) : Path :=
  if path.root.isEmpty && path.components.all (· == [0x2E, 0x2E]) then path.child [0x2E, 0x2E]
  else path.parent

end Path

end LineRuns.Settings

/-! ## Files and directories

What is at a name is found by a walk: each component leads on from a directory that is there, two
points lead out of it, and one point or none stays in it. So a file with a slash behind its name
is not there, and neither is anything beside a directory that is missing. The walk starts in the
directory where the program runs; above it nothing is known but that there are directories.
-/

namespace LineRuns

namespace Settings

/-- Why nothing is found under a name: it is no name, or too long, or it leads through what is no
directory, or to nothing. -/
inductive FindError
  | notName
  | tooLong
  | notDirectory
  | missing
  deriving DecidableEq, Repr

/-- The wording of a find error, or of the finding of a directory where a file is wanted. -/
def findMessage (e : Option FindError) (path : Path) : Text :=
  let reason := match e with
    | some .notName => "[Errno 22] Invalid argument"
    | some .tooLong => "[Errno 36] File name too long"
    | some .notDirectory => "[Errno 20] Not a directory"
    | some .missing => "[Errno 2] No such file or directory"
    | none => "[Errno 21] Is a directory"
  Text.ofString reason ++ ": " ++ Text.quoted path.text

/-! ### Names -/

/-- Whether a code point can be in a name. Trail surrogates up to U+DCFF stand for single octets
that are no text; other surrogates and the null cannot. -/
def isNamePart (c : CodePoint) : Bool :=
  c.val != 0 && (!c.isSurrogate || (0xDC80 ≤ c.val && c.val ≤ 0xDCFF))

/-- The number of octets of a name. -/
def octetCount (t : Text) : Nat :=
  let octets (c : CodePoint) : Nat :=
    if c.val < 0x80 || c.isSurrogate then 1
    else if c.val < 0x800 then 2
    else if c.val < 0x10000 then 3
    else 4
  t.foldr (fun c n => octets c + n) 0

end Settings

/-! ### Trees -/

/-- Files by their paths, as the octets that a reader sees, and directories that are there
although no file in them is known. -/
structure Tree where
  files : List (Settings.Path × List UInt8)
  directories : List Settings.Path

namespace Tree

open Settings (Path FindError)

/-- Whether there is a directory at a place: where the program runs or above, a root, a directory
that is known, or one that a file is in. -/
def hasDirectory (tree : Tree) (place : Path) : Bool :=
  place.components.all (· == [0x2E, 0x2E]) || tree.directories.contains place ||
    tree.files.any fun (path, _) =>
      path.root == place.root && path != place && place.components.isPrefixOf path.components

/-- The octets of the file at a place. -/
def read? (tree : Tree) (place : Path) : Option (List UInt8) :=
  tree.files.lookup place

/-- One step of the walk. -/
def step (tree : Tree) (place : Path) (name : Text) : Except FindError Path :=
  if !tree.hasDirectory place then .error .notDirectory
  else if name.isEmpty || name = "." then .ok place
  else if name = ".." then .ok place.above
  else if 255 < Settings.octetCount name then .error .tooLong
  else
    let next := place.child name
    if tree.hasDirectory next || (tree.read? next).isSome then .ok next else .error .missing

/-- The place of what is under a name. -/
def find (tree : Tree) (name : Text) : Except FindError Path :=
  if !name.all Settings.isNamePart then .error .notName
  else if name.isEmpty then .error .missing
  else if 4096 ≤ Settings.octetCount name then .error .tooLong
  else
    let start : Path := ⟨if (name.take 1).contains 0x2F then "/" else [], []⟩
    (Path.split name).foldlM (tree.step) start

/-- The octets of the file at a path. -/
def readPath? (tree : Tree) (path : Path) : Option (List UInt8) :=
  (tree.find path.text).toOption.bind tree.read?

/-- Whether a file can be written at a path: one is there, or the directory is there that it would
be in. -/
def canWrite (tree : Tree) (path : Path) : Bool :=
  match tree.find path.text with
  | .ok place => !tree.hasDirectory place
  | .error .missing =>
    match tree.find path.parent.text with
    | .ok place => tree.hasDirectory place
    | .error _ => false
  | .error _ => false

end Tree

end LineRuns
