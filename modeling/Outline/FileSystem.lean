import Outline.Text.Basic
import Outline.Text.Unicode
import Outline.Text.Utf8

/-!
Paths as texts, in the notation with slashes. Nothing here asks a file system.
-/

set_option autoImplicit false

namespace Outline.Path

def slash : CodePoint := 47

def dot : CodePoint := 46

def components (path : Text) : List Text := path.splitAt slash

def isAbsolute (path : Text) : Bool := path.head? = some slash

def join (path next : Text) : Text :=
  if isAbsolute next then next
  else if path.isEmpty || path.getLast? = some slash then path ++ next
  else path ++ [slash] ++ next

/-- A path without the slashes at its end, unless it is nothing but slashes. -/
def dropTrailingSlashes (path : Text) : Text :=
  if path.all (· = slash) then path else (path.reverse.dropWhile (· = slash)).reverse

def fileName (path : Text) : Text := (path.reverse.takeWhile (· ≠ slash)).reverse

def parent (path : Text) : Text :=
  dropTrailingSlashes (path.reverse.dropWhile (· ≠ slash)).reverse

/-- Adds a component to those before it: `.` and empty ones say nothing, and `..` cancels the one
before it, where there is one to cancel or nothing above. -/
def push (rooted : Bool) (before : List Text) (component : Text) : List Text :=
  if component = [] ∨ component = [dot] then before
  else if component = [dot, dot] then
    match before.getLast? with
    | none => if rooted then before else before ++ [component]
    | some last => if last = [dot, dot] then before ++ [component] else before.dropLast
  else before ++ [component]

/-- The slashes that a normal path begins with: exactly two are kept, more count as one. -/
def leadingSlashes (path : Text) : Nat :=
  match (path.takeWhile (· = slash)).length with
  | 0 => 0
  | 2 => 2
  | _ => 1

/-- A path without empty, `.` and cancelled components; a path of none of its own is `.`. -/
def normalize (path : Text) : Text :=
  let slashes := leadingSlashes path
  let kept := (components path).foldl (push (slashes ≠ 0)) []
  let whole := List.replicate slashes slash ++ Text.joinWith [slash] kept
  if whole.isEmpty then [dot] else whole

def absolute (directory path : Text) : Text := normalize (join directory path)

/-- The extension of a file name: from its last dot on, not counting the dots it begins with. -/
def nameExtension (name : Text) : Text :=
  let body := name.dropWhile (· = dot)
  if body.contains dot then dot :: (body.reverse.takeWhile (· ≠ dot)).reverse else []

def extension (path : Text) : Text := nameExtension (fileName path)

end Outline.Path

/-! ### File systems

File systems as data: a tree of directories, files and symbolic links, and a working directory.

A path is resolved component by component. Links on the way are followed, up to a limit; `..` leads
to the directory above the one reached. Each operation fails with the same cause as the operating
system's, and the path of a failure is the one that was asked for. A path that is no path at all, or
that is too long as a whole, fails before anything is looked up.
-/

namespace Outline

inductive FileError.Cause
  | notFound | exists | notDirectory | isDirectory | nameTooLong | tooManyLinks
  | nullInPath
  /-- The path holds surrogates that stand for no byte. -/
  | unencodable (error : Utf8.EncodeError)
  deriving DecidableEq, Repr

structure FileError where
  cause : FileError.Cause
  path : Text
  deriving DecidableEq, Repr

namespace FileError

/-- The number and the words for a cause that the operating system gives. -/
def Cause.words? : Cause → Option String
  | .notFound => some "[Errno 2] No such file or directory: "
  | .exists => some "[Errno 17] File exists: "
  | .notDirectory => some "[Errno 20] Not a directory: "
  | .isDirectory => some "[Errno 21] Is a directory: "
  | .nameTooLong => some "[Errno 36] File name too long: "
  | .tooManyLinks => some "[Errno 40] Too many levels of symbolic links: "
  | .nullInPath | .unencodable _ => none

def Cause.isFromSystem (cause : Cause) : Bool := cause.words?.isSome

def message (e : FileError) : Text :=
  match e.cause, e.cause.words? with
  | _, some words => Text.join [words, Text.Quoted.quote e.path]
  | .unencodable error, none => error.message
  | _, none => "embedded null byte"

end FileError

/-- What a name in a directory stands for. -/
inductive Entry
  | file (content : Bytes)
  | link (target : Text)
  | directory (entries : List (Text × Entry))

namespace Entry

def lookup? (name : Text) : List (Text × Entry) → Option Entry
  | [] => none
  | (n, entry) :: entries => if n = name then some entry else lookup? name entries

/-- Sets the entry of a name: in place where it is there, else at the end. -/
def insert (name : Text) (entry : Entry) : List (Text × Entry) → List (Text × Entry)
  | [] => [(name, entry)]
  | (n, old) :: entries =>
    if n = name then (n, entry) :: entries else (n, old) :: insert name entry entries

def at? : Entry → List Text → Option Entry
  | entry, [] => some entry
  | .directory entries, name :: names => lookup? name entries >>= (at? · names)
  | _, _ :: _ => none

/-- Sets the entry reached by names; directories on the way must be there. -/
def put (entry : Entry) : Entry → List Text → Entry
  | _, [] => entry
  | .directory entries, [name] => .directory (insert name entry entries)
  | .directory entries, name :: names =>
    match lookup? name entries with
    | some below => .directory (insert name (put entry below names) entries)
    | none => .directory entries
  | other, _ :: _ => other

end Entry

structure FileSystem where
  root : Entry
  directory : Text

namespace FileSystem

def linkLimit : Nat := 40

def nameLimit : Nat := 255

def pathLimit : Nat := 4095

def isLongName (name : Text) : Bool :=
  match Utf8.pathSize name with
  | .ok size => decide (nameLimit < size)
  | .error _ => false

def pathFault? (path : Text) : Option FileError.Cause :=
  match Utf8.pathSize path with
  | .error error => some (.unencodable error)
  | .ok size =>
    if path.contains 0 then some .nullInPath
    else if path.isEmpty then some .notFound
    else if pathLimit < size then some .nameTooLong
    else none

/-- The place that components lead to, free of links, and the entry there. -/
abbrev Reached := Except FileError.Cause (List Text × Option Entry)

/-- Follows components from a place on; the last one may be missing. At a link, what remains is
followed from the directory of the link, or from the root if its target is absolute, the components
of the target first. On the way to a file to be created, a name with a slash behind it can only be a
directory's. -/
def followWith (root : Entry) (creating : Bool) (atLink : List Text → List Text → Reached)
    (place : List Text) : List Text → Reached
  | [] => .ok (place, root.at? place)
  | step :: steps =>
    match root.at? place with
    | some (.directory entries) =>
      if step = [] ∨ step = [Path.dot] then followWith root creating atLink place steps
      else if step = [Path.dot, Path.dot] then
        followWith root creating atLink place.dropLast steps
      else if creating && !steps.isEmpty && steps.all List.isEmpty then .error .isDirectory
      else if isLongName step then .error .nameTooLong
      else
        match Entry.lookup? step entries with
        | none => if steps.isEmpty then .ok (place ++ [step], none) else .error .notFound
        | some (.link target) =>
          atLink (if Path.isAbsolute target then [] else place) (Path.components target ++ steps)
        | some _ => followWith root creating atLink (place ++ [step]) steps
    | _ => .error .notDirectory

/-- Follows components from a place on, through no more than a number of links. -/
def follow (root : Entry) (creating : Bool) : Nat → List Text → List Text → Reached
  | 0 => followWith root creating fun _ _ => .error .tooManyLinks
  | links + 1 => followWith root creating (follow root creating links)

def resolve (fs : FileSystem) (creating : Bool) (path : Text) : Reached :=
  match pathFault? path with
  | some cause => .error cause
  | none => follow fs.root creating linkLimit [] (Path.components (Path.join fs.directory path))

def entry (fs : FileSystem) (path : Text) : Except FileError.Cause Entry :=
  match fs.resolve false path with
  | .ok (_, some entry) => .ok entry
  | .ok (_, none) => .error .notFound
  | .error cause => .error cause

def pathExists (fs : FileSystem) (path : Text) : Bool := (fs.entry path).toOption.isSome

def isFile (fs : FileSystem) (path : Text) : Bool :=
  match fs.entry path with
  | .ok (.file _) => true
  | _ => false

def isDirectory (fs : FileSystem) (path : Text) : Bool :=
  match fs.entry path with
  | .ok (.directory _) => true
  | _ => false

def absolute (fs : FileSystem) (path : Text) : Text := Path.absolute fs.directory path

def read (fs : FileSystem) (path : Text) : Except FileError Bytes :=
  match fs.entry path with
  | .ok (.file content) => .ok content
  | .ok _ => .error ⟨.isDirectory, path⟩
  | .error cause => .error ⟨cause, path⟩

/-- Writes the file that a path leads to, anew where there is none. -/
def write (fs : FileSystem) (path : Text) (content : Bytes) : Except FileError FileSystem :=
  match fs.resolve true path with
  | .ok (_, some (.directory _)) => .error ⟨.isDirectory, path⟩
  | .ok (place, _) => .ok { fs with root := Entry.put (.file content) fs.root place }
  | .error cause => .error ⟨cause, path⟩

/-- The place and the entries of the directory that holds the last name of a path, and that name. A
link of that name is not followed. -/
def holder (fs : FileSystem) (path : Text) :
    Except FileError.Cause (List Text × List (Text × Entry) × Text) :=
  match pathFault? path with
  | some cause => .error cause
  | none =>
    let whole := Path.dropTrailingSlashes (Path.join fs.directory path)
    match follow fs.root false linkLimit [] (Path.components (Path.parent whole)) with
    | .ok (place, some (.directory entries)) => .ok (place, entries, Path.fileName whole)
    | .ok (_, some _) => .error .notDirectory
    | .ok (_, none) => .error .notFound
    | .error cause => .error cause

/-- Puts an entry at a path where there is none, not even a link that leads nowhere. -/
def create (fs : FileSystem) (path : Text) (entry : Entry) : Except FileError FileSystem :=
  match fs.holder path with
  | .ok (place, entries, name) =>
    if name = [] ∨ name = [Path.dot] ∨ name = [Path.dot, Path.dot] then .error ⟨.exists, path⟩
    else if isLongName name then .error ⟨.nameTooLong, path⟩
    else if (Entry.lookup? name entries).isSome then .error ⟨.exists, path⟩
    else .ok { fs with root := Entry.put entry fs.root (place ++ [name]) }
  | .error cause => .error ⟨cause, path⟩

def makeDirectory (fs : FileSystem) (path : Text) : Except FileError FileSystem :=
  fs.create path (.directory [])

def lastStep (path : Text) : Text × Text :=
  if (Path.fileName path).isEmpty then
    (Path.parent (Path.parent path), Path.fileName (Path.parent path))
  else (Path.parent path, Path.fileName path)

/-- Makes a directory that may already be there, after those above it. The result is the file system
reached and why no directory is there, if so. -/
def makeDirectoriesFrom : Nat → FileSystem → Text → FileSystem × Option FileError
  | 0, fs, path => (fs, some ⟨.notFound, path⟩)
  | fuel + 1, fs, path =>
    let (above, name) := lastStep path
    let isDeep := !above.isEmpty && !name.isEmpty && !fs.pathExists above
    let (ready, failure) :=
      if isDeep then makeDirectoriesFrom fuel fs above else (fs, none)
    match failure.filter fun e => decide (e.cause ≠ .exists) with
    | some e => (ready, some e)
    | none =>
      if isDeep && name = [Path.dot] then (ready, none)
      else
        match ready.makeDirectory path with
        | .ok made => (made, none)
        | .error e => (ready, if ready.isDirectory path then none else some e)

/-- Makes a directory and those above it, where they are not there yet. -/
def makeDirectories (fs : FileSystem) (path : Text) : Except FileError FileSystem :=
  match makeDirectoriesFrom (path.length + 1) fs path with
  | (made, none) => .ok made
  | (_, some e) => .error e

/-- What making a directory and those above it leaves, also where some of them cannot be made. -/
def withDirectories (fs : FileSystem) (path : Text) : FileSystem :=
  (makeDirectoriesFrom (path.length + 1) fs path).1

mutual

def filesIn (fs : FileSystem) (path : Text) : List (Text × Entry) → List (Text × Bytes)
  | [] => []
  | (name, entry) :: entries => filesOf fs (Path.join path name) entry ++ filesIn fs path entries

/-- The files at and below an entry. A link to a file counts as that file, a link to a directory is
not entered. -/
def filesOf (fs : FileSystem) (path : Text) : Entry → List (Text × Bytes)
  | .file content => [(path, content)]
  | .link _ =>
    match fs.read path with
    | .ok content => [(path, content)]
    | .error _ => []
  | .directory entries => filesIn fs path entries

end

def files (fs : FileSystem) : List (Text × Bytes) := filesOf fs [Path.slash] fs.root

end FileSystem

end Outline
