import Outline.Options
import Outline.Text.Basic
import Outline.Text.Unicode
import Outline.Text.Utf8

/-!
Files that add to the environment.

A file is a sequence of statements `KEY=VALUE`, each perhaps after `export`, with blanks and
comments around it. A key or a value in quotes may go over several lines; without quotes a value
ends with its line, or where a blank and a `#` follow. A key alone unsets what the file said of it.
A statement of any other form counts for nothing, and reading goes on with the next line. A value
may refer to variables as in `${NAME}` or `${NAME:-default}`, which mean the set ones first and then
those of the file above it. The last statement on a key counts, and a variable that is already set
keeps its value.
-/

set_option autoImplicit false

namespace Outline.Program.EnvironmentFile

def closingVariable : Text := "PYTHON_DOTENV_DISABLED"

/-- Whether files may not add to the environment. Capitals count as small letters in the word that
forbids it, and a long s as an s. -/
def isClosed (env : Environment) : Bool :=
  match env.get? closingVariable with
  | none => false
  | some word =>
    let folded := (Text.lower word).map fun c => if c = 0x17F then 115 else c
    (["1", "true", "t", "yes", "y"].map Text.ofString).contains folded

inductive Flaw
  | null
  | equals
  deriving DecidableEq, Repr

def Flaw.message : Flaw → Text
  | .null => "embedded null byte"
  | .equals => "illegal environment variable name"

def flaw? (name value : Text) : Option Flaw :=
  if name.contains 0 || value.contains 0 then some .null
  else if name.contains 61 then some .equals
  else none

/-- A statement on a key: its value, or none where the key stands alone. -/
structure Statement where
  key : Text
  value : Option Text
  deriving DecidableEq, Repr

namespace Statement

def isBreak (c : CodePoint) : Bool := c = 10 || c = 13

def isGap (c : CodePoint) : Bool := c.isBlank && !isBreak c

def dropGap (t : Text) : Text := t.dropWhile isGap

def nextLine (t : Text) : Text := (t.dropWhile (!isBreak ·)).drop 1

def dropExport (t : Text) : Text :=
  if Text.startsWith "export" t && ((t.drop 6).head?.map isGap).getD false then
    dropGap (t.drop 6)
  else t

/-- Reads up to the closing quote; the text in between and what follows. A backslash goes with the
code point after it. -/
def quoted? (quote : CodePoint) : Text → Option (Text × Text)
  | [] => none
  | [c] => if c = quote then some ([], []) else none
  | c :: d :: t =>
    if c = quote then some ([], d :: t)
    else if c = 92 then
      (quoted? quote t).map fun (inside, after) => (c :: d :: inside, after)
    else (quoted? quote (d :: t)).map fun (inside, after) => (c :: inside, after)

def letter? (c : CodePoint) : Option CodePoint :=
  if c = 92 ∨ c = 39 ∨ c = 34 then some c
  else if c = 97 then some 7
  else if c = 98 then some 8
  else if c = 102 then some 12
  else if c = 110 then some 10
  else if c = 114 then some 13
  else if c = 116 then some 9
  else if c = 118 then some 11
  else none

/-- Replaces the escapes of a quoted value; in single quotes only quote and backslash have one. -/
def unescape (double : Bool) : Text → Text
  | a :: b :: t =>
    if a = 92 then
      match (letter? b).filter fun _ => double || b = 92 || b = 39 with
      | some c => c :: unescape double t
      | none => a :: unescape double (b :: t)
    else a :: unescape double (b :: t)
  | t => t

def uncommented : Text → Text
  | [] => []
  | c :: t =>
    if c.isBlank && ((t.dropWhile CodePoint.isBlank).head? = some 35) then []
    else c :: uncommented t

/-- Reads a value behind the equals sign; the value and what follows it, or what is left where it is
of no form. -/
def readValue (t : Text) : Except Text (Text × Text) :=
  match dropGap t with
  | [] => .ok ([], [])
  | c :: u =>
    if c = 39 ∨ c = 34 then
      match quoted? c u with
      | none => .error (c :: u)
      | some (inside, after) => .ok (unescape (c = 34) inside, after)
    else if c = 35 ∧ (t.head?.map isGap).getD false then .ok ([], c :: u)
    else
      let line := (c :: u).takeWhile (!isBreak ·)
      .ok (Text.trim CodePoint.isBlank (uncommented line), (c :: u).dropWhile (!isBreak ·))

/-- Reads a key and what follows it, or what is left where it is of no form. -/
def readKey (t : Text) : Except Text (Text × Text) :=
  match t with
  | [] => .error []
  | c :: u =>
    if c = 39 then
      match u.takeWhile (· ≠ 39), u.dropWhile (· ≠ 39) with
      | [], _ => .error t
      | _, [] => .error t
      | key, _ :: after => .ok (key, after)
    else
      let isKey (d : CodePoint) : Bool := !(d = 61 || d = 35 || d.isBlank)
      match t.takeWhile isKey with
      | [] => .error t
      | key => .ok (key, t.dropWhile isKey)

/-- What follows a statement, if nothing but a comment stands before the end of its line; else what
is left. -/
def close (t : Text) : Except Text Text :=
  match dropGap t with
  | [] => .ok []
  | c :: u => if c = 35 || isBreak c then .ok (nextLine (c :: u)) else .error (c :: u)

def readStrict (t : Text) : Except Text (Statement × Text) := do
  let (key, rest) ← readKey (dropExport t)
  match dropGap rest with
  | 61 :: after =>
    let (value, rest) ← readValue after
    return (⟨key, some value⟩, ← close rest)
  | rest => return (⟨key, none⟩, ← close rest)

/-- Reads one statement or comment: the statement, if it is one, and what follows. -/
def read (t : Text) : Option Statement × Text :=
  if (dropExport t).head? = some 35 then (none, nextLine t)
  else
    match readStrict t with
    | .ok (statement, rest) => (some statement, rest)
    | .error rest => (none, nextLine rest)

end Statement

def statementsWithin : Nat → Text → List Statement
  | 0, _ => []
  | fuel + 1, t =>
    match t.dropWhile CodePoint.isBlank with
    | [] => []
    | start =>
      let (statement, rest) := Statement.read start
      statement.toList ++ statementsWithin fuel rest

/-- The statements of a file; each takes up at least one code point. -/
def statements (t : Text) : List Statement := statementsWithin (t.length + 1) t

inductive Piece
  | literal (c : CodePoint)
  | reference (name : Text) (default : Option Text)
  deriving DecidableEq, Repr

namespace Piece

def reference? (t : Text) : Option (Piece × Text) :=
  if Text.startsWith "$\x7b" t then
    let inside := t.drop 2
    let isName (c : CodePoint) : Bool := !(c = 125 || c = 58)
    let name := inside.takeWhile isName
    match inside.dropWhile isName with
    | 125 :: rest => some (.reference name none, rest)
    | 58 :: 45 :: rest =>
      match rest.dropWhile (· ≠ 125) with
      | _ :: after => some (.reference name (some (rest.takeWhile (· ≠ 125))), after)
      | [] => none
    | _ => none
  else none

def piecesWithin : Nat → Text → List Piece
  | 0, _ => []
  | _ + 1, [] => []
  | fuel + 1, c :: t =>
    match reference? (c :: t) with
    | some (piece, rest) => piece :: piecesWithin fuel rest
    | none => .literal c :: piecesWithin fuel t

def pieces (t : Text) : List Piece := piecesWithin t.length t

/-- What a piece stands for; a variable that has no value is its default, else empty. -/
def expand (get : Text → Option Text) : Piece → Text
  | .literal c => [c]
  | .reference name default => (get name).getD (default.getD [])

def name? : Piece → Option Text
  | .literal _ => none
  | .reference name _ => some name

end Piece

def expand (get : Text → Option Text) (value : Text) : Text :=
  (Piece.pieces value).flatMap (Piece.expand get)

def mentioned (content : Text) : List Text :=
  (statements content).flatMap fun s =>
    s.key :: (Piece.pieces (s.value.getD [])).filterMap Piece.name?

/-- Takes a statement: in place where its key is known, else at the end. -/
def take (statement : Statement) : List Statement → List Statement
  | [] => [statement]
  | s :: known => if s.key = statement.key then statement :: known else s :: take statement known

/-- What a reference means: the value of a set variable, else what the file said last. A key that
stands alone has the empty value. -/
def meaning? (env : Environment) (known : List Statement) (name : Text) : Option Text :=
  (env.get? name).orElse fun _ =>
    (known.find? fun s => decide (s.key = name)).map fun s => s.value.getD []

/-- The last statement on each key, with its references replaced as it was read. -/
def resolve (env : Environment) (statements : List Statement) : List Statement :=
  statements.foldl
    (fun known s => take { s with value := s.value.map (expand (meaning? env known)) } known) []

def setMissing (env : Environment) : List Statement → Except Flaw Environment
  | [] => .ok env
  | s :: statements =>
    match env.get? s.key, s.value with
    | none, some value =>
      match flaw? s.key value with
      | some flaw => .error flaw
      | none => setMissing (env ++ [(s.key, value)]) statements
    | _, _ => setMissing env statements

def dropMark : Text → Text
  | c :: t => if c.val = 0xFEFF then t else c :: t
  | [] => []

/-- Adds the statements of a file to the variables that are not set. -/
def load (env : Environment) (content : Text) : Except Flaw Environment :=
  setMissing env (resolve env (statements (dropMark content)))

/-! ### Finding a file -/

def fileName : Text := ".env"

/-- The environment files that there may be for a directory: its own and those of the directories
above it, of which there are at most as many as the fuel allows. -/
def placesWithin : Nat → Text → List Text
  | 0, _ => []
  | fuel + 1, directory =>
    let above := Path.parent directory
    Path.join directory fileName :: if above = directory then [] else placesWithin fuel above

/-- The environment files that there may be for a directory, the nearest first. -/
def places (directory : Text) : List Text := placesWithin (directory.length + 1) directory

def fileFault (error : FileError) : Fault :=
  if error.cause = .notFound then .notFound error.message else .other "OSError" error.message

/-- Adds what the nearest environment file of a directory says, unless the environment forbids
it. -/
def reader (directory : Text) (fs : FileSystem) (env : Environment) : Except Fault Environment :=
  match (places directory).find? fs.isFile with
  | none => .ok env
  | some path =>
    if isClosed env then .ok env
    else do
      let bytes ← (fs.read path).mapError fileFault
      let content ← (Utf8.decode bytes).mapError fun error =>
        .other "UnicodeDecodeError" error.message
      (load env content.unifyBreaks).mapError fun flaw => .other "ValueError" flaw.message

end Outline.Program.EnvironmentFile
