import InstrDecl.Storage.Path
import InstrDecl.Text.Utf8

namespace InstrDecl

/-- Why the operating system refuses an operation: the number of the cause and its wording. There are
    more causes than those that are named here. -/
structure ErrorCode where
  number : Nat
  reason : Text
  deriving DecidableEq, Repr

namespace ErrorCode

def notFound : ErrorCode := ⟨2, "No such file or directory"⟩

def execFormat : ErrorCode := ⟨8, "Exec format error"⟩

def permission : ErrorCode := ⟨13, "Permission denied"⟩

def notDirectory : ErrorCode := ⟨20, "Not a directory"⟩

def isDirectory : ErrorCode := ⟨21, "Is a directory"⟩

def brokenPipe : ErrorCode := ⟨32, "Broken pipe"⟩

def nameTooLong : ErrorCode := ⟨36, "File name too long"⟩

end ErrorCode

/-- A refused operation, and the file that it was for if there is one. -/
structure SystemError where
  code : ErrorCode
  subject : Option Text
  deriving DecidableEq, Repr

namespace SystemError

/-- The text of a system error: its number, its wording, and the files it is about as they are
    quoted. Of two files the second is what the first was to become. -/
def describe (number reason : Text) (files : List Text) : Text :=
  "[Errno " ++ number ++ "] " ++ reason ++
    if files.isEmpty then ([] : Text) else ": " ++ List.intercalate (" -> " : Text) files

/-- The text of a system error. -/
def message (e : SystemError) : Text :=
  describe (Text.ofNat e.code.number) e.code.reason (e.subject.toList.map Text.quoted)

end SystemError

/-- What can be done with a file or a directory: a file is read and written, and a directory is written
    when a file is made in it and searched when a path leads through it. -/
inductive Access
  | read | write | search
  deriving DecidableEq, Repr

/-- What stands at a place: a file with its content, or a directory, which has none. Some ways to use it
    may be refused. -/
structure Entry where
  content : Option Bytes
  refusals : List (Access × ErrorCode)
  deriving DecidableEq, Repr

namespace Entry

/-- A file that everything can be done with. -/
def file (content : Bytes) : Entry :=
  { content := some content, refusals := [] }

/-- A directory that everything can be done with. -/
def directory : Entry :=
  { content := none, refusals := [] }

/-- The entry is a directory. -/
def isDirectory (entry : Entry) : Bool :=
  entry.content.isNone

/-- Why the entry cannot be used in this way. -/
def refusal? (entry : Entry) (access : Access) : Option ErrorCode :=
  entry.refusals.lookup access

/-- Reads a file. -/
def read (entry : Entry) : Except ErrorCode Bytes :=
  match entry.refusal? .read, entry.content with
  | some code, _ => .error code
  | none, none => .error .isDirectory
  | none, some content => .ok content

/-- Reads a file that need not be there; if it is not, it counts as empty. -/
def readIfThere : Option Entry → Except ErrorCode Bytes
  | none => .ok []
  | some entry => entry.read

end Entry

/-- A place in the file system: the names from the root directory down to it. -/
abbrev Location := List Text

/-- A place as an absolute path. -/
def Location.text (location : Location) : Text :=
  location.flatMap fun name => '/' :: name

/-- All files and directories below the root, and the current directory. -/
structure FileSystem where
  entries : List (Location × Entry)
  current : Location
  deriving DecidableEq, Repr

namespace FileSystem

/-- The longest name of a file, in bytes. -/
def maxNameBytes : Nat := 255

/-- The longest path, in bytes. -/
def maxPathBytes : Nat := 4095

/-- What stands at a place; the root is always there. -/
def entryAt (fs : FileSystem) (location : Location) : Option Entry :=
  if location.isEmpty then some .directory else fs.entries.lookup location

/-- A directory stands at the place. -/
def isDirectory (fs : FileSystem) (location : Location) : Bool :=
  (fs.entryAt location).any (·.isDirectory)

/-- Why what stands at a place cannot be used in this way. -/
def refusal? (fs : FileSystem) (location : Location) (access : Access) : Option ErrorCode :=
  (fs.entryAt location).bind (·.refusal? access)

/-- Puts an entry at a place, instead of one that stands there. -/
def put (fs : FileSystem) (location : Location) (entry : Entry) : FileSystem :=
  if (fs.entries.lookup location).isSome then
    { fs with entries := fs.entries.map fun e => if e.1 == location then (location, entry) else e }
  else { fs with entries := fs.entries ++ [(location, entry)] }

/-- Removes a place and everything below it. -/
def removeTree (fs : FileSystem) (location : Location) : FileSystem :=
  { fs with entries := fs.entries.filter fun e => !location.isPrefixOf e.1 }

/-- Makes a directory and the directories above it. -/
def makeDirectories (fs : FileSystem) (location : Location) : FileSystem :=
  (List.range location.length).foldl (fun fs depth =>
    let above := location.take (depth + 1)
    if (fs.entryAt above).isSome then fs else fs.put above .directory) fs

/-- Follows names from a place. Each step needs a directory to start from that can be searched, and a
    name of admissible length; only the last name may be missing, and then its place is where a file can
    be made. -/
def walk (fs : FileSystem) (here : Location) : List Text → Except ErrorCode Location
  | [] => .ok here
  | name :: rest =>
    if !fs.isDirectory here then .error .notDirectory
    else match fs.refusal? here .search with
      | some code => .error code
      | none =>
        if name == ['.'] then walk fs here rest
        else if name == ['.', '.'] then walk fs here.dropLast rest
        else if maxNameBytes < (Utf8.encode name).length then .error .nameTooLong
        else
          let next := here ++ [name]
          if (fs.entryAt next).isSome || rest.isEmpty then walk fs next rest else .error .notFound

/-- The place where a path starts. -/
def start (fs : FileSystem) : Anchor → Location
  | .current => fs.current
  | _ => []

/-- The place that a path leads to. -/
def resolve (fs : FileSystem) (path : Path) : Except ErrorCode Location :=
  if maxPathBytes < (Utf8.encode path.text).length then .error .nameTooLong
  else fs.walk (fs.start path.anchor) path.components

/-- The content of the file that a path leads to. -/
def read (fs : FileSystem) (path : Path) : Except ErrorCode Bytes :=
  match fs.resolve path with
  | .error code => .error code
  | .ok location =>
    match fs.entryAt location with
    | some entry => entry.read
    | none => .error .notFound

/-- Why no file can be written at a place. Where nothing stands yet, one has to be made in the directory
    above. -/
def writeRefusal? (fs : FileSystem) (location : Location) : Option ErrorCode :=
  match fs.entryAt location with
  | none => fs.refusal? location.dropLast .write
  | some entry => if entry.isDirectory then some .isDirectory else entry.refusal? .write

/-- The file at a place after it was written: what it refuses stays as it was. -/
def rewritten (fs : FileSystem) (location : Location) (content : Bytes) : Entry :=
  { (fs.entryAt location).getD (.file []) with content := some content }

/-- Writes the file that a path leads to; the content of a file that is there is replaced. -/
def write (fs : FileSystem) (path : Path) (content : Bytes) : Except ErrorCode FileSystem :=
  match fs.resolve path with
  | .error code => .error code
  | .ok location =>
    match fs.writeRefusal? location with
    | some code => .error code
    | none => .ok (fs.put location (fs.rewritten location content))

/-- What a path as written, not in normal form, leads to. A slash at its end asks for a directory. -/
def find? (fs : FileSystem) (text : Text) : Option Entry :=
  let names := Path.names text ++ if text.getLast? = some '/' then [['.']] else []
  if text.isEmpty || maxPathBytes < (Utf8.encode text).length then none
  else match fs.walk (fs.start (Path.anchorOf text)) names with
    | .ok location => fs.entryAt location
    | .error _ => none

/-- The files that differ from those of an earlier file system, by their places below `base`. -/
def changedFiles (before after : FileSystem) (base : Location) : List (Location × Bytes) :=
  after.entries.filterMap fun e =>
    match e.2.content with
    | some content =>
      if base.isPrefixOf e.1 && before.entryAt e.1 != some e.2 then some (e.1.drop base.length, content) else none
    | none => none

end FileSystem

end InstrDecl
