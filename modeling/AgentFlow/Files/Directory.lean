import AgentFlow.Text.Encoding

/-!
# A directory of files

A directory held in memory: its files, given by their components, and the directories that these
imply.  A path is followed component by component.  Above the directory there are only directories
without known files.
-/

namespace AgentFlow.Files

/-! ## Paths

The components of a path stand between slashes.  Empty components and single dots lead nowhere, so a
path has a normal form without them; two dots lead one directory up and are kept.
-/

/-- The components of a path that lead somewhere. -/
def components (path : Text) : List Text :=
  (path.splitOn '/').filter fun part => !part.isEmpty && part ≠ "."

/-- The slashes that an absolute path starts with: exactly two are kept, any other number is one. -/
def root (path : Text) : Text :=
  match (path.takeWhile (· = ('/' : CodePoint))).length with
  | 0 => []
  | 2 => "//"
  | _ => "/"

/-- The normal form of a path; the path to where one stands is a single dot. -/
def normal (path : Text) : Text :=
  match root path ++ Text.join "/" (components path) with
  | [] => "."
  | c :: rest => c :: rest

def baseName (path : Text) : Text := (components path).getLast?.getD []

/-! ## Entries of a directory -/

inductive Fault where
  | missing
  | notDirectory
  | isDirectory
  | nameTooLong
deriving DecidableEq, Repr

def Fault.number : Fault → Nat
  | missing => 2
  | notDirectory => 20
  | isDirectory => 21
  | nameTooLong => 36

def Fault.reason : Fault → Text
  | missing => "No such file or directory"
  | notDirectory => "Not a directory"
  | isDirectory => "Is a directory"
  | nameTooLong => "File name too long"

def Fault.message (fault : Fault) (path : Text) : Text :=
  "[Errno " ++ Text.ofNat fault.number ++ "] " ++ fault.reason ++ ": " ++ path.shown

inductive Entry where
  | file (content : Bytes)
  | directory
  | absent (fault : Fault)
deriving Repr

def Entry.content : Entry → Except Fault Bytes
  | file content => .ok content
  | directory => .error .isDirectory
  | absent fault => .error fault

/-- The files of a directory, by their components. -/
abbrev Directory := List (List Text × Bytes)

/-- Where one stands while a path is followed: in a directory below the own one, or outside. -/
inductive Place where
  | inside (parts : List Text)
  | outside
deriving DecidableEq, Repr

def Place.up : Place → Place
  | inside [] => outside
  | inside (part :: parts) => inside (part :: parts).dropLast
  | outside => outside

namespace Directory

def ofNamed (files : List (Text × Bytes)) : Directory :=
  files.map fun (name, content) => (components name, content)

def names (directory : Directory) : List Text :=
  Text.sort (Text.dedup (directory.filterMap fun (parts, _) => parts.head?))

def hasBelow (directory : Directory) (parts : List Text) : Bool :=
  directory.any fun (file, _) => parts.isPrefixOf file && parts.length < file.length

/-- The length in bytes up to which a component is taken. -/
def longestName : Nat := 255

/-- What one component leads to from a place: another place or the content of a file. -/
def step (directory : Directory) (place : Place) (part : Text) : Except Fault (Place ⊕ Bytes) :=
  if part.isEmpty || part = "." then .ok (.inl place)
  else if part = ".." then .ok (.inl place.up)
  else if longestName < (Bytes.ofText part).length then .error .nameTooLong
  else
    match place with
    | .outside => .error .missing
    | .inside parts =>
      match directory.lookup (parts ++ [part]) with
      | some content => .ok (.inr content)
      | none =>
        if directory.hasBelow (parts ++ [part]) then .ok (.inl (.inside (parts ++ [part])))
        else .error .missing

def follow (directory : Directory) (place : Place) : List Text → Entry
  | [] => .directory
  | part :: rest =>
    match directory.step place part with
    | .error fault => .absent fault
    | .ok (.inl next) => directory.follow next rest
    | .ok (.inr content) => if rest.isEmpty then .file content else .absent .notDirectory

def start (path : Text) : Place := if (root path).isEmpty then .inside [] else .outside

def look (directory : Directory) (path : Text) : Entry :=
  if path.isEmpty then .absent .missing else directory.follow (start path) (path.splitOn '/')

/-- The place that components lead to, all of which are directories. -/
def enter (directory : Directory) (place : Place) : List Text → Except Fault Place
  | [] => .ok place
  | part :: rest =>
    match directory.step place part with
    | .error fault => .error fault
    | .ok (.inl next) => directory.enter next rest
    | .ok (.inr _) => .error .notDirectory

def put (directory : Directory) (parts : List Text) (content : Bytes) : Directory :=
  if (directory.lookup parts).isSome then
    directory.map fun (file, old) => (file, if file = parts then content else old)
  else directory ++ [(parts, content)]

/-- Writes a file, which is made if it is not there.  What lies outside is not kept. -/
def write (directory : Directory) (path : Text) (content : Bytes) : Except Fault Directory :=
  match (components path).getLast? with
  | none => .error .isDirectory
  | some name =>
    match directory.enter (start path) (components path).dropLast with
    | .error fault => .error fault
    | .ok place =>
      match directory.step place name, place with
      | .ok (.inl _), _ => .error .isDirectory
      | .ok (.inr _), .inside parts => .ok (directory.put (parts ++ [name]) content)
      | .error .missing, .inside parts => .ok (directory.put (parts ++ [name]) content)
      | .error fault, .inside _ => .error fault
      | _, .outside => .ok directory

end Directory

end AgentFlow.Files
