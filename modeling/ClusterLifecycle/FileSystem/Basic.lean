import ClusterLifecycle.SystemError

/-!
A file system: files and directories at places, a place being the names that lead to it from the
root. Every operation either fails with the reason that the system would give, or has its effect.
A path is a text with steps between slashes, and starts from the root where it begins with one.
-/

namespace ClusterLifecycle

namespace Path

def split : List Char → List (List Char)
  | [] => [[]]
  | c :: rest =>
    if c = '/' then [] :: split rest
    else match split rest with
      | [] => [[c]]
      | piece :: more => (c :: piece) :: more

/-- The steps of a path; a step without a name stays where it is. -/
def steps (path : String) : List String :=
  (split path.toList).map String.ofList

def maxName : Nat := 255

def maxLength : Nat := 4095

def isAbsolute (path : String) : Bool :=
  path.toList.head? = some '/'

/-- The steps that lead somewhere, with the dot only where the path begins with it. -/
def components (path : String) : List String :=
  match steps path with
  | "." :: rest => "." :: rest.filter fun step => step ≠ "" && step ≠ "."
  | all => all.filter fun step => step ≠ "" && step ≠ "."

def join (base name : String) : String :=
  if base = "" || isAbsolute name then name
  else if base.toList.getLast? = some '/' then base ++ name
  else base ++ "/" ++ name

def ofComponents (absolute : Bool) (components : List String) : String :=
  (if absolute then "/" else "") ++ String.intercalate "/" components

def withoutLastSlashes (path : String) : String :=
  match path.toList.reverse.dropWhile (· = '/') with
  | [] => if isAbsolute path then "/" else path
  | reversed => String.ofList reversed.reverse

end Path

abbrev Place := List String

inductive Node where
  | file (content : String) (executable : Bool)
  | directory
  deriving DecidableEq, Repr

structure FileSystem where
  nodes : List (Place × Node)
  deriving Repr, Inhabited

namespace FileSystem

def node? (fs : FileSystem) (place : Place) : Option Node :=
  if place = [] then some .directory else fs.nodes.lookup place

def remove (fs : FileSystem) (place : Place) : FileSystem :=
  ⟨fs.nodes.filter (·.1 ≠ place)⟩

def put (fs : FileSystem) (place : Place) (node : Node) : FileSystem :=
  ⟨(place, node) :: (fs.remove place).nodes⟩

def stepFrom (place : Place) (step : String) : Place :=
  if step = "" ∨ step = "." then place
  else if step = ".." then place.dropLast
  else place ++ [step]

/-- Where steps lead. Every place that is left by a step has to be a directory, in which names have
a greatest length. -/
def walk (fs : FileSystem) (place : Place) : List String → Except SystemError Place
  | [] => .ok place
  | step :: rest =>
    match fs.node? place with
    | none => .error .notFound
    | some (.file ..) => .error .notADirectory
    | some .directory =>
      if Path.maxName < step.utf8ByteSize then .error .nameTooLong
      else walk fs (stepFrom place step) rest

/-- The place that a path names, seen from a working directory. -/
def resolve (fs : FileSystem) (working : Place) (path : String) : Except SystemError Place :=
  if path.toList.contains '\x00' then .error .nulInPath
  else if path = "" then .error .notFound
  else if Path.maxLength < path.utf8ByteSize then .error .nameTooLong
  else fs.walk (if Path.isAbsolute path then [] else working) (Path.steps path)

def isDirectory (fs : FileSystem) (working : Place) (path : String) : Bool :=
  match fs.resolve working path with
  | .ok place => fs.node? place == some .directory
  | .error _ => false

def read (fs : FileSystem) (working : Place) (path : String) : Except SystemError String := do
  match fs.node? (← fs.resolve working path) with
  | none => .error .notFound
  | some .directory => .error .isADirectory
  | some (.file content _) => .ok content

def write (fs : FileSystem) (working : Place) (path content : String) : Except SystemError FileSystem := do
  let place ← fs.resolve working path
  match fs.node? place with
  | none => .ok (fs.put place (.file content false))
  | some .directory => .error .isADirectory
  | some (.file _ executable) => .ok (fs.put place (.file content executable))

/-- A file moved to another name, where it takes the place of a file that is there. -/
def moveFile (fs : FileSystem) (working : Place) (source target : String) : Except SystemError FileSystem := do
  let old ← fs.resolve working source
  match fs.node? old with
  | none => .error .notFound
  | some .directory => .error .isADirectory
  | some node =>
    let new ← fs.resolve working target
    match fs.node? new with
    | some .directory => .error .isADirectory
    | _ => .ok ((fs.remove old).put new node)

def makeDirectory (fs : FileSystem) (working : Place) (path : String) : Except SystemError FileSystem := do
  let place ← fs.resolve working (Path.withoutLastSlashes path)
  match fs.node? place with
  | none => .ok (fs.put place .directory)
  | some _ => .error .alreadyExists

/-- A directory at a path, which may be there already. Where the directory above it is missing,
that one is made first by `above`. -/
def ensureDirectory (working : Place) (path : String)
    (above : FileSystem → Except SystemError Unit × FileSystem) (fs : FileSystem) :
    Except SystemError Unit × FileSystem :=
  match fs.makeDirectory working path with
  | .ok made => (.ok (), made)
  | .error .notFound =>
    match above fs with
    | (.error fault, fs) => (.error fault, fs)
    | (.ok (), fs) =>
      match fs.makeDirectory working path with
      | .ok made => (.ok (), made)
      | .error fault => (if fs.isDirectory working path then .ok () else .error fault, fs)
  | .error fault => (if fs.isDirectory working path then .ok () else .error fault, fs)

/-- The directories of a path given by its components, the last first. -/
def makeAbove (working : Place) (absolute : Bool) : List String → FileSystem → Except SystemError Unit × FileSystem
  | [], fs => (.ok (), fs)
  | name :: rest, fs =>
    ensureDirectory working (Path.ofComponents absolute (name :: rest).reverse)
      (makeAbove working absolute rest) fs

/-- A directory with all those above it. What has been made before a failure stays. -/
def makeDirectories (fs : FileSystem) (working : Place) (path : String) : Except SystemError Unit × FileSystem :=
  if path = "" then (.ok (), fs)
  else ensureDirectory working path
    (makeAbove working (Path.isAbsolute path) (Path.components path).reverse.tail) fs

/-- The files below a place with the paths that lead to them from there. -/
def filesBelow (fs : FileSystem) (place : Place) : List (String × String) :=
  fs.nodes.filterMap fun (at_, node) =>
    match node with
    | .directory => none
    | .file content _ =>
      if at_ ≠ place && place.isPrefixOf at_ then
        some (String.intercalate "/" (at_.drop place.length), content)
      else none

def place (fs : FileSystem) (working : Place) (path content : String) (executable : Bool) : FileSystem :=
  let names := Path.components path
  let above := names.dropLast.foldl (fun (fs, at_) name =>
    let at_ := at_ ++ [name]
    (if fs.node? at_ = none then fs.put at_ .directory else fs, at_)) (fs, working)
  above.1.put (working ++ names) (.file content executable)

end FileSystem

end ClusterLifecycle
