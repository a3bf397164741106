import MetricsDaemon.Provider.Native
import MetricsDaemon.Table

/-!
# Files

The files that the daemon can reach: directories, plain files, and shared libraries
with the entry points that they lack. Paths are texts with slashes between their parts.
-/

namespace MetricsDaemon

/-- The entry points that every module library exports. -/
inductive EntryPoint where
  | name
  | init
  | teardown
  deriving DecidableEq, Repr

/-- The symbol of an entry point. -/
def EntryPoint.symbol : EntryPoint → String
  | .name => "sensd_module_name"
  | .init => "sensd_module_init"
  | .teardown => "sensd_module_teardown"

/-- What is found at a path. -/
inductive FileNode where
  | directory
  | data (bytes : List UInt8)
  | library (image : Native.Library) (lacking : List EntryPoint)

namespace Path

/-- The parts of a text between slashes. -/
def splitSlashes (path : String) : List String :=
  (Text.splitAtEach '/' path.toList).map String.ofList

/-- Whether a part of a path leads nowhere else. -/
def staysPut (part : String) : Bool := part == "" || part == "."

/-- The last name of a path, unless the path ends by leading back. -/
def fileName? (path : String) : Option String :=
  match ((splitSlashes path).filter fun part => !staysPut part).getLast? with
  | some ".." => none
  | last => last

/-- The path of a name inside a directory; an absolute name replaces it. -/
def join (directory name : String) : String :=
  match name.toList with
  | '/' :: _ => name
  | _ =>
      match directory.toList.getLast? with
      | none => name
      | some '/' => directory ++ name
      | some _ => directory ++ "/" ++ name

/-- The part of a file name after its last point; a point at the front does not count. -/
def extension? (name : String) : Option String :=
  match Text.cutLast '.' name.toList with
  | some ([], _) => none
  | some (_, extension) => some (String.ofList extension)
  | none => none

/-- The extension of shared libraries. -/
def libraryExtension : String := "so"

/-- Whether a path looks like a shared library. -/
def looksLoadable (path : String) : Bool :=
  ((fileName? path).bind extension?) == some libraryExtension

end Path

/-- A place among the files: the names on the way to it. Absolute places begin with an empty name,
others with the directory that the daemon runs in. -/
abbrev Location := List String

namespace Location

/-- Whether a place is the root or the directory that the daemon runs in. -/
def isBase (location : Location) : Bool := location == [] || location == [""]

/-- The directory above a place; there is nothing above a base. -/
def parent (location : Location) : Location :=
  if location.isBase then location else location.dropLast

/-- Follow one part of a path, whatever is there. -/
def follow (location : Location) (part : String) : Location :=
  if Path.staysPut part then location
  else if part = ".." then location.parent
  else location ++ [part]

/-- The place where a path begins, and the parts that lead on from there. An empty path leads
nowhere. -/
def start? (path : String) : Option (Location × List String) :=
  match Path.splitSlashes path with
  | [] | [""] => none
  | "" :: rest => some ([""], rest)
  | parts => some ([], parts)

end Location

/-- What is at which place. Directories are kept like all else. -/
structure Disk where
  nodes : Table Location FileNode

namespace Disk

/-- No files. -/
def empty : Disk := ⟨.empty⟩

/-- The node at a place. -/
def at? (disk : Disk) (location : Location) : Option FileNode :=
  if location.isBase then some .directory else disk.nodes.get? location

/-- Whether there is a directory at a place. -/
def isDirectory (disk : Disk) (location : Location) : Bool :=
  match disk.at? location with
  | some .directory => true
  | _ => false

/-- Follow one part of a path; only a directory leads on. -/
def walk (disk : Disk) (location : Location) (part : String) : Option Location :=
  if disk.isDirectory location then some (location.follow part) else none

/-- The place that a path leads to. -/
def locate? (disk : Disk) (path : String) : Option Location :=
  (Location.start? path).bind fun start => start.2.foldlM disk.walk start.1

/-- The node at a path. -/
def node? (disk : Disk) (path : String) : Option FileNode := (disk.locate? path).bind disk.at?

/-- Make a directory where nothing is. -/
def ensureDirectory (disk : Disk) (location : Location) : Disk :=
  if (disk.at? location).isSome then disk else ⟨disk.nodes.put location .directory⟩

/-- Leave nothing at a place and below it. -/
def clear (disk : Disk) (location : Location) : Disk :=
  ⟨⟨disk.nodes.entries.filter fun entry => !location.isPrefixOf entry.1⟩⟩

/-- Follow the parts of a path and make the directories that are missing on the way. -/
def makeWay (disk : Disk) (start : Location) (parts : List String) : Disk × Location :=
  parts.foldl (fun made part =>
    (made.1.ensureDirectory (made.2.follow part), made.2.follow part)) (disk, start)

/-- Put a node at a path, in the place of what is there; a directory may stay what it is. -/
def put (disk : Disk) (path : String) (node : FileNode) : Disk :=
  match Location.start? path with
  | none => disk
  | some (start, parts) =>
      let made := disk.makeWay start parts.dropLast
      let location := parts.getLast?.elim made.2 made.2.follow
      match node, made.1.isDirectory location with
      | .directory, true => made.1
      | node, _ => ⟨(made.1.clear location).nodes.put location node⟩

/-- Leave nothing at a path. -/
def remove (disk : Disk) (path : String) : Disk :=
  match disk.locate? path with
  | none => disk
  | some location => disk.clear location

/-- The bytes of the file at a path; the bytes of a library are of no use as a text. -/
def bytes? (disk : Disk) (path : String) : Option (List UInt8) :=
  match disk.node? path with
  | some (.data bytes) => some bytes
  | _ => none

/-- The names of the files directly inside a directory, in ascending order. -/
def fileNames (disk : Disk) (directory : String) : List String :=
  match (disk.locate? directory).filter disk.isDirectory with
  | none => []
  | some location =>
      (disk.nodes.entries.filterMap fun entry =>
        match entry.2 with
        | .directory => none
        | _ => if entry.1.dropLast = location then entry.1.getLast? else none).mergeSort

/-- The paths of the files directly inside a directory that look like shared libraries. -/
def loadableFiles (disk : Disk) (directory : String) : List String :=
  ((disk.fileNames directory).map (Path.join directory)).filter Path.looksLoadable

end Disk

end MetricsDaemon
