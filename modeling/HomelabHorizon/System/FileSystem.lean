import HomelabHorizon.Go

/-! # The dry-run filesystem

`DryRunFileSystem` (`internal/system/interfaces.go`) stands in for the host
filesystem in preview mode.  It keeps five maps keyed by path: files seeded by
`AddFile`, shadow writes, a `created` set, removals and directories made.
Writes, removals and `MkdirAll` only record; reads consult the maps and fall
through to the host, which the dry run never changes.

The host is a fixed map from path to node (`HostFs`), read through the two
calls the dry run makes of it, `os.ReadFile` and `os.Stat`.  Every method holds
the instance's one mutex for its whole body, so a method is one atomic step and
a sequence of calls is a fold (`replay`).
-/
namespace HomelabHorizon.System

/-- `[]byte`. -/
abbrev Bytes := List UInt8

/-- What the host filesystem holds at a path. -/
inductive Node
  | file (data : Bytes)
  | dir
  deriving DecidableEq, Repr

/-- Whether the host's `FileInfo` for this node reports a directory. -/
def Node.isDir : Node → Bool
  | .file _ => false
  | .dir => true

/-- The host filesystem the dry run falls through to. -/
abbrev HostFs := String → Option Node

/-- The errors the host's `os.ReadFile` and `os.Stat` report. -/
inductive FsError
  | notExist (path : String)
  | isDirectory (path : String)
  deriving DecidableEq, Repr

/-- `mockFileInfo`: the `os.FileInfo` the dry run makes up for a path it knows. -/
structure MockFileInfo where
  path : String
  isDir : Bool
  deriving DecidableEq, Repr

namespace MockFileInfo
/-- `Name()` is the whole path. -/
def name (fi : MockFileInfo) : String := fi.path
/-- `Size()` is always zero. -/
def size (_ : MockFileInfo) : Int := 0
/-- `Mode()` is always `0644`. -/
def mode (_ : MockFileInfo) : Nat := 0o644
end MockFileInfo

/-- An `os.FileInfo` as the dry run's `Stat` returns it: made up, or the host's. -/
inductive FileInfo
  | mock (fi : MockFileInfo)
  | host (node : Node)
  deriving DecidableEq, Repr

/-- `IsDir()`. -/
def FileInfo.isDir : FileInfo → Bool
  | .mock fi => fi.isDir
  | .host node => node.isDir

/-- `os.ReadFile` on the host. -/
def osReadFile (host : HostFs) (path : String) : Except FsError Bytes :=
  match host path with
  | some (.file data) => .ok data
  | some .dir => .error (.isDirectory path)
  | none => .error (.notExist path)

/-- `os.Stat` on the host. -/
def osStat (host : HostFs) (path : String) : Except FsError FileInfo :=
  match host path with
  | some node => .ok (.host node)
  | none => .error (.notExist path)

/-- The dry-run overlay.  The `sync.Mutex` is not a field: each method is one step. -/
structure DryRunFileSystem where
  files : GoMap Bytes
  written : GoMap Bytes
  created : GoMap Bool
  removed : GoMap Bool
  mkdirs : GoMap Bool

/-- `NewDryRunFileSystem`: five empty maps. -/
def newDryRunFileSystem : DryRunFileSystem := ⟨∅, ∅, ∅, ∅, ∅⟩

namespace DryRunFileSystem
variable (fs : DryRunFileSystem) (host : HostFs)

/-- `ReadFile`: the shadow write, else the seeded file, else the host's file. -/
def readFile (path : String) : Except FsError Bytes :=
  match fs.written.lookup path with
  | some data => .ok data
  | none =>
    match fs.files.lookup path with
    | some data => .ok data
    | none => osReadFile host path

/-- `Stat`: a seeded or created path is a file, a made directory a directory,
anything else is the host's answer. -/
def stat (path : String) : Except FsError FileInfo :=
  if path ∈ fs.files then .ok (.mock ⟨path, false⟩)
  else if path ∈ fs.created then .ok (.mock ⟨path, false⟩)
  else if path ∈ fs.mkdirs then .ok (.mock ⟨path, true⟩)
  else osStat host path

/-- `Exists`: the same three maps as `Stat`, then whether `os.Stat` succeeds. -/
def «exists» (path : String) : Bool :=
  if path ∈ fs.files then true
  else if path ∈ fs.created then true
  else if path ∈ fs.mkdirs then true
  else match osStat host path with
    | .ok _ => true
    | .error _ => false

/-- `WriteFile` records the data as a shadow write and returns `nil`. -/
@[simp] def writeFile (path : String) (data : Bytes) : DryRunFileSystem :=
  { fs with written := fs.written.insert path data }

/-- `Remove` records the path and returns `nil`. -/
@[simp] def remove (path : String) : DryRunFileSystem :=
  { fs with removed := fs.removed.insert path true }

/-- `MkdirAll` records the path itself and returns `nil`. -/
@[simp] def mkdirAll (path : String) : DryRunFileSystem :=
  { fs with mkdirs := fs.mkdirs.insert path true }

/-- `AddFile` seeds a file. -/
@[simp] def addFile (path : String) (data : Bytes) : DryRunFileSystem :=
  { fs with files := fs.files.insert path data }

/-- `GetWrittenFiles`. -/
def getWrittenFiles : GoMap Bytes := GoMap.copy fs.written
/-- `GetCreatedFiles`. -/
def getCreatedFiles : GoMap Bool := GoMap.copy fs.created
/-- `GetRemovedFiles`. -/
def getRemovedFiles : GoMap Bool := GoMap.copy fs.removed
/-- `GetCreatedDirs`. -/
def getCreatedDirs : GoMap Bool := GoMap.copy fs.mkdirs

end DryRunFileSystem

/-! ## Calls and replies -/

/-- One call on the dry-run filesystem.  The `perm` arguments of `WriteFile`
and `MkdirAll` are not read by the dry run and are left out. -/
inductive FsCall
  | readFile (path : String)
  | writeFile (path : String) (data : Bytes)
  | stat (path : String)
  | «exists» (path : String)
  | remove (path : String)
  | mkdirAll (path : String)
  | addFile (path : String) (data : Bytes)
  | getWrittenFiles
  | getCreatedFiles
  | getRemovedFiles
  | getCreatedDirs
  deriving DecidableEq, Repr

/-- What a call returns.  `WriteFile`, `Remove` and `MkdirAll` return an
`error`; `AddFile` returns nothing. -/
inductive FsReply
  | data (r : Except FsError Bytes)
  | info (r : Except FsError FileInfo)
  | bool (b : Bool)
  | error (e : Option FsError)
  | unit
  | bytesMap (m : GoMap Bytes)
  | flagMap (m : GoMap Bool)

namespace DryRunFileSystem
variable (host : HostFs)

/-- One call: its reply and the state after it. -/
def call (fs : DryRunFileSystem) : FsCall → FsReply × DryRunFileSystem
  | .readFile p => (.data (fs.readFile host p), fs)
  | .writeFile p d => (.error none, fs.writeFile p d)
  | .stat p => (.info (fs.stat host p), fs)
  | .exists p => (.bool (fs.exists host p), fs)
  | .remove p => (.error none, fs.remove p)
  | .mkdirAll p => (.error none, fs.mkdirAll p)
  | .addFile p d => (.unit, fs.addFile p d)
  | .getWrittenFiles => (.bytesMap fs.getWrittenFiles, fs)
  | .getCreatedFiles => (.flagMap fs.getCreatedFiles, fs)
  | .getRemovedFiles => (.flagMap fs.getRemovedFiles, fs)
  | .getCreatedDirs => (.flagMap fs.getCreatedDirs, fs)

/-- The state after a sequence of calls. -/
def replay (fs : DryRunFileSystem) (calls : List FsCall) : DryRunFileSystem :=
  calls.foldl (fun fs c => (fs.call host c).2) fs

theorem replay_append_single (fs : DryRunFileSystem) (calls : List FsCall) (c : FsCall) :
    replay host fs (calls ++ [c]) = ((replay host fs calls).call host c).2 := by
  simp [replay, List.foldl_append]

end DryRunFileSystem

end HomelabHorizon.System
