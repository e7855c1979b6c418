import HomelabHorizon.Go.Slice
import HomelabHorizon.System.FileSystem

/-! # The dry-run filesystem's contents as the Go slices they are

`DryRunFileSystem` keeps file contents as the `[]byte` values its callers hand
it: `WriteFile` and `AddFile` store the caller's slice, and `ReadFile` hands
the stored slice back.  `GetWrittenFiles` copies the map but not the bytes.
`SliceFileSystem` is the overlay with its contents kept that way, in a heap of
byte arrays that it shares with its callers.

Read out of memory (`toValue`), it is the value model `DryRunFileSystem`, as
long as each caller hands it a new buffer (`sliceFs_refines`).  What the value
model cannot say is that the bytes are shared.  Later calls only make new
arrays (`call_heap_extends`), and leave a path's stored slice in place until the
path is written again (`replay_keeps`).  So a write through the slice a caller
passed to `WriteFile` changes what every later `ReadFile` of that path returns,
until the next `WriteFile` of it, and what a map `GetWrittenFiles` returned
earlier shows (`written_bytes_shared`).
-/
namespace HomelabHorizon.System

/-- The dry-run overlay with its contents in memory. -/
structure SliceFileSystem where
  heap : Heap UInt8
  files : GoMap Slice
  written : GoMap Slice
  created : GoMap Bool
  removed : GoMap Bool
  mkdirs : GoMap Bool

/-- `NewDryRunFileSystem`, in the heap `h`. -/
def newSliceFileSystem (h : Heap UInt8) : SliceFileSystem := ⟨h, ∅, ∅, ∅, ∅, ∅⟩

namespace SliceFileSystem
variable (fs : SliceFileSystem) (host : HostFs)

/-- The overlay as the value model sees it: every stored slice read out of memory. -/
def toValue : DryRunFileSystem :=
  ⟨fs.files.mapValues (Slice.view fs.heap), fs.written.mapValues (Slice.view fs.heap), fs.created,
    fs.removed, fs.mkdirs⟩

/-- `os.ReadFile`: the host's file in a new slice. -/
def osReadFile (path : String) : Except FsError Slice × Heap UInt8 :=
  match System.osReadFile host path with
  | .ok data => (.ok (Slice.ofList fs.heap data).2, (Slice.ofList fs.heap data).1)
  | .error e => (.error e, fs.heap)

/-- `ReadFile`: the stored slice itself, the shadow write's else the seeded
file's, else the host's file in a new slice. -/
def readFile (path : String) : Except FsError Slice × SliceFileSystem :=
  match fs.written.lookup path with
  | some data => (.ok data, fs)
  | none =>
    match fs.files.lookup path with
    | some data => (.ok data, fs)
    | none => ((fs.osReadFile host path).1, { fs with heap := (fs.osReadFile host path).2 })

/-- `Stat` reads which paths the maps hold, never the bytes. -/
def stat (path : String) : Except FsError FileInfo := fs.toValue.stat host path

/-- `Exists`, likewise. -/
def «exists» (path : String) : Bool := fs.toValue.exists host path

/-- `WriteFile` stores the caller's slice. -/
def writeFile (path : String) (data : Slice) : SliceFileSystem :=
  { fs with written := fs.written.insert path data }

/-- `Remove`. -/
def remove (path : String) : SliceFileSystem := { fs with removed := fs.removed.insert path true }

/-- `MkdirAll`. -/
def mkdirAll (path : String) : SliceFileSystem := { fs with mkdirs := fs.mkdirs.insert path true }

/-- `AddFile` stores the caller's slice. -/
def addFile (path : String) (data : Slice) : SliceFileSystem :=
  { fs with files := fs.files.insert path data }

/-- `GetWrittenFiles`: a new map holding the stored slices. -/
def getWrittenFiles : GoMap Slice := GoMap.copy fs.written

/-- A caller's `[]byte(…)`: a new slice holding `data`. -/
def callerBytes (data : Bytes) : Slice × SliceFileSystem :=
  ((Slice.ofList fs.heap data).2, { fs with heap := (Slice.ofList fs.heap data).1 })

/-- A caller's `s[i] = b` through a byte slice it holds. -/
def callerSet (s : Slice) (i : Nat) (b : UInt8) : Option SliceFileSystem :=
  (s.set fs.heap i b).map fun heap => { fs with heap }

end SliceFileSystem

/-! ## Calls and replies -/

/-- What a call returns: a byte slice, a map of byte slices, or a reply that
holds neither. -/
inductive SliceFsReply
  | data (r : Except FsError Slice)
  | bytesMap (m : GoMap Slice)
  | reply (r : FsReply)

/-- The reply as the caller reads it in the heap `h`. -/
def SliceFsReply.read (h : Heap UInt8) : SliceFsReply → FsReply
  | .data r => .data (r.map (Slice.view h))
  | .bytesMap m => .bytesMap (m.mapValues (Slice.view h))
  | .reply r => r

namespace SliceFileSystem
variable (host : HostFs)

/-- One call, made by a caller that hands `WriteFile` and `AddFile` a new
buffer holding the data. -/
def call (fs : SliceFileSystem) : FsCall → SliceFsReply × SliceFileSystem
  | .readFile p => let (r, fs) := fs.readFile host p; (.data r, fs)
  | .writeFile p d => let (s, fs) := fs.callerBytes d; (.reply (.error none), fs.writeFile p s)
  | .stat p => (.reply (.info (fs.stat host p)), fs)
  | .exists p => (.reply (.bool (fs.exists host p)), fs)
  | .remove p => (.reply (.error none), fs.remove p)
  | .mkdirAll p => (.reply (.error none), fs.mkdirAll p)
  | .addFile p d => let (s, fs) := fs.callerBytes d; (.reply .unit, fs.addFile p s)
  | .getWrittenFiles => (.bytesMap fs.getWrittenFiles, fs)
  | .getCreatedFiles => (.reply (.flagMap fs.toValue.getCreatedFiles), fs)
  | .getRemovedFiles => (.reply (.flagMap fs.toValue.getRemovedFiles), fs)
  | .getCreatedDirs => (.reply (.flagMap fs.toValue.getCreatedDirs), fs)

/-- The state after a sequence of calls. -/
def replay (fs : SliceFileSystem) (calls : List FsCall) : SliceFileSystem :=
  calls.foldl (fun fs c => (fs.call host c).2) fs

/-! ## Stored slices stay in bounds -/

/-- Every stored slice is in bounds. -/
structure Valid (fs : SliceFileSystem) : Prop where
  files : ∀ p s, fs.files.lookup p = some s → s.InBounds fs.heap
  written : ∀ p s, fs.written.lookup p = some s → s.InBounds fs.heap

variable {fs : SliceFileSystem}

theorem valid_new (h : Heap UInt8) : Valid (newSliceFileSystem h) :=
  ⟨fun _ _ hs => absurd hs (by simp [newSliceFileSystem]),
    fun _ _ hs => absurd hs (by simp [newSliceFileSystem])⟩

/-- A map whose slices are all in bounds after an insert of one that is. -/
theorem inBounds_insert {h : Heap UInt8} {m : GoMap Slice}
    (hm : ∀ p s, m.lookup p = some s → s.InBounds h) {q : String} {t : Slice} (ht : t.InBounds h) :
    ∀ p s, (m.insert q t).lookup p = some s → s.InBounds h := by
  intro p s hs
  by_cases hpq : p = q
  · subst hpq
    rw [AList.lookup_insert, Option.some.injEq] at hs
    exact hs ▸ ht
  · rw [AList.lookup_insert_ne hpq] at hs
    exact hm p s hs

/-- A new array leaves every slice in bounds, and every value read the same. -/
theorem Valid.alloc (hv : Valid fs) (arr : Bytes) :
    Valid { fs with heap := fs.heap.alloc arr } ∧
      ({ fs with heap := fs.heap.alloc arr } : SliceFileSystem).toValue = fs.toValue := by
  refine ⟨⟨fun p s hs => (hv.files p s hs).alloc arr, fun p s hs => (hv.written p s hs).alloc arr⟩,
    ?_⟩
  simp only [toValue, DryRunFileSystem.mk.injEq, and_true]
  exact ⟨GoMap.mapValues_congr _ _ fun p s hs => Slice.view_alloc (hv.files p s hs).arr_lt arr,
    GoMap.mapValues_congr _ _ fun p s hs => Slice.view_alloc (hv.written p s hs).arr_lt arr⟩

/-- **One call, read right after it, is one call of the value model.** -/
theorem Valid.call (hv : Valid fs) (c : FsCall) :
    Valid (fs.call host c).2 ∧
      (fs.call host c).1.read (fs.call host c).2.heap = (fs.toValue.call host c).1 ∧
      (fs.call host c).2.toValue = (fs.toValue.call host c).2 := by
  cases c with
  | readFile p =>
    simp only [SliceFileSystem.call, readFile, DryRunFileSystem.call, DryRunFileSystem.readFile, toValue,
      GoMap.lookup_mapValues]
    cases hw : fs.written.lookup p with
    | some s => exact ⟨hv, rfl, rfl⟩
    | none =>
      cases hf : fs.files.lookup p with
      | some s => exact ⟨hv, rfl, rfl⟩
      | none =>
        simp only [Option.map_none']
        unfold osReadFile
        cases hr : System.osReadFile host p with
        | error e => exact ⟨hv, rfl, rfl⟩
        | ok data =>
          obtain ⟨hv', hval⟩ := hv.alloc data
          exact ⟨hv', by simp only [SliceFsReply.read, Except.map, Slice.view_ofList], hval⟩
  | writeFile p d =>
    obtain ⟨hv', hval⟩ := hv.alloc d
    refine ⟨⟨hv'.files, inBounds_insert hv'.written (Slice.inBounds_ofList fs.heap d)⟩, rfl, ?_⟩
    simp only [SliceFileSystem.call, callerBytes, writeFile, DryRunFileSystem.call, DryRunFileSystem.writeFile]
    rw [← hval]
    simp only [toValue, GoMap.mapValues_insert, Slice.view_ofList]
    rfl
  | addFile p d =>
    obtain ⟨hv', hval⟩ := hv.alloc d
    refine ⟨⟨inBounds_insert hv'.files (Slice.inBounds_ofList fs.heap d), hv'.written⟩, rfl, ?_⟩
    simp only [SliceFileSystem.call, callerBytes, addFile, DryRunFileSystem.call, DryRunFileSystem.addFile]
    rw [← hval]
    simp only [toValue, GoMap.mapValues_insert, Slice.view_ofList]
    rfl
  | getWrittenFiles =>
    exact ⟨hv, by simp only [SliceFileSystem.call, SliceFsReply.read, getWrittenFiles, GoMap.copy_mapValues]; rfl, rfl⟩
  | remove p | mkdirAll p => exact ⟨⟨hv.files, hv.written⟩, rfl, rfl⟩
  | stat p | «exists» p | getCreatedFiles | getRemovedFiles | getCreatedDirs => exact ⟨hv, rfl, rfl⟩

theorem replay_toValue (calls : List FsCall) :
    ∀ {fs : SliceFileSystem}, Valid fs →
      Valid (fs.replay host calls) ∧ (fs.replay host calls).toValue = fs.toValue.replay host calls := by
  induction calls with
  | nil => intro fs hv; exact ⟨hv, rfl⟩
  | cons c calls ih =>
    intro fs hv
    obtain ⟨hv', -, hval⟩ := hv.call host c
    obtain ⟨hvr, hr⟩ := ih hv'
    exact ⟨hvr, hr.trans (by rw [hval]; rfl)⟩

end SliceFileSystem

/-- **The overlay over Go byte slices is the value model**, for callers that
hand each call a new buffer.  After any calls, it reads out of memory as
`DryRunFileSystem` after the same calls, and the reply to any further call,
read right after it, is that model's reply. -/
theorem sliceFs_refines (h : Heap UInt8) (host : HostFs) (calls : List FsCall) (c : FsCall) :
    let fs := (newSliceFileSystem h).replay host calls
    fs.toValue = newDryRunFileSystem.replay host calls ∧
      (fs.call host c).1.read (fs.call host c).2.heap =
        ((newDryRunFileSystem.replay host calls).call host c).1 := by
  intro fs
  obtain ⟨hv, hval⟩ := SliceFileSystem.replay_toValue host calls (SliceFileSystem.valid_new h)
  have hnew : (newSliceFileSystem h).toValue = newDryRunFileSystem := rfl
  rw [hnew] at hval
  exact ⟨hval, by rw [(hv.call host c).2.1, hval]⟩

/-! ## What later calls leave of a stored slice -/

namespace SliceFileSystem
variable (host : HostFs)

/-- A call only makes arrays: those made before it keep their contents. -/
theorem call_heap_extends (fs : SliceFileSystem) (c : FsCall) :
    fs.heap.Extends (fs.call host c).2.heap := by
  cases c with
  | readFile p =>
    show fs.heap.Extends (fs.readFile host p).2.heap
    unfold readFile osReadFile
    split
    · exact .refl
    · split
      · exact .refl
      · split
        · exact Heap.Extends.refl.alloc _
        · exact .refl
  | writeFile p d | addFile p d => exact Heap.Extends.refl.alloc d
  | stat p | «exists» p | remove p | mkdirAll p | getWrittenFiles | getCreatedFiles
    | getRemovedFiles | getCreatedDirs => exact .refl

/-- A call other than `WriteFile(p, …)` keeps the slice stored for `p`. -/
theorem call_written_lookup (fs : SliceFileSystem) {c : FsCall} {p : String}
    (hc : ∀ d, c ≠ .writeFile p d) : (fs.call host c).2.written.lookup p = fs.written.lookup p := by
  cases c with
  | writeFile q d => exact AList.lookup_insert_ne fun h => hc d (by rw [h])
  | readFile q =>
    show (fs.readFile host q).2.written.lookup p = _
    unfold readFile
    split
    · rfl
    · split <;> rfl
  | stat q | «exists» q | remove q | mkdirAll q | addFile q d | getWrittenFiles
    | getCreatedFiles | getRemovedFiles | getCreatedDirs => rfl

/-- Calls that do not write `p` keep the slice stored for `p`, and every array
made before them. -/
theorem replay_keeps (p : String) (more : List FsCall) (hmore : ∀ d, FsCall.writeFile p d ∉ more) :
    ∀ fs : SliceFileSystem, fs.heap.Extends (fs.replay host more).heap ∧
      (fs.replay host more).written.lookup p = fs.written.lookup p := by
  induction more with
  | nil => intro fs; exact ⟨.refl, rfl⟩
  | cons c more ih =>
    intro fs
    have hc : ∀ d, c ≠ .writeFile p d := fun d h => hmore d (h ▸ List.mem_cons_self _ _)
    obtain ⟨he, hw⟩ := ih (fun d hd => hmore d (List.mem_cons_of_mem _ hd)) (fs.call host c).2
    exact ⟨(fs.call_heap_extends host c).trans he, hw.trans (fs.call_written_lookup host hc)⟩

end SliceFileSystem

/-- **The overlay keeps its callers' bytes, not copies.**  From any state,
after `WriteFile(p, s)`, `ReadFile(p)` returns `s` itself and the map
`GetWrittenFiles` returns holds `s` itself.  A write `s[i] = b` through it, by
whoever holds it, changes what `ReadFile(p)` returns after any later calls that
do not write `p` again, and what that earlier map shows after them. -/
theorem written_bytes_shared (host : HostFs) (fs : SliceFileSystem) (p : String) (s : Slice)
    (hs : s.InBounds fs.heap) (i : Nat) (b : UInt8) (hi : i < s.len) :
    let fs1 := fs.writeFile p s
    (fs1.readFile host p).1 = .ok s ∧ fs1.getWrittenFiles.lookup p = some s ∧
      ∃ fs2, fs1.callerSet s i b = some fs2 ∧
        ∀ more : List FsCall, (∀ d, FsCall.writeFile p d ∉ more) →
          let fs3 := fs2.replay host more
          (fs3.call host (.readFile p)).1.read (fs3.call host (.readFile p)).2.heap =
              .data (.ok ((s.view fs.heap).set i b)) ∧
            (fs1.getWrittenFiles.lookup p).map (Slice.view fs3.heap) =
              some ((s.view fs.heap).set i b) := by
  intro fs1
  have hw : fs1.written.lookup p = some s := AList.lookup_insert _
  have hset : s.set fs.heap i b = some (fs.heap.store s.arr (s.off + i) b) := if_pos hi
  have hv := Slice.view_set (h := fs.heap) hi b
  rw [hset, Option.map_some', Option.some.injEq] at hv
  refine ⟨by simp only [SliceFileSystem.readFile, hw], by
    rw [SliceFileSystem.getWrittenFiles, GoMap.lookup_copy, hw],
    { fs1 with heap := fs.heap.store s.arr (s.off + i) b }, by
    show (s.set fs.heap i b).map _ = _
    rw [hset, Option.map_some'], fun more hmore => ?_⟩
  -- later calls keep `s` stored for `p` and only add arrays, so `s` shows the caller's write
  intro fs3
  obtain ⟨he, hw3⟩ := SliceFileSystem.replay_keeps host p more hmore
    { fs1 with heap := fs.heap.store s.arr (s.off + i) b }
  have hw3 : fs3.written.lookup p = some s := hw3.trans hw
  have hv3 : s.view fs3.heap = (s.view fs.heap).set i b :=
    (Slice.view_extends (by exact hs.arr_lt) he).trans hv
  refine ⟨?_, by rw [SliceFileSystem.getWrittenFiles, GoMap.lookup_copy, hw, Option.map_some', hv3]⟩
  simp only [SliceFileSystem.call, SliceFileSystem.readFile, hw3, SliceFsReply.read, Except.map, hv3]

/-- The config written from a caller's buffer `[10, 20]`; the caller then sets
its first byte to 99, and after a `Remove` and an `AddFile` of the config and a
read of another file, `ReadFile` of the config returns `[99, 20]`. -/
theorem written_config_bytes_shared :
    let host : HostFs := fun _ => none
    let fs0 := newSliceFileSystem ⟨fun _ => [], 0⟩
    let s := (fs0.callerBytes [10, 20]).1
    let fs := (fs0.callerBytes [10, 20]).2
    let more : List FsCall := [.remove "/etc/wireguard/wg0.conf",
      .addFile "/etc/wireguard/wg0.conf" [1], .readFile "/etc/hosts"]
    s.InBounds fs.heap ∧ 0 < s.len ∧ (∀ d, FsCall.writeFile "/etc/wireguard/wg0.conf" d ∉ more) ∧
      ∃ fs2, (fs.writeFile "/etc/wireguard/wg0.conf" s).callerSet s 0 99 = some fs2 ∧
        ((fs2.replay host more).call host (.readFile "/etc/wireguard/wg0.conf")).1.read
            ((fs2.replay host more).call host (.readFile "/etc/wireguard/wg0.conf")).2.heap =
          .data (.ok [99, 20]) := by
  intro host fs0 s fs more
  have hs : s.InBounds fs.heap := Slice.inBounds_ofList _ _
  have hi : 0 < s.len := by decide
  have hmore : ∀ d, FsCall.writeFile "/etc/wireguard/wg0.conf" d ∉ more := by simp [more]
  obtain ⟨-, -, fs2, hset, hlater⟩ :=
    written_bytes_shared host fs "/etc/wireguard/wg0.conf" s hs 0 99 hi
  exact ⟨hs, hi, hmore, fs2, hset, (hlater more hmore).1.trans rfl⟩

end HomelabHorizon.System
