import HomelabHorizon.System.FileSystem

/-! # What the dry-run filesystem records, and what it answers

The overlay's maps are a function of the calls made on it: the shadow writes are
the last `WriteFile` on each path, the seeds the last `AddFile`, the removals
and the directories the paths ever passed to `Remove` and `MkdirAll`
(`Records`, kept by every call, `records_replay`).  The `created` map is
consulted by `Stat` and `Exists` but no method ever adds to it, so it stays
empty.

Two consequences.  The accessors report exactly the recorded calls, and the
calls that do not record leave them alone (`getters_record_calls`).  The
queries answer from the overlay as the design reads it (`queries_overlay`):
`ReadFile` sees the last write, then the last seed, then the host; `Exists` and
`Stat` see the seeds and the made directories, then the host.  `Remove` is
consulted by no query and `MkdirAll` marks the one path it is given, so the
overlay is not the filesystem the recorded calls would have produced on the
host (`remove_and_mkdirAll_not_applied`).  Nor do `Stat` and `Exists` see a
shadow write: a path that was only written reads back, yet does not exist
(`written_path_reads_but_not_exists`).
-/
namespace HomelabHorizon.System

/-! ## The calls, path by path -/

namespace FsCall

/-- The data the call writes to `p`, when it is a `WriteFile` on `p`. -/
def writeTo (p : String) : FsCall → Option Bytes
  | .writeFile q d => if q = p then some d else none
  | _ => none

/-- The data the call seeds at `p`, when it is an `AddFile` on `p`. -/
def seedAt (p : String) : FsCall → Option Bytes
  | .addFile q d => if q = p then some d else none
  | _ => none

/-- `WriteFile`, `Remove` and `MkdirAll`: the calls the accessors report. -/
def records : FsCall → Bool
  | .writeFile .. | .remove _ | .mkdirAll _ => true
  | _ => false

end FsCall

/-- The data of the last `WriteFile` on `p`. -/
def lastWritten (calls : List FsCall) (p : String) : Option Bytes :=
  (calls.filterMap (FsCall.writeTo p)).getLast?

/-- The data of the last `AddFile` on `p`. -/
def lastSeeded (calls : List FsCall) (p : String) : Option Bytes :=
  (calls.filterMap (FsCall.seedAt p)).getLast?

/-- A Go set `map[string]bool` read at a key: `true` for a member, absent otherwise. -/
def setEntry (member : Prop) [Decidable member] : Option Bool := if member then some true else none

theorem lastWritten_snoc (calls : List FsCall) (c : FsCall) (p : String) :
    lastWritten (calls ++ [c]) p = (c.writeTo p).or (lastWritten calls p) := by
  cases h : c.writeTo p <;> simp [lastWritten, h]

theorem lastSeeded_snoc (calls : List FsCall) (c : FsCall) (p : String) :
    lastSeeded (calls ++ [c]) p = (c.seedAt p).or (lastSeeded calls p) := by
  cases h : c.seedAt p <;> simp [lastSeeded, h]

/-! ## One call -/

namespace DryRunFileSystem
variable (host : HostFs) (fs : DryRunFileSystem)

theorem call_written (c : FsCall) (p : String) :
    (fs.call host c).2.written.lookup p = (c.writeTo p).or (fs.written.lookup p) := by
  cases c <;> simp only [call, writeFile, remove, mkdirAll, addFile, FsCall.writeTo,
    Option.none_or]
  rename_i q d
  by_cases h : q = p
  · subst h; simp
  · simp [h, AList.lookup_insert_ne (Ne.symm h)]

theorem call_files (c : FsCall) (p : String) :
    (fs.call host c).2.files.lookup p = (c.seedAt p).or (fs.files.lookup p) := by
  cases c <;> simp only [call, writeFile, remove, mkdirAll, addFile, FsCall.seedAt,
    Option.none_or]
  rename_i q d
  by_cases h : q = p
  · subst h; simp
  · simp [h, AList.lookup_insert_ne (Ne.symm h)]

theorem call_created (c : FsCall) : (fs.call host c).2.created = fs.created := by
  cases c <;> rfl

theorem call_removed (c : FsCall) (p : String) :
    (fs.call host c).2.removed.lookup p =
      if c = .remove p then some true else fs.removed.lookup p := by
  cases c <;> simp only [call, writeFile, remove, mkdirAll, addFile, reduceCtorEq, if_false]
  rename_i q
  by_cases h : p = q
  · subst h; simp
  · simp [h, Ne.symm h]

theorem call_mkdirs (c : FsCall) (p : String) :
    (fs.call host c).2.mkdirs.lookup p =
      if c = .mkdirAll p then some true else fs.mkdirs.lookup p := by
  cases c <;> simp only [call, writeFile, remove, mkdirAll, addFile, reduceCtorEq, if_false]
  rename_i q
  by_cases h : p = q
  · subst h; simp
  · simp [h, Ne.symm h]

end DryRunFileSystem

/-! ## Every run -/

/-- **The overlay holds exactly what the calls recorded.** -/
structure Records (fs : DryRunFileSystem) (calls : List FsCall) : Prop where
  written : ∀ p, fs.written.lookup p = lastWritten calls p
  files : ∀ p, fs.files.lookup p = lastSeeded calls p
  created : fs.created = ∅
  removed : ∀ p, fs.removed.lookup p = setEntry (FsCall.remove p ∈ calls)
  mkdirs : ∀ p, fs.mkdirs.lookup p = setEntry (FsCall.mkdirAll p ∈ calls)

theorem records_new : Records newDryRunFileSystem [] :=
  ⟨fun _ => rfl, fun _ => rfl, rfl, fun _ => rfl, fun _ => rfl⟩

theorem records_call {host : HostFs} {fs : DryRunFileSystem} {calls : List FsCall}
    (h : Records fs calls) (c : FsCall) : Records (fs.call host c).2 (calls ++ [c]) where
  written p := by rw [fs.call_written, h.written, lastWritten_snoc]
  files p := by rw [fs.call_files, h.files, lastSeeded_snoc]
  created := by rw [fs.call_created, h.created]
  removed p := by
    rw [fs.call_removed, h.removed]
    by_cases hc : c = .remove p <;> simp [setEntry, hc, eq_comm]
  mkdirs p := by
    rw [fs.call_mkdirs, h.mkdirs]
    by_cases hc : c = .mkdirAll p <;> simp [setEntry, hc, eq_comm]

theorem records_replay (host : HostFs) (calls : List FsCall) :
    Records (newDryRunFileSystem.replay host calls) calls := by
  induction calls using List.reverseRecOn with
  | nil => exact records_new
  | append_singleton calls c ih =>
    rw [DryRunFileSystem.replay_append_single]
    exact records_call ih c

/-! ## The accessors -/

namespace DryRunFileSystem
variable (host : HostFs) (fs : DryRunFileSystem)

/-- Calls that do not record leave the recording maps as they were. -/
theorem call_frame {c : FsCall} (hc : c.records = false) :
    (fs.call host c).2.written = fs.written ∧ (fs.call host c).2.removed = fs.removed ∧
      (fs.call host c).2.mkdirs = fs.mkdirs := by
  cases c <;> simp_all [FsCall.records, call]

end DryRunFileSystem

/-- **The accessors report exactly the recorded calls**: each written path with
its last data, each path passed to `MkdirAll`, each path passed to `Remove`;
and reads, seeds and the accessors themselves change none of the three. -/
theorem getters_record_calls (host : HostFs) (calls : List FsCall) :
    let fs := newDryRunFileSystem.replay host calls
    (∀ p, fs.getWrittenFiles.lookup p = lastWritten calls p) ∧
    (∀ p, fs.getCreatedDirs.lookup p = setEntry (FsCall.mkdirAll p ∈ calls)) ∧
    (∀ p, fs.getRemovedFiles.lookup p = setEntry (FsCall.remove p ∈ calls)) ∧
    ∀ c, c.records = false →
      (fs.call host c).2.getWrittenFiles = fs.getWrittenFiles ∧
      (fs.call host c).2.getCreatedDirs = fs.getCreatedDirs ∧
      (fs.call host c).2.getRemovedFiles = fs.getRemovedFiles := by
  intro fs
  have h := records_replay host calls
  refine ⟨fun p => ?_, fun p => ?_, fun p => ?_, fun c hc => ?_⟩
  · rw [DryRunFileSystem.getWrittenFiles, GoMap.lookup_copy, h.written]
  · rw [DryRunFileSystem.getCreatedDirs, GoMap.lookup_copy, h.mkdirs]
  · rw [DryRunFileSystem.getRemovedFiles, GoMap.lookup_copy, h.removed]
  · obtain ⟨hw, hr, hm⟩ := fs.call_frame host hc
    simp only [DryRunFileSystem.getWrittenFiles, DryRunFileSystem.getCreatedDirs,
      DryRunFileSystem.getRemovedFiles, hw, hr, hm, and_self]

/-- No call adds to `created`: `GetCreatedFiles` is empty after every run. -/
theorem getCreatedFiles_empty (host : HostFs) (calls : List FsCall) :
    (newDryRunFileSystem.replay host calls).getCreatedFiles = ∅ := by
  rw [DryRunFileSystem.getCreatedFiles, (records_replay host calls).created, GoMap.copy_empty]

/-! ## The queries -/

/-- What a reader of the overlay sees at `p`: the last write, else the last
seed, else the host's file. -/
def shownData (host : HostFs) (calls : List FsCall) (p : String) : Except FsError Bytes :=
  match (lastWritten calls p).or (lastSeeded calls p) with
  | some d => .ok d
  | none => osReadFile host p

namespace Records
variable {fs : DryRunFileSystem} {calls : List FsCall} (h : Records fs calls) (p : String)
include h

theorem mem_files : p ∈ fs.files ↔ (lastSeeded calls p).isSome := by
  rw [← AList.lookup_isSome, h.files]

theorem mem_mkdirs : p ∈ fs.mkdirs ↔ FsCall.mkdirAll p ∈ calls := by
  rw [← AList.lookup_isSome, h.mkdirs]
  by_cases hm : FsCall.mkdirAll p ∈ calls <;> simp [setEntry, hm]

theorem not_mem_created : p ∉ fs.created := by
  rw [h.created]
  exact AList.not_mem_empty p

theorem readFile_eq (host : HostFs) : fs.readFile host p = shownData host calls p := by
  unfold DryRunFileSystem.readFile shownData
  rw [h.written, h.files]
  cases lastWritten calls p <;> rfl

theorem exists_iff (host : HostFs) :
    fs.exists host p = true ↔
      (lastSeeded calls p).isSome ∨ FsCall.mkdirAll p ∈ calls ∨ (host p).isSome := by
  unfold DryRunFileSystem.exists osStat
  simp only [h.mem_files, h.mem_mkdirs, h.not_mem_created, if_false]
  split_ifs <;> cases host p <;> simp_all

theorem stat_eq (host : HostFs) :
    fs.stat host p =
      if (lastSeeded calls p).isSome then .ok (.mock ⟨p, false⟩)
      else if FsCall.mkdirAll p ∈ calls then .ok (.mock ⟨p, true⟩)
      else osStat host p := by
  unfold DryRunFileSystem.stat
  simp only [h.mem_files, h.mem_mkdirs, h.not_mem_created, if_false]

theorem stat_isDir (host : HostFs) {fi : FileInfo} (hs : fs.stat host p = .ok fi) :
    fi.isDir = true ↔
      lastSeeded calls p = none ∧ (FsCall.mkdirAll p ∈ calls ∨ host p = some .dir) := by
  unfold DryRunFileSystem.stat osStat at hs
  simp only [h.mem_files, h.mem_mkdirs, h.not_mem_created, if_false] at hs
  rcases hsd : lastSeeded calls p with _ | d
  · by_cases hm : FsCall.mkdirAll p ∈ calls
    · simp only [hsd, hm, Option.isSome_none, Bool.false_eq_true, if_true, if_false,
        Except.ok.injEq] at hs
      subst hs
      simp [FileInfo.isDir, hm]
    · cases hh : host p with
      | none => simp [hsd, hm, hh] at hs
      | some n =>
        simp only [hsd, hm, hh, Option.isSome_none, Bool.false_eq_true, if_false,
          Except.ok.injEq] at hs
        subst hs
        cases n <;> simp [FileInfo.isDir, Node.isDir, hm]
  · simp only [hsd, Option.isSome_some, if_true, Except.ok.injEq] at hs
    subst hs
    simp [FileInfo.isDir]

end Records

namespace DryRunFileSystem
variable (host : HostFs) (fs : DryRunFileSystem) (p : String)

/-- `Stat` succeeds exactly where `Exists` says yes, in every state. -/
theorem stat_ok_iff_exists : (∃ fi, fs.stat host p = .ok fi) ↔ fs.exists host p = true := by
  unfold stat «exists» osStat
  split_ifs <;> cases host p <;> simp

end DryRunFileSystem

/-- **What the dry-run filesystem answers, after any calls.**  `ReadFile` shows
the last write, else the last seed, else the host's file.  `Stat` succeeds
exactly where `Exists` holds, and reports a directory for a made, unseeded path
and otherwise as the host does.  A seeded or made path exists; a path never
written exists exactly when it was seeded, made, or is on the host.  `Remove`
changes none of these answers. -/
theorem queries_overlay (host : HostFs) (calls : List FsCall) (p : String) :
    let fs := newDryRunFileSystem.replay host calls
    fs.readFile host p = shownData host calls p ∧
    ((∃ fi, fs.stat host p = .ok fi) ↔ fs.exists host p = true) ∧
    (∀ fi, fs.stat host p = .ok fi → (fi.isDir = true ↔
      lastSeeded calls p = none ∧ (FsCall.mkdirAll p ∈ calls ∨ host p = some .dir))) ∧
    ((lastSeeded calls p).isSome ∨ FsCall.mkdirAll p ∈ calls → fs.exists host p = true) ∧
    (lastWritten calls p = none → (fs.exists host p = true ↔
      (lastSeeded calls p).isSome ∨ FsCall.mkdirAll p ∈ calls ∨ (host p).isSome)) := by
  intro fs
  have h := records_replay host calls
  exact ⟨h.readFile_eq p host, fs.stat_ok_iff_exists host p, fun _ => h.stat_isDir p host,
    fun hr => (h.exists_iff p host).mpr (hr.elim Or.inl (Or.inr ∘ Or.inl)),
    fun _ => h.exists_iff p host⟩

/-- A seeded file passed to `Remove` still reads and exists, and `MkdirAll`
does not make the parent of the path it is given. -/
theorem remove_and_mkdirAll_not_applied :
    let host : HostFs := fun _ => none
    let fs := newDryRunFileSystem.replay host
      [.addFile "/etc/wireguard/wg0.conf" [10], .remove "/etc/wireguard/wg0.conf",
        .mkdirAll "/srv/acme/certs"]
    fs.readFile host "/etc/wireguard/wg0.conf" = .ok [10] ∧
      fs.exists host "/etc/wireguard/wg0.conf" = true ∧
      fs.exists host "/srv/acme" = false :=
  ⟨rfl, rfl, rfl⟩

/-- **A shadow write is read but not seen.**  After any calls, a path that was
written but never seeded nor made, and that the host lacks, reads back the
last data written to it, yet `Exists` denies it and `Stat` fails: `WriteFile`
records nothing in the `created` map those two consult. -/
theorem written_path_reads_but_not_exists (host : HostFs) (calls : List FsCall) (p : String)
    (d : Bytes) (hw : lastWritten calls p = some d) (hs : lastSeeded calls p = none)
    (hm : FsCall.mkdirAll p ∉ calls) (hh : host p = none) :
    let fs := newDryRunFileSystem.replay host calls
    fs.readFile host p = .ok d ∧ fs.exists host p = false ∧
      fs.stat host p = .error (.notExist p) := by
  intro fs
  have h := records_replay host calls
  refine ⟨?_, ?_, ?_⟩
  · rw [h.readFile_eq p host, shownData, hw]
    rfl
  · rw [Bool.eq_false_iff, ne_eq, h.exists_iff p host, hs, hh]
    simp [hm]
  · rw [h.stat_eq p host, hs]
    simp [hm, osStat, hh]

/-- A config written in preview mode reads back, but does not exist. -/
theorem written_config_not_exists :
    let host : HostFs := fun _ => none
    let calls : List FsCall := [.writeFile "/etc/wireguard/wg0.conf" [1]]
    lastWritten calls "/etc/wireguard/wg0.conf" = some [1] ∧
      lastSeeded calls "/etc/wireguard/wg0.conf" = none ∧
      FsCall.mkdirAll "/etc/wireguard/wg0.conf" ∉ calls ∧ host "/etc/wireguard/wg0.conf" = none ∧
      (newDryRunFileSystem.replay host calls).exists host "/etc/wireguard/wg0.conf" = false := by
  intro host calls
  have hm : FsCall.mkdirAll "/etc/wireguard/wg0.conf" ∉ calls := by decide
  exact ⟨rfl, rfl, hm, rfl,
    (written_path_reads_but_not_exists host calls "/etc/wireguard/wg0.conf" [1] rfl rfl hm rfl).2.1⟩

end HomelabHorizon.System
