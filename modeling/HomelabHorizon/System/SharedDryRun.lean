import HomelabHorizon.System.DryRunRecords
import HomelabHorizon.System.CommandLog

/-! # One dry run shared by two goroutines

Tests share one `DryRunFileSystem` or `DryRunCommandRunner` between goroutines.
The instance's mutex lets their calls through one at a time, in an order the
scheduler picks: an `Interleaving` of the two call sequences.

What the overlay answers at a path depends only on the history of that path
(`answers_of_agree`), and the table entry of a command line only on the
registrations of that line.  The calls on a key that only one goroutine writes
keep their order in every interleaving.  So when the two goroutines never write,
seed or register the same key, every interleaving ends where one goroutine
running after the other ends: the overlay answers the same
(`interleaved_fs_as_sequential`), and so does every command
(`interleaved_replies_as_sequential`).  Whatever the keys, each path and each
command line answers as after one of the two orders, the one whose write (or
registration) of that key comes last (`interleaved_fs_some_order`,
`interleaved_replies_some_order`); the order can differ from key to key.  The
log gains every line of both goroutines once, each goroutine's lines in its own
order (`interleaved_log_keeps_every_line`).
-/
namespace HomelabHorizon.System

/-- The order to compare an interleaving with at one key: the one whose last
write the interleaving ends with, or, where nothing was written, the one whose
last seed it ends with.  Whether anything was written does not depend on the
order. -/
theorem exists_order {β γ : Type} {w wxy wyx : Option β} {s sxy syx : Option γ}
    (hw : w = wxy ∨ w = wyx) (hs : s = sxy ∨ s = syx) (hnone : wxy = none ↔ wyx = none) :
    (w = wxy ∧ (w = none → s = sxy)) ∨ (w = wyx ∧ (w = none → s = syx)) := by
  by_cases hn : w = none
  · have hxy : wxy = none := hw.elim (· ▸ hn) fun h => hnone.mpr (h ▸ hn)
    rcases hs with hs | hs
    · exact .inl ⟨hn.trans hxy.symm, fun _ => hs⟩
    · exact .inr ⟨hn.trans (hnone.mp hxy).symm, fun _ => hs⟩
  · rcases hw with hw | hw
    · exact .inl ⟨hw, (absurd · hn)⟩
    · exact .inr ⟨hw, (absurd · hn)⟩

/-! ## The filesystem -/

/-- What two call histories must share for the overlay to answer alike at `p`:
the last write, the last seed where nothing was written, whether `p` was
seeded at all, and whether it was removed or made. -/
structure AgreeAt (calls calls' : List FsCall) (p : String) : Prop where
  written : lastWritten calls p = lastWritten calls' p
  seeded : lastWritten calls p = none → lastSeeded calls p = lastSeeded calls' p
  isSeeded : (lastSeeded calls p).isSome = (lastSeeded calls' p).isSome
  removed : FsCall.remove p ∈ calls ↔ FsCall.remove p ∈ calls'
  made : FsCall.mkdirAll p ∈ calls ↔ FsCall.mkdirAll p ∈ calls'

namespace Records
variable {fs fs' : DryRunFileSystem} {calls calls' : List FsCall}

/-- **The answers at a path are a function of its history**: two overlays whose
histories agree at `p` answer every query and every accessor at `p` alike. -/
theorem answers_of_agree (h : Records fs calls) (h' : Records fs' calls') (host : HostFs)
    {p : String} (ha : AgreeAt calls calls' p) :
    fs.readFile host p = fs'.readFile host p ∧ fs.stat host p = fs'.stat host p ∧
      fs.exists host p = fs'.exists host p ∧
      fs.getWrittenFiles.lookup p = fs'.getWrittenFiles.lookup p ∧
      fs.getRemovedFiles.lookup p = fs'.getRemovedFiles.lookup p ∧
      fs.getCreatedDirs.lookup p = fs'.getCreatedDirs.lookup p := by
  refine ⟨?_, ?_, ?_, ?_, ?_, ?_⟩
  · rw [h.readFile_eq p host, h'.readFile_eq p host, shownData, shownData, ← ha.written]
    cases hw : lastWritten calls p
    · rw [ha.seeded hw]
    · rfl
  · rw [h.stat_eq p host, h'.stat_eq p host, ha.isSeeded]
    simp only [ha.made]
  · rw [Bool.eq_iff_iff, h.exists_iff p host, h'.exists_iff p host, ha.isSeeded, ha.made]
  · rw [DryRunFileSystem.getWrittenFiles, DryRunFileSystem.getWrittenFiles, GoMap.lookup_copy,
      GoMap.lookup_copy, h.written, h'.written, ha.written]
  · rw [DryRunFileSystem.getRemovedFiles, DryRunFileSystem.getRemovedFiles, GoMap.lookup_copy,
      GoMap.lookup_copy, h.removed, h'.removed]
    simp only [ha.removed]
  · rw [DryRunFileSystem.getCreatedDirs, DryRunFileSystem.getCreatedDirs, GoMap.lookup_copy,
      GoMap.lookup_copy, h.mkdirs, h'.mkdirs]
    simp only [ha.made]

end Records

/-- An interleaving agrees at `p` with one goroutine running after the other
(`first`, then `second`) as soon as it ends with the last write of that order,
and, where nothing was written, with its last seed: removals, directories and
whether anything was seeded do not depend on the order. -/
theorem agreeAt_of_order {pre zs first second : List FsCall} (hp : zs.Perm (first ++ second))
    {p : String} (hw : lastWritten (pre ++ zs) p = lastWritten (pre ++ (first ++ second)) p)
    (hs : lastWritten (pre ++ zs) p = none →
      lastSeeded (pre ++ zs) p = lastSeeded (pre ++ (first ++ second)) p) :
    AgreeAt (pre ++ zs) (pre ++ first ++ second) p where
  written := by rw [hw, List.append_assoc]
  seeded := fun hn => by rw [hs hn, List.append_assoc]
  isSeeded := by
    rw [List.append_assoc]
    exact isSome_getLast?_of_perm ((hp.append_left pre).filterMap _)
  removed := by rw [List.append_assoc]; exact (hp.append_left pre).mem_iff
  made := by rw [List.append_assoc]; exact (hp.append_left pre).mem_iff

/-- **Two goroutines on one dry-run filesystem.**  Whatever order the mutex
lets their calls through in, a path that at most one of them writes and at
most one seeds reads, stats, exists and is reported as after the first
goroutine's calls followed by the second's. -/
theorem interleaved_fs_as_sequential (host : HostFs) (pre xs ys zs : List FsCall)
    (hz : Interleaving xs ys zs) (p : String)
    (hw : lastWritten xs p = none ∨ lastWritten ys p = none)
    (hs : lastSeeded xs p = none ∨ lastSeeded ys p = none) :
    let fs := newDryRunFileSystem.replay host (pre ++ zs)
    let fs' := newDryRunFileSystem.replay host (pre ++ xs ++ ys)
    fs.readFile host p = fs'.readFile host p ∧ fs.stat host p = fs'.stat host p ∧
      fs.exists host p = fs'.exists host p ∧
      fs.getWrittenFiles.lookup p = fs'.getWrittenFiles.lookup p ∧
      fs.getRemovedFiles.lookup p = fs'.getRemovedFiles.lookup p ∧
      fs.getCreatedDirs.lookup p = fs'.getCreatedDirs.lookup p :=
  (records_replay host _).answers_of_agree (records_replay host _) host
    (agreeAt_of_order hz.perm (hz.getLast?_filterMap pre _ hw)
      fun _ => hz.getLast?_filterMap pre _ hs)

/-- **Two goroutines on one dry-run filesystem, any paths.**  Whatever order
the mutex lets their calls through in, each path reads, stats, exists and is
reported as after one goroutine's calls followed by the other's: the one whose
write of the path comes last, or, where neither wrote it, whose seed does.  The
order can differ from path to path. -/
theorem interleaved_fs_some_order (host : HostFs) (pre xs ys zs : List FsCall)
    (hz : Interleaving xs ys zs) (p : String) :
    ∃ first second : List FsCall, (first = xs ∧ second = ys ∨ first = ys ∧ second = xs) ∧
      let fs := newDryRunFileSystem.replay host (pre ++ zs)
      let fs' := newDryRunFileSystem.replay host (pre ++ first ++ second)
      fs.readFile host p = fs'.readFile host p ∧ fs.stat host p = fs'.stat host p ∧
        fs.exists host p = fs'.exists host p ∧
        fs.getWrittenFiles.lookup p = fs'.getWrittenFiles.lookup p ∧
        fs.getRemovedFiles.lookup p = fs'.getRemovedFiles.lookup p ∧
        fs.getCreatedDirs.lookup p = fs'.getCreatedDirs.lookup p := by
  have hnone : lastWritten (pre ++ (xs ++ ys)) p = none ↔
      lastWritten (pre ++ (ys ++ xs)) p = none := by
    rw [lastWritten, lastWritten, ← Option.not_isSome_iff_eq_none, ← Option.not_isSome_iff_eq_none,
      isSome_getLast?_of_perm ((List.perm_append_comm.append_left pre).filterMap _)]
  rcases exists_order (hz.getLast?_filterMap_or pre _) (hz.getLast?_filterMap_or pre _) hnone
    with ⟨hw, hs⟩ | ⟨hw, hs⟩
  · exact ⟨xs, ys, .inl ⟨rfl, rfl⟩, (records_replay host _).answers_of_agree
      (records_replay host _) host (agreeAt_of_order hz.perm hw hs)⟩
  · exact ⟨ys, xs, .inr ⟨rfl, rfl⟩, (records_replay host _).answers_of_agree
      (records_replay host _) host (agreeAt_of_order (hz.perm.trans List.perm_append_comm) hw hs)⟩

/-- Two goroutines write the two WireGuard configs in crossed order; each
config reads as after one of the two goroutines running last. -/
theorem interleaved_fs_crossed_writes :
    let xs : List FsCall := [.writeFile "/etc/wireguard/wg0.conf" [1],
      .writeFile "/etc/wireguard/wg1.conf" [1]]
    let ys : List FsCall := [.writeFile "/etc/wireguard/wg1.conf" [2],
      .writeFile "/etc/wireguard/wg0.conf" [2]]
    let zs : List FsCall := [.writeFile "/etc/wireguard/wg0.conf" [1],
      .writeFile "/etc/wireguard/wg1.conf" [2], .writeFile "/etc/wireguard/wg1.conf" [1],
      .writeFile "/etc/wireguard/wg0.conf" [2]]
    let host : HostFs := fun _ => none
    Interleaving xs ys zs ∧ ∃ first second : List FsCall,
      (first = xs ∧ second = ys ∨ first = ys ∧ second = xs) ∧
      (newDryRunFileSystem.replay host ([] ++ zs)).readFile host "/etc/wireguard/wg1.conf" =
        (newDryRunFileSystem.replay host ([] ++ first ++ second)).readFile host
          "/etc/wireguard/wg1.conf" := by
  intro xs ys zs host
  have hz : Interleaving xs ys zs := .left (.right (.left (.right .nil)))
  obtain ⟨first, second, ho, h⟩ := interleaved_fs_some_order host [] xs ys zs hz
    "/etc/wireguard/wg1.conf"
  exact ⟨hz, first, second, ho, h.1⟩

/-- One goroutine writes the config while the other seeds, removes and reads
it; the mutex lets the seed through first. -/
theorem interleaved_fs_config_write :
    let xs : List FsCall := [.writeFile "/etc/wireguard/wg0.conf" [1]]
    let ys : List FsCall := [.addFile "/etc/wireguard/wg0.conf" [2],
      .remove "/etc/wireguard/wg0.conf", .readFile "/etc/wireguard/wg0.conf"]
    let zs : List FsCall := [.addFile "/etc/wireguard/wg0.conf" [2],
      .writeFile "/etc/wireguard/wg0.conf" [1], .remove "/etc/wireguard/wg0.conf",
      .readFile "/etc/wireguard/wg0.conf"]
    let host : HostFs := fun _ => none
    Interleaving xs ys zs ∧
      (lastWritten xs "/etc/wireguard/wg0.conf" = none ∨
        lastWritten ys "/etc/wireguard/wg0.conf" = none) ∧
      (lastSeeded xs "/etc/wireguard/wg0.conf" = none ∨
        lastSeeded ys "/etc/wireguard/wg0.conf" = none) ∧
      (newDryRunFileSystem.replay host ([] ++ zs)).readFile host "/etc/wireguard/wg0.conf" =
        (newDryRunFileSystem.replay host ([] ++ xs ++ ys)).readFile host
          "/etc/wireguard/wg0.conf" := by
  intro xs ys zs host
  have hz : Interleaving xs ys zs := .right (.left (.right (.right .nil)))
  exact ⟨hz, Or.inr rfl, Or.inl rfl,
    (interleaved_fs_as_sequential host [] xs ys zs hz _ (Or.inr rfl) (Or.inl rfl)).1⟩

/-! ## The command runner -/

section Runner
variable {Err : Type}

/-- Calls with no `Clear` among them all count since the last `Clear`. -/
theorem sinceClear_append (pre : List (RunnerCall Err)) {calls : List (RunnerCall Err)}
    (h : ∀ c ∈ calls, c.isClear = false) : sinceClear (pre ++ calls) = sinceClear pre ++ calls := by
  rw [sinceClear, List.reverse_append, List.takeWhile_append_of_pos (by simpa using h),
    List.reverse_append, List.reverse_reverse, sinceClear]

theorem sinceClear_eq_self {calls : List (RunnerCall Err)} (h : ∀ c ∈ calls, c.isClear = false) :
    sinceClear calls = calls :=
  sinceClear_append [] h

/-- A registration that at most one goroutine makes is, after any interleaving
of calls with no `Clear`, the one it is after the two goroutines in turn. -/
theorem registered_interleaving {β : Type} {pre xs ys zs : List (RunnerCall Err)}
    (hz : Interleaving xs ys zs) (hx : ∀ c ∈ xs, c.isClear = false)
    (hy : ∀ c ∈ ys, c.isClear = false) (f : RunnerCall Err → Option β)
    (hf : ((sinceClear xs).filterMap f).getLast? = none ∨
      ((sinceClear ys).filterMap f).getLast? = none) :
    ((sinceClear (pre ++ zs)).filterMap f).getLast? =
      ((sinceClear (pre ++ xs ++ ys)).filterMap f).getLast? := by
  rw [sinceClear_eq_self hx, sinceClear_eq_self hy] at hf
  rw [List.append_assoc, sinceClear_append pre (hz.forall_mem hx hy),
    sinceClear_append pre (fun c hc => (List.mem_append.mp hc).elim (hx c) (hy c)),
    hz.getLast?_filterMap _ f hf]

/-- Without `Clear`, a registration after an interleaving is the one after one
goroutine's calls followed by the other's. -/
theorem registered_or {β : Type} {pre xs ys zs : List (RunnerCall Err)}
    (hz : Interleaving xs ys zs) (hx : ∀ c ∈ xs, c.isClear = false)
    (hy : ∀ c ∈ ys, c.isClear = false) (f : RunnerCall Err → Option β) :
    ((sinceClear (pre ++ zs)).filterMap f).getLast? =
        ((sinceClear (pre ++ xs ++ ys)).filterMap f).getLast? ∨
      ((sinceClear (pre ++ zs)).filterMap f).getLast? =
        ((sinceClear (pre ++ ys ++ xs)).filterMap f).getLast? := by
  rw [List.append_assoc, List.append_assoc, sinceClear_append pre (hz.forall_mem hx hy),
    sinceClear_append pre (List.forall_mem_append.mpr ⟨hx, hy⟩),
    sinceClear_append pre (List.forall_mem_append.mpr ⟨hy, hx⟩)]
  exact hz.getLast?_filterMap_or _ f

/-- Whether anything is registered after two goroutines' calls with no `Clear`
does not depend on which ran first. -/
theorem registered_none_iff {β : Type} (pre : List (RunnerCall Err))
    {xs ys : List (RunnerCall Err)} (hx : ∀ c ∈ xs, c.isClear = false)
    (hy : ∀ c ∈ ys, c.isClear = false) (f : RunnerCall Err → Option β) :
    ((sinceClear (pre ++ xs ++ ys)).filterMap f).getLast? = none ↔
      ((sinceClear (pre ++ ys ++ xs)).filterMap f).getLast? = none := by
  rw [List.append_assoc, List.append_assoc,
    sinceClear_append pre (List.forall_mem_append.mpr ⟨hx, hy⟩),
    sinceClear_append pre (List.forall_mem_append.mpr ⟨hy, hx⟩),
    ← Option.not_isSome_iff_eq_none, ← Option.not_isSome_iff_eq_none,
    isSome_getLast?_of_perm ((List.perm_append_comm.append_left _).filterMap f)]

/-- Two runners answer every command on a line alike when they hold the same
error for it and, where neither holds one, the same output. -/
theorem replies_eq {r r' : DryRunCommandRunner Err} {name : String} {args : List String}
    (he : r.errors.lookup (cmdLine name args) = r'.errors.lookup (cmdLine name args))
    (ho : r.errors.lookup (cmdLine name args) = none →
      r.outputs.lookup (cmdLine name args) = r'.outputs.lookup (cmdLine name args)) :
    (r.run name args).1 = (r'.run name args).1 ∧ (r.output name args).1 = (r'.output name args).1 ∧
      (r.combinedOutput name args).1 = (r'.combinedOutput name args).1 ∧
      (r.start name args).1 = (r'.start name args).1 := by
  simp only [DryRunCommandRunner.run, DryRunCommandRunner.output,
    DryRunCommandRunner.combinedOutput, DryRunCommandRunner.start, ← he]
  cases hn : r.errors.lookup (cmdLine name args)
  · simp only [ho hn, and_self]
  · simp only [and_self]

/-- The replies after two runs agree on a line whose registrations agree. -/
theorem replies_of_registered {calls calls' : List (RunnerCall Err)} {name : String}
    {args : List String}
    (he : registeredError calls (cmdLine name args) = registeredError calls' (cmdLine name args))
    (ho : registeredError calls (cmdLine name args) = none →
      registeredOutput calls (cmdLine name args) = registeredOutput calls' (cmdLine name args)) :
    let r := newDryRunCommandRunner.replay calls
    let r' := newDryRunCommandRunner.replay calls'
    (r.run name args).1 = (r'.run name args).1 ∧ (r.output name args).1 = (r'.output name args).1 ∧
      (r.combinedOutput name args).1 = (r'.combinedOutput name args).1 ∧
      (r.start name args).1 = (r'.start name args).1 :=
  replies_eq (by rw [(tracks_replay _).errors, (tracks_replay _).errors, he]) fun hn => by
    rw [(tracks_replay _).outputs, (tracks_replay _).outputs,
      ho (by rwa [(tracks_replay _).errors] at hn)]

/-- **Two goroutines on one dry-run runner, the log.**  Neither calls `Clear`.
Whatever order the mutex lets their calls through in, the log gains an
interleaving of the two goroutines' own logs: no line is lost or duplicated,
and each goroutine's lines keep their order. -/
theorem interleaved_log_keeps_every_line (pre xs ys zs : List (RunnerCall Err))
    (hz : Interleaving xs ys zs) (hx : ∀ c ∈ xs, c.isClear = false)
    (hy : ∀ c ∈ ys, c.isClear = false) :
    ∃ w, Interleaving (invocationLog xs) (invocationLog ys) w ∧
      (newDryRunCommandRunner.replay (pre ++ zs)).getRunCommands =
        (newDryRunCommandRunner.replay pre).getRunCommands ++ w := by
  refine ⟨zs.filterMap RunnerCall.logEntry, ?_, ?_⟩
  · rw [invocationLog, invocationLog, sinceClear_eq_self hx, sinceClear_eq_self hy]
    exact hz.filterMap _
  · rw [DryRunCommandRunner.getRunCommands, DryRunCommandRunner.getRunCommands,
      (tracks_replay _).ran, (tracks_replay _).ran, invocationLog, invocationLog,
      sinceClear_append pre (hz.forall_mem hx hy), List.filterMap_append]

/-- Two goroutines each run one command, and the mutex lets them alternate. -/
theorem interleaved_log_two_commands :
    let xs : List (RunnerCall String) := [.run "wg" ["show"], .addOutput "ip link" []]
    let ys : List (RunnerCall String) := [.lookPath "iptables", .output "sysctl" []]
    let zs : List (RunnerCall String) :=
      [.run "wg" ["show"], .lookPath "iptables", .addOutput "ip link" [], .output "sysctl" []]
    Interleaving xs ys zs ∧ (∀ c ∈ xs, c.isClear = false) ∧ (∀ c ∈ ys, c.isClear = false) ∧
      ∃ w, Interleaving (invocationLog xs) (invocationLog ys) w ∧
        (newDryRunCommandRunner.replay ([] ++ zs)).getRunCommands =
          (newDryRunCommandRunner.replay ([] : List (RunnerCall String))).getRunCommands ++ w := by
  intro xs ys zs
  have hz : Interleaving xs ys zs := .left (.right (.left (.right .nil)))
  have hx : ∀ c ∈ xs, c.isClear = false := by simp [xs, RunnerCall.isClear]
  have hy : ∀ c ∈ ys, c.isClear = false := by simp [ys, RunnerCall.isClear]
  exact ⟨hz, hx, hy, interleaved_log_keeps_every_line [] xs ys zs hz hx hy⟩

/-- **Two goroutines on one dry-run runner, the replies.**  Neither calls
`Clear`.  A command line for which at most one of them registers an error,
and at most one an output, answers every command as after the first
goroutine's calls followed by the second's, whatever the interleaving. -/
theorem interleaved_replies_as_sequential (pre xs ys zs : List (RunnerCall Err))
    (hz : Interleaving xs ys zs) (hx : ∀ c ∈ xs, c.isClear = false)
    (hy : ∀ c ∈ ys, c.isClear = false) (name : String) (args : List String)
    (he : registeredError xs (cmdLine name args) = none ∨
      registeredError ys (cmdLine name args) = none)
    (ho : registeredOutput xs (cmdLine name args) = none ∨
      registeredOutput ys (cmdLine name args) = none) :
    let r := newDryRunCommandRunner.replay (pre ++ zs)
    let r' := newDryRunCommandRunner.replay (pre ++ xs ++ ys)
    (r.run name args).1 = (r'.run name args).1 ∧ (r.output name args).1 = (r'.output name args).1 ∧
      (r.combinedOutput name args).1 = (r'.combinedOutput name args).1 ∧
      (r.start name args).1 = (r'.start name args).1 :=
  replies_of_registered (registered_interleaving hz hx hy _ he)
    fun _ => registered_interleaving hz hx hy _ ho

/-- One goroutine registers and runs `ip link`, the other registers an error
for `sysctl` and runs it; `ip link` answers as in the sequential run. -/
theorem interleaved_replies_ip_link :
    let xs : List (RunnerCall String) := [.addOutput "ip link" [1], .run "ip" ["link"]]
    let ys : List (RunnerCall String) := [.addError "sysctl" (some "denied"), .output "sysctl" []]
    let zs : List (RunnerCall String) :=
      [.addError "sysctl" (some "denied"), .addOutput "ip link" [1], .output "sysctl" [],
        .run "ip" ["link"]]
    Interleaving xs ys zs ∧ (∀ c ∈ xs, c.isClear = false) ∧ (∀ c ∈ ys, c.isClear = false) ∧
      (registeredError xs (cmdLine "ip" ["link"]) = none ∨
        registeredError ys (cmdLine "ip" ["link"]) = none) ∧
      (registeredOutput xs (cmdLine "ip" ["link"]) = none ∨
        registeredOutput ys (cmdLine "ip" ["link"]) = none) ∧
      ((newDryRunCommandRunner.replay ([] ++ zs)).output "ip" ["link"]).1 =
        ((newDryRunCommandRunner.replay ([] ++ xs ++ ys)).output "ip" ["link"]).1 := by
  intro xs ys zs
  have hz : Interleaving xs ys zs := .right (.left (.right (.left .nil)))
  have hx : ∀ c ∈ xs, c.isClear = false := by simp [xs, RunnerCall.isClear]
  have hy : ∀ c ∈ ys, c.isClear = false := by simp [ys, RunnerCall.isClear]
  exact ⟨hz, hx, hy, Or.inl rfl, Or.inr rfl,
    (interleaved_replies_as_sequential [] xs ys zs hz hx hy "ip" ["link"] (Or.inl rfl)
      (Or.inr rfl)).2.1⟩

/-- **Two goroutines on one dry-run runner, any command line.**  Neither calls
`Clear`.  Whatever order the mutex lets their calls through in, each command
line answers every command as after one goroutine's calls followed by the
other's: the one whose error registration comes last, or, where neither
registered an error, whose output registration does. -/
theorem interleaved_replies_some_order (pre xs ys zs : List (RunnerCall Err))
    (hz : Interleaving xs ys zs) (hx : ∀ c ∈ xs, c.isClear = false)
    (hy : ∀ c ∈ ys, c.isClear = false) (name : String) (args : List String) :
    ∃ first second : List (RunnerCall Err),
      (first = xs ∧ second = ys ∨ first = ys ∧ second = xs) ∧
      let r := newDryRunCommandRunner.replay (pre ++ zs)
      let r' := newDryRunCommandRunner.replay (pre ++ first ++ second)
      (r.run name args).1 = (r'.run name args).1 ∧
        (r.output name args).1 = (r'.output name args).1 ∧
        (r.combinedOutput name args).1 = (r'.combinedOutput name args).1 ∧
        (r.start name args).1 = (r'.start name args).1 := by
  rcases exists_order (registered_or hz hx hy (RunnerCall.errorFor (cmdLine name args)))
      (registered_or hz hx hy (RunnerCall.outputFor (cmdLine name args)))
      (registered_none_iff pre hx hy _) with ⟨he, ho⟩ | ⟨he, ho⟩
  · exact ⟨xs, ys, .inl ⟨rfl, rfl⟩, replies_of_registered he ho⟩
  · exact ⟨ys, xs, .inr ⟨rfl, rfl⟩, replies_of_registered he ho⟩

/-- Both goroutines register an output for the line wg show and one runs it:
the reply is the one after some order of the two. -/
theorem interleaved_replies_wg_show :
    let xs : List (RunnerCall String) := [.addOutput "wg show" [1], .output "wg" ["show"]]
    let ys : List (RunnerCall String) := [.addOutput "wg show" [2]]
    let zs : List (RunnerCall String) :=
      [.addOutput "wg show" [1], .addOutput "wg show" [2], .output "wg" ["show"]]
    Interleaving xs ys zs ∧ (∀ c ∈ xs, c.isClear = false) ∧ (∀ c ∈ ys, c.isClear = false) ∧
      ∃ first second : List (RunnerCall String),
        (first = xs ∧ second = ys ∨ first = ys ∧ second = xs) ∧
        ((newDryRunCommandRunner.replay ([] ++ zs)).output "wg" ["show"]).1 =
          ((newDryRunCommandRunner.replay ([] ++ first ++ second)).output "wg" ["show"]).1 := by
  intro xs ys zs
  have hz : Interleaving xs ys zs := .left (.right (.left .nil))
  have hx : ∀ c ∈ xs, c.isClear = false := by simp [xs, RunnerCall.isClear]
  have hy : ∀ c ∈ ys, c.isClear = false := by simp [ys, RunnerCall.isClear]
  obtain ⟨first, second, ho, h⟩ := interleaved_replies_some_order [] xs ys zs hz hx hy "wg" ["show"]
  exact ⟨hz, hx, hy, first, second, ho, h.2.1⟩

end Runner

end HomelabHorizon.System
