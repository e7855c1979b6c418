import HomelabHorizon.Go.Slice
import HomelabHorizon.System.CommandLog

/-! # The runner's log as the Go slice it is

`DryRunCommandRunner` keeps its log in a `[]string`.  Every logged call
`append`s to it, `Clear` cuts it to `r.ran[:0]`, and `GetRunCommands` and
`GetLastCommands` return it, or a tail of it, without copying, while
`GetCommandsByType` appends the matching lines to a nil slice of its own.
`SliceRunner` is the runner with its log kept that way, in a heap of backing
arrays that it shares with its caller.

Read right after each call, it is the list model: the log reads as
`DryRunCommandRunner`'s, and every reply is that model's reply
(`sliceRunner_refines`).  So every result about the list model holds of it.
What the list model cannot say is what happens to a slice a caller keeps.
While no `Clear` runs, a returned slice goes on showing what it showed
(`log_snapshot_stable`), because appends land past its end or in a new array.
`Clear` keeps the backing array, so the lines logged after it are written over
a slice the caller took before it (`clear_overwrites_log_snapshot`).  A
caller's write through a returned slice rewrites the runner's own log, and so
every later reply (`write_through_log_snapshot`).  The slice `GetCommandsByType`
returns is on arrays its loop made: no later call changes it, and writes
through it change nothing the runner shows (`commands_by_type_owned`).
-/
namespace HomelabHorizon.System

/-- The dry-run runner with its log in memory. -/
structure SliceRunner (Err : Type) where
  heap : Heap String
  ran : Slice
  outputs : GoMap Bytes
  errors : GoMap (Option Err)
  ran_inBounds : ran.InBounds heap

variable {Err : Type} (g : GrowthPolicy)

/-- `NewDryRunCommandRunner`, in the heap `h`: `make([]string, 0)` and two
empty tables. -/
def newSliceRunner (h : Heap String) : SliceRunner Err :=
  ⟨(Slice.make h).1, (Slice.make h).2, ∅, ∅, Slice.inBounds_make h⟩

/-- The loop of `GetCommandsByType`: `result = append(result, cmd)` for each
line that matches.  It reads the log as it was when the loop began, since its
appends write only arrays made since (`appendMatching_spec`). -/
def appendMatching (cmdType : String) : List String → Heap String × Slice → Heap String × Slice
  | [], acc => acc
  | cmd :: cmds, (h, result) =>
    if decide (cmdType = "") || stringsContains cmd cmdType then
      appendMatching cmdType cmds (Slice.append g h result cmd)
    else appendMatching cmdType cmds (h, result)

/-- **The loop of `GetCommandsByType`** appends the matching lines to a slice
made since `h0`, and writes only arrays made since `h0`. -/
theorem appendMatching_spec (cmdType : String) {h0 : Heap String} (cmds : List String) :
    ∀ {h : Heap String} {s : Slice}, h0.Extends h → Slice.MadeSince h0 h s →
      h0.Extends (appendMatching g cmdType cmds (h, s)).1 ∧
        Slice.MadeSince h0 (appendMatching g cmdType cmds (h, s)).1
          (appendMatching g cmdType cmds (h, s)).2 ∧
        (appendMatching g cmdType cmds (h, s)).2.view (appendMatching g cmdType cmds (h, s)).1 =
          s.view h ++ cmds.filter fun cmd => decide (cmdType = "") || stringsContains cmd cmdType := by
  induction cmds with
  | nil => intro h s he hs; exact ⟨he, hs, (List.append_nil _).symm⟩
  | cons cmd cmds ih =>
    intro h s he hs
    simp only [appendMatching]
    split_ifs with hm
    · obtain ⟨he', hs', hv⟩ := hs.append he cmd
      obtain ⟨he'', hs'', hv'⟩ := ih he' hs'
      refine ⟨he'', hs'', ?_⟩
      rw [hv', hv, List.filter_cons, if_pos hm, List.append_assoc]
      rfl
    · rw [List.filter_cons, if_neg hm]
      exact ih he hs

namespace SliceRunner
variable (r : SliceRunner Err)

/-- The runner as the list model sees it: the log read out of memory. -/
def toList : DryRunCommandRunner Err := ⟨r.ran.view r.heap, r.outputs, r.errors⟩

/-- `r.ran = append(r.ran, entry)`. -/
def log (entry : String) : SliceRunner Err :=
  ⟨(Slice.append g r.heap r.ran entry).1, (Slice.append g r.heap r.ran entry).2, r.outputs,
    r.errors, r.ran_inBounds.append entry⟩

/-- `Run`: the line appended, and the list model's reply, which reads the
tables only. -/
def run (name : String) (args : List String) : Option Err × SliceRunner Err :=
  ((r.toList.run name args).1, r.log g (cmdLine name args))

/-- `Output`. -/
def output (name : String) (args : List String) : (Bytes × Option Err) × SliceRunner Err :=
  ((r.toList.output name args).1, r.log g (cmdLine name args))

/-- `CombinedOutput` is `Output`. -/
def combinedOutput (name : String) (args : List String) :
    (Bytes × Option Err) × SliceRunner Err :=
  r.output g name args

/-- `Start`. -/
def start (name : String) (args : List String) :
    (Option MockProcess × Option Err) × SliceRunner Err :=
  ((r.toList.start name args).1, r.log g (cmdLine name args))

/-- `LookPath`. -/
def lookPath (file : String) : (String × Option Err) × SliceRunner Err :=
  ((r.toList.lookPath file).1, r.log g ("lookpath: " ++ file))

/-- `AddOutput`. -/
def addOutput (command : String) (output : Bytes) : SliceRunner Err :=
  { r with outputs := r.outputs.insert command output }

/-- `AddError`. -/
def addError (command : String) (err : Option Err) : SliceRunner Err :=
  { r with errors := r.errors.insert command err }

/-- `GetRunCommands`: the log slice itself. -/
def getRunCommands : Slice := r.ran

/-- `GetLastCommands`: the log slice, or its tail `r.ran[len(r.ran)-count:]`. -/
def getLastCommands (count : Int) : Option Slice :=
  if (r.ran.len : Int) ≤ count then some r.ran else r.ran.sliceFrom (r.ran.len - count)

/-- `GetCommandsByType`: the loop run over the log from `var result []string`;
the heap it leaves and the slice it returns. -/
def getCommandsByType (cmdType : String) : Heap String × Slice :=
  appendMatching g cmdType (r.ran.view r.heap) (r.heap, Slice.nil)

theorem getCommandsByType_spec (cmdType : String) :
    r.heap.Extends (r.getCommandsByType g cmdType).1 ∧
      Slice.MadeSince r.heap (r.getCommandsByType g cmdType).1 (r.getCommandsByType g cmdType).2 ∧
      (r.getCommandsByType g cmdType).2.view (r.getCommandsByType g cmdType).1 =
        r.toList.getCommandsByType cmdType :=
  appendMatching_spec g cmdType _ .refl (.inl rfl)

/-- `Clear`: `r.ran[:0]`, on the same backing array, and two fresh tables. -/
def clear : SliceRunner Err := ⟨r.heap, r.ran.truncate, ∅, ∅, r.ran_inBounds.truncate⟩

/-- A caller's `s[i] = x` through a slice it holds, in the memory it shares
with the runner. -/
def callerSet (s : Slice) (i : Nat) (x : String) : Option (SliceRunner Err) :=
  match hs : s.set r.heap i x with
  | some h' => some ⟨h', r.ran, r.outputs, r.errors, r.ran_inBounds.set hs⟩
  | none => none

theorem callerSet_of_set {s : Slice} {i : Nat} {x : String} {h' : Heap String}
    (hs : s.set r.heap i x = some h') :
    r.callerSet s i x = some ⟨h', r.ran, r.outputs, r.errors, r.ran_inBounds.set hs⟩ := by
  unfold callerSet
  split <;> rename_i heq <;> rw [hs] at heq
  · cases heq
    rfl
  · cases heq

end SliceRunner

/-! ## Calls and replies -/

/-- What a call returns: a slice, for the three calls that return one (the log
itself from `GetRunCommands`, a slice of its own from `GetCommandsByType`). -/
inductive SliceReply (Err : Type)
  | reply (r : RunnerReply Err)
  | slice (s : Slice)
  | lastLog (s : Option Slice)

/-- The reply as the caller reads it in the heap `h`. -/
def SliceReply.read (h : Heap String) : SliceReply Err → RunnerReply Err
  | .reply r => r
  | .slice s => .commands (s.view h)
  | .lastLog s => .lastCommands (s.map (Slice.view h))

namespace SliceRunner

/-- One call: its reply and the state after it. -/
def call (r : SliceRunner Err) : RunnerCall Err → SliceReply Err × SliceRunner Err
  | .run n a => let (e, r) := r.run g n a; (.reply (.error e), r)
  | .output n a => let ((o, e), r) := r.output g n a; (.reply (.output o e), r)
  | .combinedOutput n a => let ((o, e), r) := r.combinedOutput g n a; (.reply (.output o e), r)
  | .start n a => let ((p, e), r) := r.start g n a; (.reply (.process p e), r)
  | .lookPath f => let ((p, e), r) := r.lookPath g f; (.reply (.path p e), r)
  | .addOutput c o => (.reply .unit, r.addOutput c o)
  | .addError c e => (.reply .unit, r.addError c e)
  | .getRunCommands => (.slice r.getRunCommands, r)
  | .getLastCommands n => (.lastLog (r.getLastCommands n), r)
  | .getCommandsByType t => (.slice (r.getCommandsByType g t).2,
      { r with heap := (r.getCommandsByType g t).1,
               ran_inBounds := r.ran_inBounds.extends (r.getCommandsByType_spec g t).1 })
  | .clear => (.reply .unit, r.clear)

/-- The state after a sequence of calls. -/
def replay (r : SliceRunner Err) (calls : List (RunnerCall Err)) : SliceRunner Err :=
  calls.foldl (fun r c => (r.call g c).2) r

theorem replay_append_single (r : SliceRunner Err) (calls : List (RunnerCall Err))
    (c : RunnerCall Err) : r.replay g (calls ++ [c]) = ((r.replay g calls).call g c).2 := by
  simp [replay, List.foldl_append]

/-! ## What one call does to memory -/

variable (r : SliceRunner Err)

theorem call_memory_of_logEntry {c : RunnerCall Err} {line : String}
    (hc : c.logEntry = some line) :
    (r.call g c).2.heap = (Slice.append g r.heap r.ran line).1 ∧
      (r.call g c).2.ran = (Slice.append g r.heap r.ran line).2 := by
  cases c <;> simp only [RunnerCall.logEntry, reduceCtorEq, Option.some.injEq] at hc <;>
    subst hc <;> exact ⟨rfl, rfl⟩

/-- A call that logs nothing, other than `Clear`, leaves the log slice and
every array made before it as they were. -/
theorem call_memory_of_no_logEntry {c : RunnerCall Err} (hc : c.logEntry = none)
    (hclear : c.isClear = false) :
    r.heap.Extends (r.call g c).2.heap ∧ (r.call g c).2.ran = r.ran := by
  cases c
  case getCommandsByType t => exact ⟨(r.getCommandsByType_spec g t).1, rfl⟩
  all_goals simp_all [RunnerCall.logEntry, RunnerCall.isClear] <;> exact ⟨.refl, rfl⟩

/-! ## The list model, read out of memory -/

theorem toList_log (entry : String) : (r.log g entry).toList = r.toList.log entry := by
  simp only [log, toList, DryRunCommandRunner.log, Slice.view_append r.ran_inBounds]

theorem getLastCommands_view (count : Int) :
    (r.getLastCommands count).map (Slice.view r.heap) = r.toList.getLastCommands count := by
  unfold getLastCommands DryRunCommandRunner.getLastCommands
  simp only [toList, r.ran_inBounds.view_length]
  split_ifs
  · rfl
  · exact Slice.view_sliceFrom r.ran_inBounds _

/-- **One call, read right after it, is one call of the list model.** -/
theorem call_toList (c : RunnerCall Err) :
    (r.call g c).1.read (r.call g c).2.heap = (r.toList.call c).1 ∧
      (r.call g c).2.toList = (r.toList.call c).2 := by
  cases c
  case getCommandsByType t =>
    have hs := r.getCommandsByType_spec g t
    exact ⟨congrArg RunnerReply.commands hs.2.2,
      congrArg (fun ran => (⟨ran, r.outputs, r.errors⟩ : DryRunCommandRunner Err))
        (Slice.view_extends r.ran_inBounds.arr_lt hs.1)⟩
  all_goals
    simp only [call, run, output, combinedOutput, start, lookPath, addOutput, addError,
      getRunCommands, getLastCommands_view, clear, SliceReply.read,
      DryRunCommandRunner.call, DryRunCommandRunner.run, DryRunCommandRunner.output,
      DryRunCommandRunner.combinedOutput, DryRunCommandRunner.start,
      DryRunCommandRunner.lookPath, DryRunCommandRunner.getRunCommands, toList_log, and_true,
      true_and]
  all_goals first
    | exact ⟨rfl, rfl⟩
    | rfl

theorem replay_toList (calls : List (RunnerCall Err)) :
    ∀ r : SliceRunner Err, (r.replay g calls).toList = r.toList.replay calls := by
  induction calls with
  | nil => intro r; rfl
  | cons c calls ih =>
    intro r
    show ((r.call g c).2.replay g calls).toList = (r.toList.call c).2.replay calls
    rw [ih, (r.call_toList g c).2]

end SliceRunner

theorem newSliceRunner_toList (h : Heap String) :
    (newSliceRunner h : SliceRunner Err).toList = newDryRunCommandRunner := rfl

/-- **The runner over Go slices is the list model.**  After any calls, its log
read out of memory and its tables are the list model's, and the reply to any
further call, read right after it, is the list model's reply. -/
theorem sliceRunner_refines (h : Heap String) (calls : List (RunnerCall Err)) (c : RunnerCall Err) :
    let r := (newSliceRunner h : SliceRunner Err).replay g calls
    r.toList = newDryRunCommandRunner.replay calls ∧
      (r.call g c).1.read (r.call g c).2.heap = ((newDryRunCommandRunner.replay calls).call c).1 := by
  intro r
  have hr : r.toList = newDryRunCommandRunner.replay calls := by
    rw [SliceRunner.replay_toList, newSliceRunner_toList]
  exact ⟨hr, by rw [(r.call_toList g c).1, hr]⟩

/-! ## Slices a caller keeps -/

namespace SliceRunner

/-- A slice the caller holds that the runner's appends cannot reach: in
bounds, and ending by the end of the log if it is on the log's array. -/
structure Behind (s : Slice) (r : SliceRunner Err) : Prop where
  inBounds : s.InBounds r.heap
  endsBy : s.EndsBy r.ran

/-- A call other than `Clear` keeps a slice behind the log, and changes
nothing it shows. -/
theorem Behind.call {s : Slice} {r : SliceRunner Err} (hb : Behind s r) {c : RunnerCall Err}
    (hc : c.isClear = false) : Behind s (r.call g c).2 ∧ s.view (r.call g c).2.heap = s.view r.heap := by
  cases hl : c.logEntry with
  | none =>
    obtain ⟨hh, hr⟩ := r.call_memory_of_no_logEntry g hl hc
    refine ⟨⟨hb.inBounds.extends hh, ?_⟩, Slice.view_extends hb.inBounds.arr_lt hh⟩
    show s.EndsBy (r.call g c).2.ran
    rw [hr]; exact hb.endsBy
  | some line =>
    obtain ⟨hh, hr⟩ := r.call_memory_of_logEntry g hl
    refine ⟨⟨?_, ?_⟩, ?_⟩
    · rw [hh]; exact hb.inBounds.append_other _ _
    · show s.EndsBy (r.call g c).2.ran
      rw [hr]; exact hb.endsBy.append hb.inBounds _
    · rw [hh]; exact Slice.view_append_other hb.inBounds hb.endsBy _

theorem Behind.replay {s : Slice} (calls : List (RunnerCall Err))
    (hcalls : ∀ c ∈ calls, c.isClear = false) :
    ∀ {r : SliceRunner Err}, Behind s r → s.view (r.replay g calls).heap = s.view r.heap := by
  induction calls with
  | nil => intro r _; rfl
  | cons c calls ih =>
    intro r hb
    have hstep := hb.call g (hcalls c (List.mem_cons_self _ _))
    show s.view ((r.call g c).2.replay g calls).heap = _
    rw [ih (fun c' hc' => hcalls c' (List.mem_cons_of_mem _ hc')) hstep.1, hstep.2]

theorem behind_getRunCommands : Behind r.getRunCommands r := ⟨r.ran_inBounds, fun _ => le_refl _⟩

theorem behind_getLastCommands {count : Int} {s : Slice} (hs : r.getLastCommands count = some s) :
    Behind s r := by
  unfold getLastCommands at hs
  split_ifs at hs
  · cases hs
    exact r.behind_getRunCommands
  · refine ⟨r.ran_inBounds.sliceFrom hs, fun _ => ?_⟩
    unfold Slice.sliceFrom at hs
    split_ifs at hs with hlow
    cases hs
    dsimp only
    omega

end SliceRunner

/-- **Without `Clear`, a slice of the log stays as it was.**  From any state,
what `GetRunCommands` and `GetLastCommands` returned still shows the same
lines after any calls other than `Clear`. -/
theorem log_snapshot_stable (r : SliceRunner Err) (more : List (RunnerCall Err))
    (hmore : ∀ c ∈ more, c.isClear = false) (count : Int) :
    let r' := r.replay g more
    r.getRunCommands.view r'.heap = r.getRunCommands.view r.heap ∧
      ∀ s, r.getLastCommands count = some s → s.view r'.heap = s.view r.heap :=
  ⟨SliceRunner.Behind.replay g more hmore r.behind_getRunCommands,
    fun _ hs => SliceRunner.Behind.replay g more hmore (r.behind_getLastCommands hs)⟩

/-- Two lines logged, their slice taken, then two more calls: the slice still
shows the first two lines. -/
theorem log_snapshot_stable_after_two_calls :
    let r := (newSliceRunner ⟨fun _ => [], 0⟩ : SliceRunner String).replay .doubling
      [.run "wg" ["show"], .run "ip" ["link"]]
    let more : List (RunnerCall String) := [.lookPath "iptables", .run "sysctl" []]
    (∀ c ∈ more, c.isClear = false) ∧
      r.getRunCommands.view (r.replay .doubling more).heap = ["wg show", "ip link"] := by
  intro r more
  have hmore : ∀ c ∈ more, c.isClear = false := by simp [more, RunnerCall.isClear]
  exact ⟨hmore, (log_snapshot_stable .doubling r more hmore 0).1.trans rfl⟩

/-- The lines the calls append to the log. -/
def loggedLines (calls : List (RunnerCall Err)) : List String := calls.filterMap RunnerCall.logEntry

theorem loggedLines_snoc (calls : List (RunnerCall Err)) (c : RunnerCall Err) :
    loggedLines (calls ++ [c]) = loggedLines calls ++ c.logEntry.toList := by
  cases h : c.logEntry <;> simp [loggedLines, h]

/-- The next line written over an old window, after the lines written so far. -/
theorem set_after_written {lines old : List String} (x : String) (hm : lines.length < old.length) :
    (lines ++ old.drop lines.length).set lines.length x = lines ++ [x] ++ old.drop (lines.length + 1) := by
  rw [List.set_append, if_neg (lt_irrefl _), Nat.sub_self, List.drop_eq_getElem_cons hm,
    List.set_cons_zero, List.append_assoc]
  rfl

/-- After `Clear`, while the lines logged fit in the old slice: the log slice
is the old one's window, cut to the new lines, and the old slice shows the new
lines over its first elements. -/
theorem clear_overwrites_run (r : SliceRunner Err) (more : List (RunnerCall Err))
    (hmore : ∀ c ∈ more, c.isClear = false) (hlen : (loggedLines more).length ≤ r.ran.len) :
    let r' := (r.call g .clear).2.replay g more
    r'.ran = { r.ran with len := (loggedLines more).length } ∧
      r.ran.view r'.heap = loggedLines more ++ (r.ran.view r.heap).drop (loggedLines more).length := by
  induction more using List.reverseRecOn with
  | nil => exact ⟨rfl, rfl⟩
  | append_singleton more c ih =>
    have hmore' : ∀ c ∈ more, c.isClear = false := fun c' h => hmore c' (List.mem_append_left _ h)
    have hc : c.isClear = false := hmore c (List.mem_append_right _ (List.mem_singleton_self _))
    rw [loggedLines_snoc, List.length_append] at hlen
    obtain ⟨hran, hview⟩ := ih hmore' (by omega)
    dsimp only
    rw [SliceRunner.replay_append_single, loggedLines_snoc]
    cases hl : c.logEntry with
    | none =>
      obtain ⟨hh, hr⟩ := SliceRunner.call_memory_of_no_logEntry g _ hl hc
      -- the old slice is on the log's array, which a call that logs nothing leaves alone
      have harr : r.ran.arr < ((r.call g .clear).2.replay g more).heap.next := by
        have := ((r.call g .clear).2.replay g more).ran_inBounds.arr_lt
        rwa [hran] at this
      rw [Slice.view_extends harr hh, hr, Option.toList_none, List.append_nil]
      exact ⟨hran, hview⟩
    | some line =>
      obtain ⟨hh, hr⟩ := SliceRunner.call_memory_of_logEntry g _ hl
      rw [hl, Option.toList_some, List.length_singleton] at hlen
      have hcap : (loggedLines more).length < r.ran.cap :=
        Nat.lt_of_lt_of_le (by omega) r.ran_inBounds.len_le_cap
      have hold : (loggedLines more).length < (r.ran.view r.heap).length := by
        rw [r.ran_inBounds.view_length]; omega
      rw [hh, hr, hran, Slice.append_of_lt hcap, Option.toList_some, List.length_append,
        List.length_singleton]
      refine ⟨rfl, ?_⟩
      dsimp only
      rw [Slice.view_store_same (Nat.le_add_right _ _), Nat.add_sub_cancel_left, hview,
        set_after_written line hold]

/-- **`Clear` hands the log's storage to the next lines.**  From any state, a
slice `GetRunCommands` returned before `Clear` shows, after it and any calls
other than `Clear` that log no more lines than it holds, those lines over its
first elements. -/
theorem clear_overwrites_log_snapshot (r : SliceRunner Err) (more : List (RunnerCall Err))
    (hmore : ∀ c ∈ more, c.isClear = false)
    (hlen : (loggedLines more).length ≤ r.getRunCommands.len) :
    r.getRunCommands.view ((r.call g .clear).2.replay g more).heap =
      loggedLines more ++ (r.getRunCommands.view r.heap).drop (loggedLines more).length :=
  (clear_overwrites_run g r more hmore hlen).2

/-- `wg show` and `ip link` logged, the log taken, `Clear`, then `sysctl`: the
slice taken before `Clear` now shows `sysctl` and `ip link`. -/
theorem clear_overwrites_wg_show :
    let r := (newSliceRunner ⟨fun _ => [], 0⟩ : SliceRunner String).replay .doubling
      [.run "wg" ["show"], .run "ip" ["link"]]
    let more : List (RunnerCall String) := [.run "sysctl" []]
    (∀ c ∈ more, c.isClear = false) ∧ (loggedLines more).length ≤ r.getRunCommands.len ∧
      r.getRunCommands.view ((r.call .doubling .clear).2.replay .doubling more).heap =
        ["sysctl", "ip link"] := by
  intro r more
  have hmore : ∀ c ∈ more, c.isClear = false := by simp [more, RunnerCall.isClear]
  have hlen : (loggedLines more).length ≤ r.getRunCommands.len := by decide
  exact ⟨hmore, hlen, (clear_overwrites_log_snapshot .doubling r more hmore hlen).trans rfl⟩

/-- **A write through the log slice rewrites the runner's log.**  From any
state, a caller's `s[i] = x` on the slice `GetRunCommands` returned leaves the
runner as the list model with that line of its log replaced, and every later
reply, read right after its call, is that model's. -/
theorem write_through_log_snapshot (r : SliceRunner Err) (i : Nat) (x : String)
    (hi : i < r.getRunCommands.len) :
    ∃ r', r.callerSet r.getRunCommands i x = some r' ∧
      r'.toList = { r.toList with ran := r.toList.ran.set i x } ∧
      ∀ more c, ((r'.replay g more).call g c).1.read ((r'.replay g more).call g c).2.heap =
        (({ r.toList with ran := r.toList.ran.set i x } : DryRunCommandRunner Err).replay
          more |>.call c).1 := by
  have hset : r.ran.set r.heap i x = some (r.heap.store r.ran.arr (r.ran.off + i) x) := if_pos hi
  have hv := Slice.view_set (h := r.heap) (s := r.ran) hi x
  rw [hset, Option.map_some', Option.some.injEq] at hv
  have hlist : (⟨r.heap.store r.ran.arr (r.ran.off + i) x, r.ran, r.outputs, r.errors,
      r.ran_inBounds.set hset⟩ : SliceRunner Err).toList = { r.toList with ran := r.toList.ran.set i x } := by
    simp only [SliceRunner.toList, hv]
  refine ⟨_, r.callerSet_of_set hset, hlist, fun more c => ?_⟩
  rw [(SliceRunner.call_toList g _ c).1, SliceRunner.replay_toList, hlist]

/-- `wg show` logged and its slice taken; the caller writes `rm -rf /` into
it, and `GetRunCommands` then reports that line. -/
theorem write_through_wg_show :
    let r := (newSliceRunner ⟨fun _ => [], 0⟩ : SliceRunner String).replay .doubling
      [.run "wg" ["show"]]
    0 < r.getRunCommands.len ∧
      ∃ r', r.callerSet r.getRunCommands 0 "rm -rf /" = some r' ∧
        r'.toList = { r.toList with ran := r.toList.ran.set 0 "rm -rf /" } ∧
        ∀ more c, ((r'.replay .doubling more).call .doubling c).1.read
            ((r'.replay .doubling more).call .doubling c).2.heap =
          (({ r.toList with ran := r.toList.ran.set 0 "rm -rf /" } : DryRunCommandRunner String).replay
            more |>.call c).1 := by
  intro r
  have hi : 0 < r.getRunCommands.len := by decide
  exact ⟨hi, write_through_log_snapshot .doubling r 0 "rm -rf /" hi⟩

/-! ## A slice of the caller's own -/

namespace SliceRunner

/-- A slice the caller holds apart from the runner: nil, or in bounds on
another array than the log's. -/
def Apart (s : Slice) (r : SliceRunner Err) : Prop :=
  s = Slice.nil ∨ (s.InBounds r.heap ∧ s.arr ≠ r.ran.arr)

/-- No call, `Clear` included, changes what a slice apart from the log shows,
and the slice stays apart. -/
theorem Apart.call {s : Slice} {r : SliceRunner Err} (ha : Apart s r) (c : RunnerCall Err) :
    Apart s (r.call g c).2 ∧ s.view (r.call g c).2.heap = s.view r.heap := by
  rcases ha with rfl | ⟨hs, hne⟩
  · exact ⟨Or.inl rfl, rfl⟩
  cases hcl : c.isClear
  · cases hl : c.logEntry with
    | none =>
      obtain ⟨hh, hr⟩ := r.call_memory_of_no_logEntry g hl hcl
      exact ⟨Or.inr ⟨hs.extends hh, hr ▸ hne⟩, Slice.view_extends hs.arr_lt hh⟩
    | some line =>
      obtain ⟨hh, hr⟩ := r.call_memory_of_logEntry g hl
      -- the log grows on its own array, or moves to a new one
      have hne' : s.arr ≠ (r.call g c).2.ran.arr := by
        rw [hr]
        rcases Slice.arr_append (g := g) (h := r.heap) r.ran line with ha | ha <;> rw [ha]
        exacts [hne, Nat.ne_of_lt hs.arr_lt]
      refine ⟨Or.inr ⟨by rw [hh]; exact hs.append_other _ _, hne'⟩, ?_⟩
      rw [hh]
      exact Slice.view_append_other hs (fun h => absurd h hne) _
  · -- `Clear` keeps the heap and the log's array
    obtain rfl : c = .clear := by cases c <;> simp_all [RunnerCall.isClear]
    exact ⟨Or.inr ⟨hs, hne⟩, rfl⟩

theorem Apart.replay {s : Slice} (calls : List (RunnerCall Err)) :
    ∀ {r : SliceRunner Err}, Apart s r →
      Apart s (r.replay g calls) ∧ s.view (r.replay g calls).heap = s.view r.heap := by
  induction calls with
  | nil => intro r ha; exact ⟨ha, rfl⟩
  | cons c calls ih =>
    intro r ha
    obtain ⟨ha', hv⟩ := ha.call g c
    obtain ⟨ha'', hv'⟩ := ih ha'
    exact ⟨ha'', hv'.trans hv⟩

/-- A caller's write through a slice apart from the log leaves the runner as
the list model sees it. -/
theorem Apart.callerSet {s : Slice} {r : SliceRunner Err} (ha : Apart s r) {i : Nat}
    (hi : i < s.len) (x : String) : ∃ r', r.callerSet s i x = some r' ∧ r'.toList = r.toList := by
  rcases ha with rfl | ⟨_, hne⟩
  · exact absurd hi (Nat.not_lt_zero _)
  have hset : s.set r.heap i x = some (r.heap.store s.arr (s.off + i) x) := if_pos hi
  refine ⟨_, r.callerSet_of_set hset, ?_⟩
  simp only [toList, Slice.view_store_of_ne hne]

/-- What `GetCommandsByType` returns is apart from the log: it is on arrays the
loop made. -/
theorem apart_getCommandsByType (r : SliceRunner Err) (t : String) :
    Apart (r.getCommandsByType g t).2 (r.call g (.getCommandsByType t)).2 :=
  (r.getCommandsByType_spec g t).2.1.imp id fun ⟨hs, hle⟩ =>
    ⟨hs, (Nat.lt_of_lt_of_le r.ran_inBounds.arr_lt hle).ne'⟩

end SliceRunner

/-- **`GetCommandsByType` hands out a slice of the caller's own.**  From any
state, the slice it returns shows the matching lines of the log; no later call,
`Clear` included, changes what it shows; and a write through it, at any later
time, leaves the runner as the list model sees it, and so every later reply. -/
theorem commands_by_type_owned (r : SliceRunner Err) (t : String) :
    let s := (r.getCommandsByType g t).2
    let r' := (r.call g (.getCommandsByType t)).2
    (r.call g (.getCommandsByType t)).1.read r'.heap = .commands (r.toList.getCommandsByType t) ∧
      ∀ more, s.view (r'.replay g more).heap = s.view r'.heap ∧
        ∀ i x, i < s.len → ∃ r'', (r'.replay g more).callerSet s i x = some r'' ∧
          r''.toList = (r'.replay g more).toList := by
  intro s r'
  refine ⟨congrArg RunnerReply.commands (r.getCommandsByType_spec g t).2.2, fun more => ?_⟩
  obtain ⟨ha, hv⟩ := (r.apart_getCommandsByType g t).replay g more
  exact ⟨hv, fun _ x hi => ha.callerSet hi x⟩

/-- `wg show` and `ip link` logged and the `wg` lines taken; then `Clear` and
`sysctl`: the slice still shows `wg show`. -/
theorem commands_by_type_survive_clear :
    let r := (newSliceRunner ⟨fun _ => [], 0⟩ : SliceRunner String).replay .doubling
      [.run "wg" ["show"], .run "ip" ["link"]]
    let r' := (r.call .doubling (.getCommandsByType "wg")).2
    (r.getCommandsByType .doubling "wg").2.view (r'.replay .doubling [.clear, .run "sysctl" []]).heap =
      ["wg show"] := by
  intro r r'
  exact ((commands_by_type_owned .doubling r "wg").2 [.clear, .run "sysctl" []]).1.trans (by decide)

end HomelabHorizon.System
