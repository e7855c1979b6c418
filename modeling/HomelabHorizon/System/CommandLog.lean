import HomelabHorizon.System.CommandRunner

/-! # The runner's log and replies, over every call sequence

What a test reads back from the runner is a function of the calls made since
the last `Clear`: the log holds one line per logged call, in order
(`invocationLog`), and each command line answers with the last error
registered for it, else the last output (`registeredError`,
`registeredOutput`).  `Tracks` says the runner's three fields are exactly these;
every call keeps it (`tracks_call`), so every run does (`tracks_replay`), and
the replies follow (`runner_log_and_replies`).

`GetLastCommands` is the one accessor that can fail: it slices the log at
`len - count`, which is out of bounds for every negative `count`
(`getLastCommands_eq`).
-/
namespace HomelabHorizon.System
variable {Err : Type}

/-! ## The calls, command line by command line -/

namespace RunnerCall

/-- Whether the call is `Clear`. -/
def isClear : RunnerCall Err → Bool
  | .clear => true
  | _ => false

/-- The line the call appends to the log. -/
def logEntry : RunnerCall Err → Option String
  | .run n a | .output n a | .combinedOutput n a | .start n a => some (cmdLine n a)
  | .lookPath file => some ("lookpath: " ++ file)
  | _ => none

/-- The error the call registers for `cmd`, when it is an `AddError` for `cmd`. -/
def errorFor (cmd : String) : RunnerCall Err → Option (Option Err)
  | .addError c e => if c = cmd then some e else none
  | _ => none

/-- The output the call registers for `cmd`, when it is an `AddOutput` for `cmd`. -/
def outputFor (cmd : String) : RunnerCall Err → Option Bytes
  | .addOutput c o => if c = cmd then some o else none
  | _ => none

end RunnerCall

/-- The calls made since the last `Clear`. -/
def sinceClear (calls : List (RunnerCall Err)) : List (RunnerCall Err) :=
  (calls.reverse.takeWhile fun c => !c.isClear).reverse

/-- One line per logged call since the last `Clear`, in call order. -/
def invocationLog (calls : List (RunnerCall Err)) : List String :=
  (sinceClear calls).filterMap RunnerCall.logEntry

/-- The error most recently registered for `cmd` since the last `Clear`. -/
def registeredError (calls : List (RunnerCall Err)) (cmd : String) : Option (Option Err) :=
  ((sinceClear calls).filterMap (RunnerCall.errorFor cmd)).getLast?

/-- The output most recently registered for `cmd` since the last `Clear`. -/
def registeredOutput (calls : List (RunnerCall Err)) (cmd : String) : Option Bytes :=
  ((sinceClear calls).filterMap (RunnerCall.outputFor cmd)).getLast?

theorem sinceClear_snoc (calls : List (RunnerCall Err)) (c : RunnerCall Err) :
    sinceClear (calls ++ [c]) = if c.isClear then [] else sinceClear calls ++ [c] := by
  cases h : c.isClear <;> simp [sinceClear, List.takeWhile_cons, h]

theorem invocationLog_snoc (calls : List (RunnerCall Err)) (c : RunnerCall Err) :
    invocationLog (calls ++ [c]) =
      if c.isClear then [] else invocationLog calls ++ c.logEntry.toList := by
  rw [invocationLog, sinceClear_snoc]
  split
  · rfl
  · cases h : c.logEntry <;> simp [invocationLog, h]

theorem registeredError_snoc (calls : List (RunnerCall Err)) (c : RunnerCall Err)
    (cmd : String) : registeredError (calls ++ [c]) cmd =
      if c.isClear then none else (c.errorFor cmd).or (registeredError calls cmd) := by
  rw [registeredError, sinceClear_snoc]
  split
  · rfl
  · cases h : c.errorFor cmd <;> simp [registeredError, h]

theorem registeredOutput_snoc (calls : List (RunnerCall Err)) (c : RunnerCall Err)
    (cmd : String) : registeredOutput (calls ++ [c]) cmd =
      if c.isClear then none else (c.outputFor cmd).or (registeredOutput calls cmd) := by
  rw [registeredOutput, sinceClear_snoc]
  split
  · rfl
  · cases h : c.outputFor cmd <;> simp [registeredOutput, h]

/-! ## One call -/

namespace DryRunCommandRunner
variable (r : DryRunCommandRunner Err)

theorem call_ran (c : RunnerCall Err) :
    (r.call c).2.ran = if c.isClear then [] else r.ran ++ c.logEntry.toList := by
  cases c <;> simp [call, run, output, combinedOutput, start, lookPath, RunnerCall.isClear,
    RunnerCall.logEntry]

theorem call_errors (c : RunnerCall Err) (cmd : String) :
    (r.call c).2.errors.lookup cmd =
      if c.isClear then none else (c.errorFor cmd).or (r.errors.lookup cmd) := by
  cases c <;> try rfl
  rename_i q e
  by_cases h : q = cmd
  · subst h; simp [call, RunnerCall.errorFor, RunnerCall.isClear]
  · simp [call, RunnerCall.errorFor, RunnerCall.isClear, h, Ne.symm h]

theorem call_outputs (c : RunnerCall Err) (cmd : String) :
    (r.call c).2.outputs.lookup cmd =
      if c.isClear then none else (c.outputFor cmd).or (r.outputs.lookup cmd) := by
  cases c <;> try rfl
  rename_i q o
  by_cases h : q = cmd
  · subst h; simp [call, RunnerCall.outputFor, RunnerCall.isClear]
  · simp [call, RunnerCall.outputFor, RunnerCall.isClear, h, Ne.symm h]

end DryRunCommandRunner

/-! ## Every run -/

/-- **The runner holds what the calls since the last `Clear` registered.** -/
structure Tracks (r : DryRunCommandRunner Err) (calls : List (RunnerCall Err)) : Prop where
  ran : r.ran = invocationLog calls
  errors : ∀ cmd, r.errors.lookup cmd = registeredError calls cmd
  outputs : ∀ cmd, r.outputs.lookup cmd = registeredOutput calls cmd

theorem tracks_new : Tracks (newDryRunCommandRunner : DryRunCommandRunner Err) [] :=
  ⟨rfl, fun _ => rfl, fun _ => rfl⟩

theorem tracks_call {r : DryRunCommandRunner Err} {calls : List (RunnerCall Err)}
    (h : Tracks r calls) (c : RunnerCall Err) : Tracks (r.call c).2 (calls ++ [c]) where
  ran := by rw [r.call_ran, h.ran, invocationLog_snoc]
  errors cmd := by rw [r.call_errors, h.errors, registeredError_snoc]
  outputs cmd := by rw [r.call_outputs, h.outputs, registeredOutput_snoc]

theorem tracks_replay (calls : List (RunnerCall Err)) :
    Tracks (newDryRunCommandRunner.replay calls) calls := by
  induction calls using List.reverseRecOn with
  | nil => exact tracks_new
  | append_singleton calls c ih =>
    rw [DryRunCommandRunner.replay_append_single]
    exact tracks_call ih c

/-- **Log and replies of the dry-run runner, after any calls.**  The log is one
line per logged call since the last `Clear`.  A command line with an error
registered since then gets that error from `Run`, `Output`, `CombinedOutput`
and `Start`; without one, all four succeed and the two output calls return the
last output registered for it, or nothing. -/
theorem runner_log_and_replies (calls : List (RunnerCall Err)) (name : String)
    (args : List String) :
    let r := newDryRunCommandRunner.replay calls
    r.getRunCommands = invocationLog calls ∧
    (∀ e, registeredError calls (cmdLine name args) = some e →
      (r.run name args).1 = e ∧ (r.output name args).1.2 = e ∧
      (r.combinedOutput name args).1.2 = e ∧ (r.start name args).1.2 = e) ∧
    (registeredError calls (cmdLine name args) = none →
      (r.run name args).1 = none ∧
      (r.output name args).1 = ((registeredOutput calls (cmdLine name args)).getD [], none) ∧
      (r.combinedOutput name args).1 =
        ((registeredOutput calls (cmdLine name args)).getD [], none) ∧
      (r.start name args).1 = (some ⟨⟩, none)) := by
  intro r
  have h := tracks_replay calls
  refine ⟨h.ran, fun e he => ?_, fun he => ?_⟩
  · simp [r, DryRunCommandRunner.run, DryRunCommandRunner.output,
      DryRunCommandRunner.combinedOutput, DryRunCommandRunner.start, h.errors, he]
  · cases ho : registeredOutput calls (cmdLine name args) <;>
      simp [r, DryRunCommandRunner.run, DryRunCommandRunner.output,
        DryRunCommandRunner.combinedOutput, DryRunCommandRunner.start, h.errors, h.outputs, he, ho]

/-- A `nil` registered by `AddError` still counts as registered: `Output` then
answers with no output whatever `AddOutput` registered, and `Start` hands back
a nil process with a nil error. -/
theorem nil_error_shadows_output (calls : List (RunnerCall Err)) (name : String)
    (args : List String) (h : registeredError calls (cmdLine name args) = some none) :
    let r := newDryRunCommandRunner.replay calls
    (r.output name args).1 = ([], none) ∧ (r.start name args).1 = (none, none) := by
  intro r
  have ht := tracks_replay calls
  simp [r, DryRunCommandRunner.output, DryRunCommandRunner.start, ht.errors, h]

/-- `AddOutput("echo hi", …)` then `AddError("echo hi", nil)`: `Output` of
`echo hi` returns nothing and `Start` a nil process. -/
theorem nil_error_shadows_echo_output :
    let calls : List (RunnerCall String) :=
      [.addOutput "echo hi" [104, 105], .addError "echo hi" none]
    registeredError calls (cmdLine "echo" ["hi"]) = some none ∧
      ((newDryRunCommandRunner.replay calls).output "echo" ["hi"]).1 = ([], none) ∧
      ((newDryRunCommandRunner.replay calls).start "echo" ["hi"]).1 = (none, none) :=
  ⟨rfl, nil_error_shadows_output _ "echo" ["hi"] rfl⟩

/-! ## The last commands -/

/-- `GetLastCommands` in every state: the last `count` lines of the log, all of
it for a `count` past its length, and a panic for a negative `count`. -/
theorem getLastCommands_eq (r : DryRunCommandRunner Err) (count : Int) :
    r.getLastCommands count =
      if 0 ≤ count then some (r.ran.drop (r.ran.length - count.toNat)) else none := by
  unfold DryRunCommandRunner.getLastCommands sliceFrom
  by_cases hc : 0 ≤ count
  · rw [if_pos hc]
    split_ifs with hall hbound
    · -- the log is no longer than `count`: all of it
      rw [Nat.sub_eq_zero_of_le (by omega), List.drop_zero]
    · -- `0 ≤ len - count ≤ len`: the slice is in bounds
      congr 2
      omega
    · exact absurd ⟨by omega, by omega⟩ hbound
  · rw [if_neg hc, if_neg (by omega), if_neg (by omega)]

/-- `GetLastCommands(-1)` after one logged call slices `r.ran[2:]` out of a log
of length one. -/
theorem getLastCommands_negative_panics :
    ((newDryRunCommandRunner : DryRunCommandRunner String).replay
      [.run "wg" ["show", "wg0"]]).getLastCommands (-1) = none := by
  decide

end HomelabHorizon.System
