import HomelabHorizon.System.FileSystem

/-! # The dry-run command runner

`DryRunCommandRunner` (`internal/system/interfaces.go`) runs nothing.  Each
`Run`, `Output`, `CombinedOutput` and `Start` appends the command line to an
invocation log and answers from two tables a test fills in beforehand: a canned
error per command line (`AddError`), else a canned output (`AddOutput`), else
empty output.  `LookPath` is logged too and always answers `/usr/bin/<file>`.
`Clear` empties the log and both tables.

A Go `error` is `Option Err`, `none` being `nil`: `AddError` may register `nil`
itself.  The `context.Context` arguments are not read by the dry run and are
left out.  As for the filesystem, the mutex makes every method one step.
-/
namespace HomelabHorizon.System

/-- `commandString`: the first word, then each further word after one blank.
`cmd[0]` panics on an empty slice; every caller passes a name first. -/
def commandString : (cmd : List String) → cmd ≠ [] → String
  | c :: rest, _ => rest.foldl (fun result arg => result ++ " " ++ arg) c

/-- The line `commandString(append([]string{name}, args...))` of a call. -/
def cmdLine (name : String) (args : List String) : String :=
  commandString (name :: args) (List.cons_ne_nil _ _)

/-- `commandString` joins the words with single blanks. -/
theorem cmdLine_eq_intercalate (name : String) (args : List String) :
    cmdLine name args = " ".intercalate (name :: args) := by
  simp only [cmdLine, commandString, String.intercalate]
  induction args generalizing name with
  | nil => rfl
  | cons a args ih => exact ih _

/-- `mockProcess`: the handle a dry-run `Start` returns. -/
structure MockProcess where
  deriving DecidableEq, Repr

namespace MockProcess
variable {Err : Type}
/-- `Wait` succeeds at once. -/
def wait (_ : MockProcess) : Option Err := none
/-- `Kill` succeeds at once. -/
def kill (_ : MockProcess) : Option Err := none
end MockProcess

/-- The runner's state.  `outputs` is the source's `output` map, renamed
because `output` is the method. -/
structure DryRunCommandRunner (Err : Type) where
  ran : List String
  outputs : GoMap Bytes
  errors : GoMap (Option Err)

/-- `NewDryRunCommandRunner`: an empty log and empty tables. -/
def newDryRunCommandRunner {Err : Type} : DryRunCommandRunner Err := ⟨[], ∅, ∅⟩

namespace DryRunCommandRunner
variable {Err : Type} (r : DryRunCommandRunner Err)

/-- `r.ran = append(r.ran, entry)`. -/
@[simp] def log (entry : String) : DryRunCommandRunner Err := { r with ran := r.ran ++ [entry] }

/-- `Run`: log the line; return the error registered for it, else `nil`. -/
def run (name : String) (args : List String) : Option Err × DryRunCommandRunner Err :=
  let cmdStr := cmdLine name args
  (match r.errors.lookup cmdStr with
    | some err => err
    | none => none,
   r.log cmdStr)

/-- `Output`: log the line; `nil` and the registered error, else the registered
output, else empty output. -/
def output (name : String) (args : List String) :
    (Bytes × Option Err) × DryRunCommandRunner Err :=
  let cmdStr := cmdLine name args
  (match r.errors.lookup cmdStr with
    | some err => ([], err)
    | none =>
      match r.outputs.lookup cmdStr with
      | some out => (out, none)
      | none => ([], none),
   r.log cmdStr)

/-- `CombinedOutput` is `Output`. -/
def combinedOutput (name : String) (args : List String) :
    (Bytes × Option Err) × DryRunCommandRunner Err :=
  r.output name args

/-- `Start`: log the line; a nil handle and the registered error, else a mock
process. -/
def start (name : String) (args : List String) :
    (Option MockProcess × Option Err) × DryRunCommandRunner Err :=
  let cmdStr := cmdLine name args
  (match r.errors.lookup cmdStr with
    | some err => (none, err)
    | none => (some ⟨⟩, none),
   r.log cmdStr)

/-- `LookPath`: log `lookpath: <file>` and answer `/usr/bin/<file>`. -/
def lookPath (file : String) : (String × Option Err) × DryRunCommandRunner Err :=
  (("/usr/bin/" ++ file, none), r.log ("lookpath: " ++ file))

/-- `AddOutput` registers canned output for a command line. -/
@[simp] def addOutput (command : String) (output : Bytes) : DryRunCommandRunner Err :=
  { r with outputs := r.outputs.insert command output }

/-- `AddError` registers a canned error for a command line. -/
@[simp] def addError (command : String) (err : Option Err) : DryRunCommandRunner Err :=
  { r with errors := r.errors.insert command err }

/-- `GetRunCommands` hands back the log itself. -/
def getRunCommands : List String := r.ran

/-- `GetLastCommands`: the whole log when it is no longer than `count`, else
`r.ran[len(r.ran)-count:]`. -/
def getLastCommands (count : Int) : Option (List String) :=
  if (r.ran.length : Int) ≤ count then some r.ran
  else sliceFrom r.ran (r.ran.length - count)

/-- `GetCommandsByType`: the logged lines containing `cmdType`, all of them for
an empty `cmdType`. -/
def getCommandsByType (cmdType : String) : List String :=
  r.ran.filter fun cmd => decide (cmdType = "") || stringsContains cmd cmdType

/-- `Clear`: `r.ran[:0]` and two fresh tables. -/
@[simp] def clear (_ : DryRunCommandRunner Err) : DryRunCommandRunner Err := ⟨[], ∅, ∅⟩

end DryRunCommandRunner

/-! ## Calls and replies -/

/-- One call on the runner. -/
inductive RunnerCall (Err : Type)
  | run (name : String) (args : List String)
  | output (name : String) (args : List String)
  | combinedOutput (name : String) (args : List String)
  | start (name : String) (args : List String)
  | lookPath (file : String)
  | addOutput (command : String) (output : Bytes)
  | addError (command : String) (err : Option Err)
  | getRunCommands
  | getLastCommands (count : Int)
  | getCommandsByType (cmdType : String)
  | clear

/-- What a call returns; `none` in `lastCommands` is a panic. -/
inductive RunnerReply (Err : Type)
  | error (err : Option Err)
  | output (out : Bytes) (err : Option Err)
  | process (p : Option MockProcess) (err : Option Err)
  | path (path : String) (err : Option Err)
  | unit
  | commands (cmds : List String)
  | lastCommands (cmds : Option (List String))

namespace DryRunCommandRunner
variable {Err : Type}

/-- One call: its reply and the state after it. -/
def call (r : DryRunCommandRunner Err) :
    RunnerCall Err → RunnerReply Err × DryRunCommandRunner Err
  | .run n a => let (e, r) := r.run n a; (.error e, r)
  | .output n a => let ((o, e), r) := r.output n a; (.output o e, r)
  | .combinedOutput n a => let ((o, e), r) := r.combinedOutput n a; (.output o e, r)
  | .start n a => let ((p, e), r) := r.start n a; (.process p e, r)
  | .lookPath f => let ((p, e), r) := r.lookPath f; (.path p e, r)
  | .addOutput c o => (.unit, r.addOutput c o)
  | .addError c e => (.unit, r.addError c e)
  | .getRunCommands => (.commands r.getRunCommands, r)
  | .getLastCommands n => (.lastCommands (r.getLastCommands n), r)
  | .getCommandsByType t => (.commands (r.getCommandsByType t), r)
  | .clear => (.unit, r.clear)

/-- The state after a sequence of calls. -/
def replay (r : DryRunCommandRunner Err) (calls : List (RunnerCall Err)) :
    DryRunCommandRunner Err :=
  calls.foldl (fun r c => (r.call c).2) r

theorem replay_append_single (r : DryRunCommandRunner Err) (calls : List (RunnerCall Err))
    (c : RunnerCall Err) : r.replay (calls ++ [c]) = ((r.replay calls).call c).2 := by
  simp [replay, List.foldl_append]

end DryRunCommandRunner

end HomelabHorizon.System
