import HomelabHorizon.Acme.Provider

/-! # What `LoggingProvider` logs over a run of challenges

Lego calls `Present` and `CleanUp` on the provider for each domain it
validates.  Through `LoggingProvider`, each call sends its lines to `logFn`, one
message a line (`runLog`).  A call's first line names the challenge record, and
the next one says by its mark whether the wrapped call failed: `✗` or `⚠` for a
failure, `✓` for a success, which `Present` follows with the propagation
notice.

So the log can be read back line by line (`readLog`): between calls a reader
expects an opening line, and after one, that call's outcome.  Reading the log of
any run gives back every call made, in order, with its domain and whether it
failed (`readLog_runLog`): whatever the domains, the errors and the durations
printed, no call is lost, and none is taken for another.
-/
namespace HomelabHorizon.Acme
variable {P L : Type}

/-- A call lego makes on the provider, with the rounded duration `%v` prints
for it. -/
inductive ChallengeCall
  | present (domain token keyAuth elapsed : String)
  | cleanUp (domain token keyAuth elapsed : String)

/-- A call as a log records it: which call, for which domain, and whether it
failed. -/
inductive LoggedCall
  | present (domain : String) (failed : Bool)
  | cleanUp (domain : String) (failed : Bool)
  deriving DecidableEq, Repr

namespace LoggingProvider
variable (ops : ProviderOps P) (p : LoggingProvider P L)

/-- One call through the wrapper: the lines it logs and the error it returns. -/
def callLog : ChallengeCall → List String × Option String
  | .present domain token keyAuth elapsed => p.present ops domain token keyAuth elapsed
  | .cleanUp domain token keyAuth elapsed => p.cleanUp ops domain token keyAuth elapsed

/-- The lines a run of calls logs, in order. -/
def runLog (calls : List ChallengeCall) : List String :=
  calls.flatMap fun c => (p.callLog ops c).1

/-- What the log should record of a call: the wrapped provider's outcome. -/
def logged : ChallengeCall → LoggedCall
  | .present domain token keyAuth _ =>
    .present domain (ops.present p.provider domain token keyAuth).isSome
  | .cleanUp domain token keyAuth _ =>
    .cleanUp domain (ops.cleanUp p.provider domain token keyAuth).isSome

end LoggingProvider

/-! ## Reading a log back -/

/-- What a reader of the log expects next: an opening line, the outcome of
`Present` or of `CleanUp` for a domain, or the propagation notice. -/
inductive Reader
  | idle
  | creating (domain : String)
  | created (domain : String)
  | cleaning (domain : String)
  deriving DecidableEq, Repr

/-- The first four characters of a line, which tell its kind. -/
def mark (line : String) : List Char := line.data.take 4

/-- The line with the first `n` characters dropped. -/
def dropFirst (n : Nat) (line : String) : String := ⟨line.data.drop n⟩

/-- The opening lines, up to the domain. -/
def createOpening : String := "  Creating DNS TXT record: " ++ "_acme-challenge."
def cleanOpening : String := "  Cleaning up DNS TXT record: " ++ "_acme-challenge."

/-- The notice `Present` logs after a success. -/
def propagationNotice : String := "  Waiting for DNS propagation (this may take 30-120 seconds)..."

/-- One line read: the reader's next state and the calls read so far, or
`none` where the line does not fit. -/
def readLine : Reader × List LoggedCall → String → Option (Reader × List LoggedCall)
  | (.idle, calls), line =>
    if mark line = mark createOpening then
      some (.creating (dropFirst createOpening.length line), calls)
    else if mark line = mark cleanOpening then
      some (.cleaning (dropFirst cleanOpening.length line), calls)
    else none
  | (.creating domain, calls), line =>
    if mark line = "  ✗ ".data then some (.idle, calls ++ [.present domain true])
    else if mark line = "  ✓ ".data then some (.created domain, calls)
    else none
  | (.created domain, calls), line =>
    if line = propagationNotice then some (.idle, calls ++ [.present domain false]) else none
  | (.cleaning domain, calls), line =>
    if mark line = "  ⚠ ".data then some (.idle, calls ++ [.cleanUp domain true])
    else if mark line = "  ✓ ".data then some (.idle, calls ++ [.cleanUp domain false])
    else none

/-- The calls a log records, if it reads as whole calls. -/
def readLog (lines : List String) : Option (List LoggedCall) :=
  match lines.foldlM readLine (.idle, []) with
  | some (.idle, calls) => some calls
  | _ => none

namespace LoggingProvider
variable (ops : ProviderOps P) (p : LoggingProvider P L)

/-- **The lines of one call read back as that call**: from between calls, the
reader ends between calls with the call recorded. -/
theorem foldlM_readLine_callLog (c : ChallengeCall) (calls : List LoggedCall) :
    (p.callLog ops c).1.foldlM readLine (.idle, calls) = some (.idle, calls ++ [p.logged ops c]) := by
  -- the mark of each line is in its fixed text, before the domain, the
  -- duration or the error, and the opening line ends with the domain
  cases c with
  | present domain token keyAuth elapsed =>
    simp only [callLog, present, logged]
    cases ops.present p.provider domain token keyAuth <;> rfl
  | cleanUp domain token keyAuth elapsed =>
    simp only [callLog, cleanUp, logged]
    cases ops.cleanUp p.provider domain token keyAuth <;> rfl

theorem foldlM_readLine_runLog (calls : List ChallengeCall) :
    ∀ acc : List LoggedCall,
      (p.runLog ops calls).foldlM readLine (.idle, acc) = some (.idle, acc ++ calls.map (p.logged ops)) := by
  induction calls with
  | nil => intro acc; simp [runLog]
  | cons c calls ih =>
    intro acc
    rw [runLog, List.flatMap_cons, List.foldlM_append, foldlM_readLine_callLog]
    simp only [Option.bind_eq_bind, Option.some_bind]
    rw [← runLog, ih, List.map_cons, List.append_assoc, List.singleton_append]

end LoggingProvider

/-- **The challenge log records every call.**  Whatever calls lego makes
through `LoggingProvider`, and whatever the wrapped provider answers, reading
the lines logged gives back each call in order, with its domain and whether
the wrapped call failed. -/
theorem readLog_runLog (ops : ProviderOps P) (p : LoggingProvider P L) (calls : List ChallengeCall) :
    readLog (p.runLog ops calls) = some (calls.map (p.logged ops)) := by
  rw [readLog, p.foldlM_readLine_runLog ops calls [], List.nil_append]

end HomelabHorizon.Acme
