import HomelabHorizon.Go
import HomelabHorizon.Go.Slice
import HomelabHorizon.System.FileSystem
import HomelabHorizon.System.DryRunRecords
import HomelabHorizon.System.FileSystemMemory
import HomelabHorizon.System.CommandRunner
import HomelabHorizon.System.CommandLog
import HomelabHorizon.System.SharedDryRun
import HomelabHorizon.System.RunnerMemory
import HomelabHorizon.Acme.Provider
import HomelabHorizon.Acme.Sequence
import HomelabHorizon.Acme.ChallengeLog
