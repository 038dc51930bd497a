import TaskStubs.Analysis.CompletionTime
import TaskStubs.Analysis.DependencyOrder
import TaskStubs.Analysis.EventOrder
import TaskStubs.Analysis.WalkCounts
import TaskStubs.Analysis.Decomposition
import TaskStubs.Analysis.Monotone
import TaskStubs.Analysis.Lifetime
import TaskStubs.Analysis.Placeholders
import TaskStubs.Analysis.MeasuredTime
import TaskStubs.Analysis.Segments
import TaskStubs.Analysis.Delays
import TaskStubs.Analysis.Renaming
import TaskStubs.Examples.Printouts
import TaskStubs.Examples.Transcripts
import TaskStubs.Stub.Loading
import TaskStubs.Stub.Timers
import TaskStubs.Tools.TaskBook
import TaskStubs.Tools.Ownership
import TaskStubs.Tools.DestroyedTimers
import TaskStubs.Tools.Agreement
import TaskStubs.Tools.Programs
import TaskStubs.Tools.StaleTexts
import TaskStubs.Tools.EmptyStack
import TaskStubs.Tools.Transfers
import TaskStubs.Tools.Threads
import TaskStubs.Examples.Shuffles
import TaskStubs.Examples.Accounts
