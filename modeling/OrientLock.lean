import OrientLock.Lib.Machine
import OrientLock.Lib.Int32Arith
import OrientLock.Lib.ListOrder
import OrientLock.Lib.Floyd
import OrientLock.Lib.Links
import OrientLock.Orientation
import OrientLock.Kernel
import OrientLock.System
import OrientLock.Unlock
import OrientLock.Pass
import OrientLock.Steps
import OrientLock.Locks
import OrientLock.Lifecycle
import OrientLock.Release
import OrientLock.Heap
import OrientLock.Exclusion
import OrientLock.Wait
import OrientLock.Errors
import OrientLock.Fifo
import OrientLock.Refinement
import OrientLock.Test.Prime
import OrientLock.Test.Trial
import OrientLock.Test.Pollard
import OrientLock.Clients
import OrientLock.Test.Input
import OrientLock.Progress
import OrientLock.Waiters
import OrientLock.Daemon
import OrientLock.Memory
import OrientLock.Test.Programs
import OrientLock.Test.Handoff
