import LinuxAgent.Lib.Run
import LinuxAgent.Lib.Segments
import LinuxAgent.UnsyncedSectors.Store
import LinuxAgent.UnsyncedSectors.Conservation
import LinuxAgent.UnsyncedSectors.Manager
import LinuxAgent.Tracing.TraceHandler
import LinuxAgent.Synchronizer.DoSync
import LinuxAgent.Synchronizer.Coverage
import LinuxAgent.Synchronizer.Freezing
import LinuxAgent.Backup.Coordinator
import LinuxAgent.Backup.DoBackup
import LinuxAgent.Backup.Verdict
import LinuxAgent.Backup.Counting
import LinuxAgent.Backup.EarlyExit
import LinuxAgent.Backup.Builder
import LinuxAgent.Backup.Seeding
import LinuxAgent.Backup.Manager
import LinuxAgent.Backup.Exclusivity
import LinuxAgent.Freeze.FreezeHelper
import LinuxAgent.Freeze.Windows
import LinuxAgent.Freeze.Wakeups
import LinuxAgent.Tracing.CpuTracer
import LinuxAgent.Tracing.DeviceTracer
import LinuxAgent.Backup.LifeCycle
import LinuxAgent.Backup.JobStatus
import LinuxAgent.Logging.QueuingLogSink
import LinuxAgent.Synchronizer.BlockLoop
import LinuxAgent.UnsyncedSectors.Volatility
import LinuxAgent.Lib.Tour
import LinuxAgent.UnsyncedSectors.Rounds
import LinuxAgent.Lib.ByteStream
import LinuxAgent.Tracing.SkipPayload
import LinuxAgent.Tracing.TraceStream
import LinuxAgent.BlockDevice.NbdClient
import LinuxAgent.BlockDevice.MountTable
import LinuxAgent.BlockDevice.ExtInUse
import LinuxAgent.RequestListener.Framing
import LinuxAgent.UnsyncedSectors.TracerCalls
import LinuxAgent.Backup.StartFailure
import LinuxAgent.Backup.Endings
import LinuxAgent.Backup.CreationSteps
import LinuxAgent.Backup.FullSeeding
import LinuxAgent.Synchronizer.Retarget
import LinuxAgent.Backup.Chain
import LinuxAgent.Backup.Accounting
import LinuxAgent.Backup.PointInTime
import LinuxAgent.FsAwareBdCopy.Measure
import LinuxAgent.FsAwareBdCopy.Copy
import LinuxAgent.RequestListener.Listener
import LinuxAgent.RequestListener.Calls
import LinuxAgent.RequestListener.Answers
import LinuxAgent.RequestListener.Exit
import LinuxAgent.Lib.Text
import LinuxAgent.BlockDevice.XfsInUse
import LinuxAgent.Lib.Ownership
import LinuxAgent.BlockDevice.Mountable
import LinuxAgent.Freeze.FrozenDevices
import LinuxAgent.BlockDevice.NbdDevices
import LinuxAgent.Dattod.PidFile
import LinuxAgent.Tracing.BlockTrace
import LinuxAgent.Backup.Progress
