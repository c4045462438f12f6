import SilentDisco.Runtime.Properties.Ending
import SilentDisco.Runtime.Properties.Isolation
import SilentDisco.Runtime.Properties.Commits
import SilentDisco.Transport.Properties.Replay
import SilentDisco.Audio.Properties.Stopping
import SilentDisco.Audio.Properties.Ring
import SilentDisco.Audio.Properties.Timing
import SilentDisco.Runtime.Properties.Trust
import SilentDisco.Runtime.Properties.Decisions
import SilentDisco.Runtime.Properties.Selection
import SilentDisco.Transport.Properties.LateJoin
import SilentDisco.Desktop.Properties.Resuming
import SilentDisco.Transport.Properties.ControlStream
import SilentDisco.Sync.Properties.OffsetBound
import SilentDisco.Transport.Properties.TrustRegistry
import SilentDisco.P2.Properties.Invitations
import SilentDisco.Transport.Properties.EventOrder
import SilentDisco.Desktop.Properties.Binding
import SilentDisco.Desktop.Properties.Retargeting
import SilentDisco.Desktop.Properties.GhostRequests
import SilentDisco.Desktop.Properties.Handoff
import SilentDisco.Runtime.Properties.Locking
import SilentDisco.Audio.Properties.Accounting
import SilentDisco.Desktop.Properties.Notifications
import SilentDisco.Runtime.SecureHostAdmission
import SilentDisco.Audio.Properties.LateHead
import SilentDisco.Desktop.Properties.PumpLoop
