import Cloudflared.Errors
import Cloudflared.EdgeAddrHandler
import Cloudflared.ProtocolFallback
import Cloudflared.EdgeDialer
import Cloudflared.TunnelServer
import Cloudflared.Supervisor.State
import Cloudflared.Supervisor.Step
import Cloudflared.Supervisor.Frame
import Cloudflared.Supervisor.Accounting
import Cloudflared.Supervisor.TunnelsActive
import Cloudflared.Supervisor.Shutdown
import Cloudflared.Supervisor.ConnIndex
import Cloudflared.Supervisor.Fallback
import Cloudflared.Supervisor.Retries
import Cloudflared.Supervisor.Connecting
import Cloudflared.Supervisor.Signals
import Cloudflared.Supervisor.Returns
import Cloudflared.Supervisor.Capacity
import Cloudflared.Supervisor.Stop
