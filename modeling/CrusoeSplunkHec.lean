import CrusoeSplunkHec.Event
import CrusoeSplunkHec.SplunkHec
import CrusoeSplunkHec.CrusoeClient
import CrusoeSplunkHec.Persistence
import CrusoeSplunkHec.Deduplicator
import CrusoeSplunkHec.Tracking
import CrusoeSplunkHec.Forwarder
import CrusoeSplunkHec.Daemon
import CrusoeSplunkHec.System
import CrusoeSplunkHec.Config
import CrusoeSplunkHec.Signer
