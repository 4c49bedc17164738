import SsrClient.Tunnel
import SsrClient.InitialPackage
import SsrClient.Shim
import SsrClient.Handlers
import SsrClient.Machine
import SsrClient.Flight
import SsrClient.History
import SsrClient.Invariant
import SsrClient.Stages
import SsrClient.Preservation
import SsrClient.Session
import SsrClient.Forwarding
import SsrClient.Safety
import SsrClient.Cipher
import SsrClient.Replies
import SsrClient.Defects
import SsrClient.Registry
