import TrustTunnel.Client.CancelledConnections
import TrustTunnel.Client.DnsHandler
import TrustTunnel.Client.HealthChecks
import TrustTunnel.Client.HostExtraction
import TrustTunnel.Client.IcmpManager
import TrustTunnel.Client.KillSwitch
import TrustTunnel.Client.SessionCache
import TrustTunnel.Client.Socks5Auth
import TrustTunnel.Client.SpillQueue
import TrustTunnel.Client.TaskLifecycle
import TrustTunnel.Client.TunnelConnection
import TrustTunnel.DeepLink.RoundTrip
import TrustTunnel.Endpoint.Checksum
import TrustTunnel.Endpoint.Credentials
import TrustTunnel.Endpoint.ExtensionHeaders
import TrustTunnel.Endpoint.ForwardedChunked
import TrustTunnel.Endpoint.ForwardedRequest
import TrustTunnel.Endpoint.Http1Integrity
import TrustTunnel.Endpoint.Http3Codec
import TrustTunnel.Endpoint.IcmpIsolation
import TrustTunnel.Endpoint.LimiterAccounting
import TrustTunnel.Endpoint.PipeExchange
import TrustTunnel.Endpoint.RequestBody
import TrustTunnel.Endpoint.RequestReencoding
import TrustTunnel.Endpoint.RetryToken
import TrustTunnel.Endpoint.Socks5Client
import TrustTunnel.Endpoint.TcpForwarder
import TrustTunnel.Endpoint.TlsDemux
import TrustTunnel.Endpoint.UdpPipe
import TrustTunnel.Refinement.ClientRandomMatch
import TrustTunnel.Refinement.PaddedAddresses
import TrustTunnel.Refinement.PromptDatagrams
import TrustTunnel.Refinement.UdpFraming
import TrustTunnel.Refinement.UdpUplink
