import WireguardRs.Platform.ByteOrder
import WireguardRs.Platform.Linux.Endpoint
import WireguardRs.Platform.Linux.Socket
import WireguardRs.Platform.Linux.Kernel
import WireguardRs.Platform.Linux.Bind
import WireguardRs.Wireguard.Padding
import WireguardRs.Wireguard.TunWorker
import WireguardRs.Wireguard.UdpWorker
import WireguardRs.Wireguard.Pending
import WireguardRs.Wireguard.HandshakeWorker
