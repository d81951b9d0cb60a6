import NetworkManager.Config.GlobalDns
import NetworkManager.Config.ListOptions
import NetworkManager.Config.Restart
import NetworkManager.Config.SectionFingerprint
import NetworkManager.Core.Arrays
import NetworkManager.Core.BinarySearch
import NetworkManager.Core.BridgeVlan
import NetworkManager.Core.DbusPath
import NetworkManager.Core.DriverSpec
import NetworkManager.Core.EnumText
import NetworkManager.Core.HwAddr
import NetworkManager.Core.InterfaceIdentifier
import NetworkManager.Core.KeyFileDb
import NetworkManager.Core.KeyfileKey
import NetworkManager.Core.KillProcess
import NetworkManager.Core.ReverseDnsIp6
import NetworkManager.Core.RoutingRuleDbus
import NetworkManager.Core.SriovVfRoundTrip
import NetworkManager.Core.SsidCodec
import NetworkManager.Core.StableMac
import NetworkManager.Core.Strbuf
import NetworkManager.Core.StrsplitSetTokens
import NetworkManager.Core.TrafficRoundTrip
import NetworkManager.Core.UnknownAttributes
import NetworkManager.Core.Utf8SafeClasses
import NetworkManager.Dedup.AddOrder
import NetworkManager.Dedup.Interning
import NetworkManager.Dedup.Length
import NetworkManager.Dhcp.DomainSearch
import NetworkManager.Dhcp.RouteBounds
import NetworkManager.Dmi.StringAccess
import NetworkManager.Dmi.TableCount
import NetworkManager.Dns.BestDevice
import NetworkManager.Dns.ResolvConf
import NetworkManager.Ifcfg.SetValueFrame
import NetworkManager.Initrd.CmdlineWord
import NetworkManager.IpConfig.DependentRoutes
import NetworkManager.IpConfig.Hash
import NetworkManager.IpConfig.IntersectAlloc
import NetworkManager.IpConfig.Subtract
import NetworkManager.Manager.RouteMetric
import NetworkManager.NDisc.Address
import NetworkManager.NDisc.Preference
import NetworkManager.NDisc.Timeout
import NetworkManager.Platform.Ip4AddressRoles
import NetworkManager.Platform.Ip6AddressHash
import NetworkManager.Platform.Ip6AddressOrder
import NetworkManager.Platform.Lifetime
import NetworkManager.Platform.RouteNotification
import NetworkManager.Platform.RouteSyncResult
import NetworkManager.Platform.RulesCleanup
import NetworkManager.Platform.RulesWeak
import NetworkManager.Settings.ConflictingStorage
import NetworkManager.Settings.DefaultWired
import NetworkManager.Settings.DeleteExposure
import NetworkManager.Settings.Nmmeta
import NetworkManager.Settings.Reload
import NetworkManager.Settings.TombstoneTruth
import NetworkManager.Settings.UpdateExposure
