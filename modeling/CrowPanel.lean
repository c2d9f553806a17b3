import CrowPanel.DataModel.Classification
import CrowPanel.OpcUa.ContinuationPoints
import CrowPanel.OpcUa.Endpoint
import CrowPanel.OpcUa.NodeIdText
import CrowPanel.OpcUa.ValueQuality
import CrowPanel.Settings.CredentialForm
import CrowPanel.Settings.DnsServer
import CrowPanel.Settings.EndpointAgreement
import CrowPanel.Settings.EndpointForm
import CrowPanel.Settings.FormLookup
import CrowPanel.Settings.HtmlEscapeBuffer
import CrowPanel.Settings.OverlayHandlers
import CrowPanel.Settings.OverlayPortals
import CrowPanel.Settings.PortalResources
import CrowPanel.Settings.ScanList
import CrowPanel.Settings.SystemSettings
import CrowPanel.Settings.UartCommands
import CrowPanel.Settings.UartCredentials
import CrowPanel.Settings.UartDispatch
import CrowPanel.Simulator.AddressSpace
import CrowPanel.Simulator.AlarmAgreement
import CrowPanel.Simulator.AlarmCauses
import CrowPanel.Simulator.AlarmMessage
import CrowPanel.Simulator.Commands
import CrowPanel.Simulator.CommandsShown
import CrowPanel.Simulator.LiveValues
import CrowPanel.Simulator.PhysicsBounds
import CrowPanel.Simulator.PublishedRanges
import CrowPanel.Simulator.Snapshot
import CrowPanel.Simulator.TemperatureDelay
import CrowPanel.Sleep.IdleMonitor
import CrowPanel.Sleep.Timers
import CrowPanel.Ui.Bound
import CrowPanel.Ui.DiscoveryRun
import CrowPanel.Ui.HierarchyCards
import CrowPanel.Ui.HumanizeContent
import CrowPanel.Ui.ManualMode
import CrowPanel.Ui.SignalSelection
import CrowPanel.Ui.Slider
import CrowPanel.Ui.SwitchDisplay
import CrowPanel.Ui.TrendScaling
import CrowPanel.Ui.TrendUnits
import CrowPanel.Wifi.Address
import CrowPanel.Wifi.Connectivity
import CrowPanel.Wifi.DriverConfig
import CrowPanel.Wifi.FirmwareUpdate
import CrowPanel.Wifi.NetworkSwitch
import CrowPanel.Wifi.SavedCredentials
import CrowPanel.Wifi.SavedState
import CrowPanel.Wifi.Scanner
import CrowPanel.Wifi.UserDisconnect
