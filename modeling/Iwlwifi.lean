import Iwlwifi.Mvm.ReorderTimer
import Iwlwifi.Mvm.ReorderOrder
import Iwlwifi.Mvm.RxPn
import Iwlwifi.Mvm.Gp2Unwrap
import Iwlwifi.Mvm.TimeRequest
import Iwlwifi.Pcie.TxOverflow
import Iwlwifi.Pcie.GetRxb
import Iwlwifi.Pcie.HcmdFlat
import Iwlwifi.Pcie.RxHandleRb
import Iwlwifi.Mac80211.MeshPathCount
import Iwlwifi.Mac80211.ChanswitchCount
import Iwlwifi.Mac80211.KeyRestart
import Iwlwifi.Mvm.TimeEventRunning
import Iwlwifi.Mac80211.OffchannelStranded
import Iwlwifi.Mvm.InactivityFree
import Iwlwifi.Mvm.RxAgg
import Iwlwifi.Mvm.BaNotif
import Iwlwifi.Mvm.OldsnCount
import Iwlwifi.Mvm.TimingIndication
import Iwlwifi.Mvm.NssnSync
import Iwlwifi.Mac80211.BssidProfile
import Iwlwifi.Mac80211.BeaconTim
import Iwlwifi.Mac80211.ChswCtxs
import Iwlwifi.Wireless.MaxBandwidth
import Iwlwifi.Wireless.NotlistedNontrans
import Iwlwifi.Wireless.IeSplit
import Iwlwifi.Wireless.P2pAttr
import Iwlwifi.Pcie.AmsduChain
import Iwlwifi.Fw.ParseRun
import Iwlwifi.Fw.Cscheme
import Iwlwifi.Fw.NvmMccFaithful
import Iwlwifi.Mac80211.AmpduRxRun
import Iwlwifi.Mac80211.TkipRun
import Iwlwifi.Wireless.ChandefCompatible
import Iwlwifi.Wireless.RadiotapRun
import Iwlwifi.Wireless.RegCanBeacon
import Iwlwifi.Mac80211.PsDeliver
import Iwlwifi.Mac80211.MeshPlinkRun
import Iwlwifi.Mvm.FtmOwnership
import Iwlwifi.Mac80211.AmsduRoundTrip
import Iwlwifi.Mac80211.FragmentRound
import Iwlwifi.Mac80211.AggTxRun
import Iwlwifi.Mac80211.XmitFast
import Iwlwifi.Mac80211.FastRxNormal
import Iwlwifi.Wireless.ParseMbssid
import Iwlwifi.Mvm.TripThresholds
import Iwlwifi.Mvm.ThermalThrottle
import Iwlwifi.Mac80211.AirtimeMetric
import Iwlwifi.Fw.DbgTlvBin
import Iwlwifi.Mvm.TdlsChannelSwitch
import Iwlwifi.Mvm.FtmRangeResp
import Iwlwifi.Wireless.Pmsr
import Iwlwifi.Mac80211.PathDiscovery
import Iwlwifi.Mac80211.MeshGates
import Iwlwifi.Mac80211.KeyRefused
import Iwlwifi.Wireless.ScanRun
import Iwlwifi.Fw.ExternalNvm
import Iwlwifi.Fw.PhyDbSent
import Iwlwifi.Mac80211.MinstrelHtCounts
import Iwlwifi.Mac80211.FairQueueRun
