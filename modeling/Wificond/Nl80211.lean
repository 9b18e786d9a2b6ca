import Mathlib.Tactic

/-!
# The nl80211 interface

The commands and attribute ids of `nl80211.h` that the modelled functions use. A command
that is sent is the byte of its header; one that is compared with a received command is
the number read from it.
-/
namespace Wificond

/-- `NL80211_CMD_GET_WIPHY` -/
abbrev cmdGetWiphy : UInt8 := 1

/-- `NL80211_CMD_NEW_WIPHY` -/
abbrev cmdNewWiphy : UInt8 := 3

/-- `NL80211_CMD_GET_STATION` -/
abbrev cmdGetStation : UInt8 := 17

/-- `NL80211_CMD_GET_REG` -/
abbrev cmdGetReg : UInt8 := 31

/-- `NL80211_CMD_GET_SCAN` -/
abbrev cmdGetScan : UInt8 := 32

/-- `NL80211_CMD_TRIGGER_SCAN` -/
abbrev cmdTriggerScan : UInt8 := 33

/-- `NL80211_CMD_START_SCHED_SCAN` -/
abbrev cmdStartSchedScan : UInt8 := 75

/-- `NL80211_CMD_FRAME` -/
abbrev cmdFrame : UInt8 := 59

/-- `NL80211_CMD_GET_PROTOCOL_FEATURES` -/
abbrev cmdGetProtocolFeatures : UInt8 := 95

/-- `NL80211_CMD_ABORT_SCAN` -/
abbrev cmdAbortScan : UInt8 := 114

abbrev cmdNewStation : ℕ := 19
abbrev cmdDelStation : ℕ := 20
abbrev cmdNewScanResults : ℕ := 34
abbrev cmdScanAborted : ℕ := 35
abbrev cmdRegChange : ℕ := 36
abbrev cmdAssociate : ℕ := 38
abbrev cmdDisassociate : ℕ := 40
abbrev cmdConnect : ℕ := 46
abbrev cmdRoam : ℕ := 47
abbrev cmdDisconnect : ℕ := 48
abbrev cmdFrameTxStatus : ℕ := 60
abbrev cmdSchedScanResults : ℕ := 77
abbrev cmdSchedScanStopped : ℕ := 78
abbrev cmdChSwitchNotify : ℕ := 88
abbrev cmdWiphyRegChange : ℕ := 113

/-- `NL80211_ATTR_UNSPEC`, which no attribute carries -/
abbrev attrUnspec : ℕ := 0

/-- `NL80211_ATTR_WIPHY` -/
abbrev attrWiphy : ℕ := 1

/-- `NL80211_ATTR_IFINDEX` -/
abbrev attrIfindex : ℕ := 3

/-- `NL80211_ATTR_MAC` -/
abbrev attrMac : ℕ := 6

/-- `NL80211_ATTR_STA_INFO` -/
abbrev attrStaInfo : ℕ := 21

/-- `NL80211_ATTR_WIPHY_BANDS` -/
abbrev attrWiphyBands : ℕ := 22

/-- `NL80211_ATTR_REG_ALPHA2` -/
abbrev attrRegAlpha2 : ℕ := 33

/-- `NL80211_ATTR_WIPHY_FREQ` -/
abbrev attrWiphyFreq : ℕ := 38

/-- `NL80211_ATTR_IE` -/
abbrev attrIe : ℕ := 42

/-- `NL80211_ATTR_MAX_NUM_SCAN_SSIDS` -/
abbrev attrMaxNumScanSsids : ℕ := 43

/-- `NL80211_ATTR_SCAN_FREQUENCIES` -/
abbrev attrScanFrequencies : ℕ := 44

/-- `NL80211_ATTR_SCAN_SSIDS` -/
abbrev attrScanSsids : ℕ := 45

/-- `NL80211_ATTR_BSS` -/
abbrev attrBss : ℕ := 47

/-- `NL80211_ATTR_REG_TYPE` -/
abbrev attrRegType : ℕ := 49

/-- `NL80211_ATTR_FRAME` -/
abbrev attrFrame : ℕ := 51

/-- `NL80211_ATTR_TIMED_OUT` -/
abbrev attrTimedOut : ℕ := 65

/-- `NL80211_ATTR_STATUS_CODE` -/
abbrev attrStatusCode : ℕ := 72

/-- `NL80211_ATTR_COOKIE` -/
abbrev attrCookie : ℕ := 88

/-- `NL80211_ATTR_ACK` -/
abbrev attrAck : ℕ := 92

/-- `NL80211_ATTR_SCHED_SCAN_INTERVAL` -/
abbrev attrSchedScanInterval : ℕ := 119

/-- `NL80211_ATTR_MAX_NUM_SCHED_SCAN_SSIDS` -/
abbrev attrMaxNumSchedScanSsids : ℕ := 123

/-- `NL80211_ATTR_SCHED_SCAN_MATCH` -/
abbrev attrSchedScanMatch : ℕ := 132

/-- `NL80211_ATTR_MAX_MATCH_SETS` -/
abbrev attrMaxMatchSets : ℕ := 133

/-- `NL80211_ATTR_FEATURE_FLAGS` -/
abbrev attrFeatureFlags : ℕ := 143

/-- `NL80211_ATTR_WDEV` -/
abbrev attrWdev : ℕ := 153

/-- `NL80211_ATTR_SCAN_FLAGS` -/
abbrev attrScanFlags : ℕ := 158

/-- `NL80211_ATTR_CHANNEL_WIDTH` -/
abbrev attrChannelWidth : ℕ := 159

/-- `NL80211_ATTR_PROTOCOL_FEATURES` -/
abbrev attrProtocolFeatures : ℕ := 173

/-- `NL80211_ATTR_SPLIT_WIPHY_DUMP` -/
abbrev attrSplitWiphyDump : ℕ := 174

/-- `NL80211_ATTR_EXT_FEATURES` -/
abbrev attrExtFeatures : ℕ := 217

/-- `NL80211_ATTR_MAX_NUM_SCHED_SCAN_PLANS` -/
abbrev attrMaxNumSchedScanPlans : ℕ := 222

/-- `NL80211_ATTR_MAX_SCAN_PLAN_INTERVAL` -/
abbrev attrMaxScanPlanInterval : ℕ := 223

/-- `NL80211_ATTR_MAX_SCAN_PLAN_ITERATIONS` -/
abbrev attrMaxScanPlanIterations : ℕ := 224

/-- `NL80211_ATTR_SCHED_SCAN_PLANS` -/
abbrev attrSchedScanPlans : ℕ := 225

/-- `NL80211_ATTR_SCHED_SCAN_RSSI_ADJUST` -/
abbrev attrSchedScanRssiAdjust : ℕ := 247

abbrev schedScanMatchAttrSsid : ℕ := 1
abbrev schedScanMatchAttrRssi : ℕ := 2
abbrev schedScanPlanInterval : ℕ := 1
abbrev schedScanPlanIterations : ℕ := 2

abbrev bssBssid : ℕ := 1
abbrev bssFrequency : ℕ := 2
abbrev bssTsf : ℕ := 3
abbrev bssCapability : ℕ := 5
abbrev bssInformationElements : ℕ := 6
abbrev bssSignalMbm : ℕ := 7
abbrev bssStatus : ℕ := 9
abbrev bssBeaconTsf : ℕ := 13
abbrev bssLastSeenBoottime : ℕ := 15
abbrev bssChainSignal : ℕ := 19

abbrev bssStatusAuthenticated : ℤ := 0
abbrev bssStatusAssociated : ℤ := 1

abbrev staInfoSignal : ℕ := 7
abbrev staInfoTxBitrate : ℕ := 8
abbrev staInfoTxPackets : ℕ := 10
abbrev staInfoTxFailed : ℕ := 12
abbrev staInfoRxBitrate : ℕ := 14

/-- `NL80211_RATE_INFO_BITRATE32` -/
abbrev rateInfoBitrate32 : ℕ := 5

abbrev bandAttrFreqs : ℕ := 1
abbrev bandAttrHtMcsSet : ℕ := 3
abbrev bandAttrHtCapa : ℕ := 4
abbrev bandAttrVhtMcsSet : ℕ := 7
abbrev bandAttrVhtCapa : ℕ := 8
abbrev bandAttrIftypeData : ℕ := 9

abbrev bandIftypeAttrHeCapPhy : ℕ := 3
abbrev bandIftypeAttrHeCapMcsSet : ℕ := 4
abbrev bandIftypeAttrEhtCapPhy : ℕ := 9

abbrev frequencyAttrFreq : ℕ := 1
abbrev frequencyAttrDisabled : ℕ := 2
abbrev frequencyAttrNoIr : ℕ := 3
abbrev frequencyAttrDfsState : ℕ := 7

abbrev dfsUsable : ℤ := 0
abbrev dfsUnavailable : ℤ := 1
abbrev dfsAvailable : ℤ := 2

abbrev regdomTypeCountry : UInt8 := 0
abbrev regdomTypeWorld : UInt8 := 1
abbrev regdomTypeCustomWorld : UInt8 := 2
abbrev regdomTypeIntersection : UInt8 := 3

/-- `NL80211_FEATURE_SCAN_RANDOM_MAC_ADDR` -/
abbrev featureScanRandomMacAddr : UInt32 := 0x20000000

/-- `NL80211_FEATURE_SCHED_SCAN_RANDOM_MAC_ADDR` -/
abbrev featureSchedScanRandomMacAddr : UInt32 := 0x40000000

abbrev extFeatureSchedScanRelativeRssi : ℕ := 12
abbrev extFeatureLowSpanScan : ℕ := 22
abbrev extFeatureLowPowerScan : ℕ := 23
abbrev extFeatureHighAccuracyScan : ℕ := 24

abbrev scanFlagRandomAddr : UInt32 := 0x8
abbrev scanFlagLowSpan : UInt32 := 0x100
abbrev scanFlagLowPower : UInt32 := 0x200
abbrev scanFlagHighAccuracy : UInt32 := 0x400
abbrev scanFlagColocated6ghz : UInt32 := 0x4000

end Wificond
