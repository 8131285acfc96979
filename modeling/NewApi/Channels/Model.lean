import Mathlib.Logic.Function.Basic
import Mathlib.Tactic.Common

/-! Rows of channels and the change of their status (`model/channel.go`). The keys are those that `GetKeys` reads off the key
column, and a map of `channel_info` is given by its entries. -/
namespace NewApi.Channels
variable (channel : Channel) (usingKey : String) (status : Int) (reason : String)

def channelStatusEnabled : Int := 1

def channelStatusManuallyDisabled : Int := 2

def channelStatusAutoDisabled : Int := 3

inductive MultiKeyMode where
  | random | polling
  | other (name : String)

structure ChannelInfo where
  isMultiKey : Bool := false
  multiKeyStatusList : Nat → Option Int := fun _ => none
  multiKeyDisabledReason : Nat → Option String := fun _ => none
  multiKeyDisabledTime : Nat → Option Int := fun _ => none
  multiKeyPollingIndex : Int := 0
  multiKeyMode : MultiKeyMode := .random

/-- The entries of `other_info` that the status code reads or writes. -/
structure OtherInfo where
  statusReason : Option String := none
  statusTime : Option Int := none
  upstreamModelGuard : Bool := false

structure Channel where
  id : Nat
  status : Int := channelStatusEnabled
  keys : List String := []
  models : String := ""
  group : String := ""
  priority : Option Int := none
  weight : Option Nat := none
  tag : Option String := none
  channelInfo : ChannelInfo := {}
  otherInfo : OtherInfo := {}

def ChannelInfo.keyStatus (info : ChannelInfo) (index : Nat) : Int := (info.multiKeyStatusList index).getD channelStatusEnabled

def hasEnabledMultiKey (keys : List String) (info : ChannelInfo) : Bool :=
  (List.range keys.length).any fun index => info.keyStatus index=channelStatusEnabled

def OtherInfo.explain (info : OtherInfo) (reason : String) (now : Int) : OtherInfo :=
  { info with statusReason := some reason, statusTime := some now }

def ChannelInfo.setKeyStatus (info : ChannelInfo) (index : Nat) (status : Int) (reason : String) (now : Int) : ChannelInfo :=
  if status=channelStatusEnabled then
    { info with multiKeyStatusList := Function.update info.multiKeyStatusList index none }
  else
    { info with
      multiKeyStatusList := Function.update info.multiKeyStatusList index (some status)
      multiKeyDisabledReason := Function.update info.multiKeyDisabledReason index (some reason)
      multiKeyDisabledTime := Function.update info.multiKeyDisabledTime index (some now) }

def handlerMultiKeyUpdate (now : Int) : Channel :=
  if channel.keys=[] then { channel with status := status }
  else
    match channel.keys.findIdx? (· = usingKey) with
    | none =>
      if usingKey≠"" then channel
      else { channel with status := status, otherInfo := channel.otherInfo.explain reason now }
    | some keyIndex =>
      let info := channel.channelInfo.setKeyStatus keyIndex status reason now
      if hasEnabledMultiKey channel.keys info then
        { channel with channelInfo := info
                       status := if status=channelStatusEnabled then channelStatusEnabled else channel.status }
      else { channel with channelInfo := info, status := channelStatusAutoDisabled
                          otherInfo := channel.otherInfo.explain "All keys are disabled" now }

def guardRefuses (channel : Channel) (status : Int) (automatic : Bool) : Bool :=
  channel.otherInfo.upstreamModelGuard && channel.status != channelStatusEnabled &&
    (automatic || status != channelStatusEnabled)

def updatedChannel (automatic : Bool) (now : Int) :
    Option Channel :=
  if channel.status=status then none
  else if guardRefuses channel status automatic then none
  else
    let channel := { channel with otherInfo := { channel.otherInfo with upstreamModelGuard := false } }
    if channel.channelInfo.isMultiKey then some (handlerMultiKeyUpdate channel usingKey status reason now)
    else some { channel with status := status, otherInfo := channel.otherInfo.explain reason now }

def updateChannelStatus (automatic : Bool) (now : Int) :
    Channel := (updatedChannel channel usingKey status reason automatic now).getD channel

end NewApi.Channels
