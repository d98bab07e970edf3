/-
Why a bearer could not be set up, or was lost.

A cause has a code, by which the radio reports it, and two properties: a permanent cause makes
another attempt with the same settings pointless, and a notable cause is worth an entry in the
event log.

* `ofCode_code` — every cause is found again by its code;
* `ofCode_eq_noCause_iff` — only the code zero stands for no failure.
-/
import PacketBearer.Text.Numeral

namespace PacketBearer

/-- A cause of failure.  `noCause` is the code of an attempt that did not fail. -/
inductive Cause where
  | noCause
  | operatorBarred
  | insufficientResources
  | missingUnknownApn
  | unknownPdpAddressType
  | userAuthentication
  | activationRejectGgsn
  | activationRejectUnspecified
  | serviceOptionNotSupported
  | serviceOptionNotSubscribed
  | serviceOptionOutOfOrder
  | nsapiInUse
  | onlyIpv4Allowed
  | onlyIpv6Allowed
  | onlySingleBearerAllowed
  | protocolErrors
  | registrationFail
  | gprsRegistrationFail
  | signalLost
  | prefRadioTechChanged
  | radioPowerOff
  | tetheredCallActive
  | errorUnspecified
  | unknown
  | radioNotAvailable
  | unacceptableNetworkParameter
  | controlChannelBroken
  deriving DecidableEq, Repr

namespace Cause

/-- All causes, in the order of their definition. -/
def all : List Cause :=
  [.noCause, .operatorBarred, .insufficientResources, .missingUnknownApn,
   .unknownPdpAddressType, .userAuthentication, .activationRejectGgsn,
   .activationRejectUnspecified, .serviceOptionNotSupported, .serviceOptionNotSubscribed,
   .serviceOptionOutOfOrder, .nsapiInUse, .onlyIpv4Allowed, .onlyIpv6Allowed,
   .onlySingleBearerAllowed, .protocolErrors, .registrationFail, .gprsRegistrationFail,
   .signalLost, .prefRadioTechChanged, .radioPowerOff, .tetheredCallActive, .errorUnspecified,
   .unknown, .radioNotAvailable, .unacceptableNetworkParameter, .controlChannelBroken]

/-- The code by which the radio reports a cause. -/
def code : Cause → Int32
  | noCause => 0
  | operatorBarred => 0x08
  | insufficientResources => 0x1A
  | missingUnknownApn => 0x1B
  | unknownPdpAddressType => 0x1C
  | userAuthentication => 0x1D
  | activationRejectGgsn => 0x1E
  | activationRejectUnspecified => 0x1F
  | serviceOptionNotSupported => 0x20
  | serviceOptionNotSubscribed => 0x21
  | serviceOptionOutOfOrder => 0x22
  | nsapiInUse => 0x23
  | onlyIpv4Allowed => 0x32
  | onlyIpv6Allowed => 0x33
  | onlySingleBearerAllowed => 0x34
  | protocolErrors => 0x6F
  | registrationFail => -1
  | gprsRegistrationFail => -2
  | signalLost => -3
  | prefRadioTechChanged => -4
  | radioPowerOff => -5
  | tetheredCallActive => -6
  | errorUnspecified => 0xFFFF
  | unknown => 0x10000
  | radioNotAvailable => 0x10001
  | unacceptableNetworkParameter => 0x10002
  | controlChannelBroken => 0x10003

/-- The name of a cause. -/
def name : Cause → String
  | noCause => "None"
  | operatorBarred => "OperatorBarred"
  | insufficientResources => "InsufficientResources"
  | missingUnknownApn => "MissingUnknownApn"
  | unknownPdpAddressType => "UnknownPdpAddressType"
  | userAuthentication => "UserAuthentication"
  | activationRejectGgsn => "ActivationRejectGgsn"
  | activationRejectUnspecified => "ActivationRejectUnspecified"
  | serviceOptionNotSupported => "ServiceOptionNotSupported"
  | serviceOptionNotSubscribed => "ServiceOptionNotSubscribed"
  | serviceOptionOutOfOrder => "ServiceOptionOutOfOrder"
  | nsapiInUse => "NsapiInUse"
  | onlyIpv4Allowed => "OnlyIpv4Allowed"
  | onlyIpv6Allowed => "OnlyIpv6Allowed"
  | onlySingleBearerAllowed => "OnlySingleBearerAllowed"
  | protocolErrors => "ProtocolErrors"
  | registrationFail => "RegistrationFail"
  | gprsRegistrationFail => "GprsRegistrationFail"
  | signalLost => "SignalLost"
  | prefRadioTechChanged => "PrefRadioTechChanged"
  | radioPowerOff => "RadioPowerOff"
  | tetheredCallActive => "TetheredCallActive"
  | errorUnspecified => "ErrorUnspecified"
  | unknown => "Unknown"
  | radioNotAvailable => "RadioNotAvailable"
  | unacceptableNetworkParameter => "UnacceptableNetworkParameter"
  | controlChannelBroken => "ControlChannelBroken"

/-- Another attempt with the same settings would fail again. -/
def isPermanent : Cause → Bool
  | operatorBarred | missingUnknownApn | unknownPdpAddressType | userAuthentication
  | activationRejectGgsn | serviceOptionNotSupported | serviceOptionNotSubscribed
  | nsapiInUse | onlyIpv4Allowed | onlyIpv6Allowed | protocolErrors | signalLost
  | radioPowerOff | tetheredCallActive => true
  | _ => false

/-- The failure is worth an entry in the event log. -/
def isNotable : Cause → Bool
  | operatorBarred | insufficientResources | unknownPdpAddressType | userAuthentication
  | activationRejectGgsn | activationRejectUnspecified | serviceOptionNotSupported
  | serviceOptionNotSubscribed | serviceOptionOutOfOrder | nsapiInUse | onlyIpv4Allowed
  | onlyIpv6Allowed | protocolErrors | signalLost | radioPowerOff | tetheredCallActive
  | unacceptableNetworkParameter => true
  | _ => false

/-- The cause that a code stands for; `unknown` if there is none. -/
def ofCode (code : Int32) : Cause :=
  (all.find? fun cause => cause.code == code).getD unknown

/-- The name of a cause and its code, in two's complement of 32 bits. -/
def text (cause : Cause) : String :=
  cause.name ++ "(0x" ++ Numeral.hexadecimal cause.code.toUInt32.toNat ++ ")"

instance : ToString Cause := ⟨text⟩

theorem mem_all (cause : Cause) : cause ∈ all := by
  cases cause <;> decide

/-- Every cause is found again by its code. -/
@[simp] theorem ofCode_code (cause : Cause) : ofCode cause.code = cause := by
  cases cause <;> decide

/-- The only code that stands for no failure is zero. -/
theorem ofCode_eq_noCause_iff {n : Int32} : ofCode n = noCause ↔ n = 0 := by
  constructor
  · intro h
    rw [ofCode] at h
    cases hf : all.find? fun cause => cause.code == n with
    | none => rw [hf] at h; simp at h
    | some cause =>
      rw [hf] at h
      have hc := List.find?_some hf
      simp only [Option.getD_some] at h
      subst h
      simpa [code] using (beq_iff_eq.mp hc).symm
  · rintro rfl
    decide

end Cause

end PacketBearer
