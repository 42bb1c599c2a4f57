import OmniLayer.Bytes

/-! # Message headers

Every payload starts with a version and a message type, two bytes each, high byte first. The types
that have a name are listed here. -/

namespace OmniLayer

/-- The **named message types**. -/
inductive MessageType
  | simpleSend
  | restrictedSend
  | sendToOwners
  | sendAll
  | sendNonFungible
  | sendToMany
  | tradeOffer
  | acceptOffer
  | exchangeTrade
  | exchangeCancelPrice
  | exchangeCancelPair
  | exchangeCancelEcosystem
  | notification
  | createPropertyFixed
  | createPropertyVariable
  | promoteProperty
  | closeCrowdsale
  | createPropertyManual
  | grantPropertyTokens
  | revokePropertyTokens
  | changeIssuerAddress
  | enableFreezing
  | disableFreezing
  | freezePropertyTokens
  | unfreezePropertyTokens
  | anyData
  | featureActivation
  | alert
  deriving DecidableEq, Repr

namespace MessageType

/-- The **number** of a type. -/
def code : MessageType → UInt16
  | .simpleSend => 0
  | .restrictedSend => 2
  | .sendToOwners => 3
  | .sendAll => 4
  | .sendNonFungible => 5
  | .sendToMany => 7
  | .tradeOffer => 20
  | .acceptOffer => 22
  | .exchangeTrade => 25
  | .exchangeCancelPrice => 26
  | .exchangeCancelPair => 27
  | .exchangeCancelEcosystem => 28
  | .notification => 31
  | .createPropertyFixed => 50
  | .createPropertyVariable => 51
  | .promoteProperty => 52
  | .closeCrowdsale => 53
  | .createPropertyManual => 54
  | .grantPropertyTokens => 55
  | .revokePropertyTokens => 56
  | .changeIssuerAddress => 70
  | .enableFreezing => 71
  | .disableFreezing => 72
  | .freezePropertyTokens => 185
  | .unfreezePropertyTokens => 186
  | .anyData => 200
  | .featureActivation => 65534
  | .alert => 65535

/-- The **name** of a type in reports. -/
def name : MessageType → String
  | .simpleSend => "SimpleSend"
  | .restrictedSend => "RestrictedSend"
  | .sendToOwners => "SendToOwners"
  | .sendAll => "SendAll"
  | .sendNonFungible => "SendNonFungible"
  | .sendToMany => "SendToMany"
  | .tradeOffer => "TradeOffer"
  | .acceptOffer => "AcceptOfferBTC"
  | .exchangeTrade => "MetaDEXTrade"
  | .exchangeCancelPrice => "MetaDEXCancelPrice"
  | .exchangeCancelPair => "MetaDEXCancelPair"
  | .exchangeCancelEcosystem => "MetaDEXCancelEcosystem"
  | .notification => "Notification"
  | .createPropertyFixed => "CreatePropertyFixed"
  | .createPropertyVariable => "CreatePropertyVariable"
  | .promoteProperty => "PromoteProperty"
  | .closeCrowdsale => "CloseCrowdsale"
  | .createPropertyManual => "CreatePropertyManual"
  | .grantPropertyTokens => "GrantPropertyTokens"
  | .revokePropertyTokens => "RevokePropertyTokens"
  | .changeIssuerAddress => "ChangeIssuerAddress"
  | .enableFreezing => "EnableFreezing"
  | .disableFreezing => "DisableFreezing"
  | .freezePropertyTokens => "FreezePropertyTokens"
  | .unfreezePropertyTokens => "UnfreezePropertyTokens"
  | .anyData => "AnyData"
  | .featureActivation => "FeatureActivation"
  | .alert => "Alert"

/-- All named types, by ascending number. -/
def all : List MessageType :=
  [.simpleSend, .restrictedSend, .sendToOwners, .sendAll, .sendNonFungible, .sendToMany,
   .tradeOffer, .acceptOffer, .exchangeTrade, .exchangeCancelPrice, .exchangeCancelPair,
   .exchangeCancelEcosystem, .notification, .createPropertyFixed, .createPropertyVariable,
   .promoteProperty, .closeCrowdsale, .createPropertyManual, .grantPropertyTokens,
   .revokePropertyTokens, .changeIssuerAddress, .enableFreezing, .disableFreezing,
   .freezePropertyTokens, .unfreezePropertyTokens, .anyData, .featureActivation, .alert]

/-- The type with a number. -/
def ofCode? (code : UInt16) : Option MessageType := all.find? (·.code == code)

end MessageType

/-- The **header** of a payload. -/
structure Header where
  /-- The version of the message format. -/
  version : UInt16
  /-- The number of the message type. -/
  messageType : UInt16
  deriving DecidableEq, Repr

namespace Header

/-- The header of a payload of at least four bytes. -/
def ofPayload? : Bytes → Option Header
  | v1 :: v0 :: t1 :: t0 :: _ =>
    some ⟨UInt16.ofNat (Bytes.toNatBE [v1, v0]), UInt16.ofNat (Bytes.toNatBE [t1, t0])⟩
  | _ => none

/-- The named type of a header. -/
def knownType? (header : Header) : Option MessageType := MessageType.ofCode? header.messageType

end Header

end OmniLayer
