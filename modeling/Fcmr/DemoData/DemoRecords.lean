import Fcmr.DotNet.Formats

/-! The records of a fixture set, and the names that it is built from. -/
namespace Fcmr.DemoData

open DotNet

inductive OrderSide
  | buy
  | sell
  deriving DecidableEq

inductive CommunicationChannel
  | chat
  | email
  | voiceTranscript
  deriving DecidableEq

structure ResearchChunk where
  id : Text
  documentId : Text
  ordinal : Nat
  text : Text
  deriving DecidableEq

structure ResearchDocument where
  id : Text
  title : Text
  source : Text
  symbol : Text
  publishedAt : DateTimeOffset
  chunks : List ResearchChunk
  deriving DecidableEq

structure Communication where
  id : Text
  timestamp : DateTimeOffset
  channel : CommunicationChannel
  fromParty : Text
  toParty : Text
  body : Text
  symbol : Option Text
  groundTruthConcerning : Bool
  deriving DecidableEq

structure Order where
  id : Text
  timestamp : DateTimeOffset
  symbol : Text
  side : OrderSide
  quantity : Int
  limitPrice : Decimal
  venue : Text
  traderId : Text

structure Execution where
  id : Text
  orderId : Text
  timestamp : DateTimeOffset
  quantity : Int
  price : Decimal
  venue : Text

structure SurveillanceAlert where
  id : Text
  timestamp : DateTimeOffset
  symbol : Text
  traderId : Text
  alertType : Text
  communicationIds : List Text
  orderIds : List Text
  groundTruthConcerning : Bool
  deriving DecidableEq

structure DemoDataSet where
  seed : UInt64
  researchDocuments : List ResearchDocument
  communications : List Communication
  orders : List Order
  executions : List Execution
  alerts : List SurveillanceAlert

namespace DemoUniverse

def symbols : List Text :=
  [lit "ATLN", lit "BRDG", lit "CRVN", lit "DLTA", lit "EVRT", lit "FLGN", lit "GRDN", lit "HLYX",
    lit "IRSA", lit "JVLN", lit "KSTL", lit "LMBD", lit "MRDN", lit "NVSA", lit "ORCL8", lit "PLRS"]

def venues : List Text :=
  [lit "XLIT", lit "XMER", lit "XNOR", lit "XPAC", lit "DARK-1", lit "DARK-2"]

def traders : List Text :=
  [lit "TRD-1041", lit "TRD-1052", lit "TRD-1078", lit "TRD-1093", lit "TRD-1110",
    lit "TRD-1124", lit "TRD-1139", lit "TRD-1157", lit "TRD-1163", lit "TRD-1188"]

def counterparties : List Text :=
  [lit "Northwind Securities", lit "Halberd Capital", lit "Ridgeline Partners",
    lit "Fenwick Asset Management", lit "Corvus Trading", lit "Marlowe Brothers"]

def researchSources : List Text :=
  [lit "Internal Equity Research", lit "Sector Desk Note", lit "Macro Strategy Weekly",
    lit "Credit Committee Minutes", lit "Earnings Call Transcript"]

def alertTypes : List Text :=
  [lit "PotentialFrontRunning", lit "UnusualPreAnnouncementActivity", lit "WashTradeSuspicion",
    lit "LayeringPattern", lit "OffVenueConcentration", lit "MarkingTheClose"]

def epoch : DateTimeOffset := 639213606000000000

end DemoUniverse

example : utcText DemoUniverse.epoch = lit "2026-08-03T13:30:00Z" := by decide

end Fcmr.DemoData
