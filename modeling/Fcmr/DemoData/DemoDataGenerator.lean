import Fcmr.DemoData.DemoRecords
import Fcmr.DemoData.DeterministicRandom
import Fcmr.DotNet.Casing

/-! The generator of a fixture set, draw by draw in the order of the source. -/
namespace Fcmr.DemoData

open DotNet Draws DeterministicRandom

structure DemoDataOptions where
  seed : UInt64 := 0x0FC020260910
  researchDocumentCount : Int := 120
  communicationCount : Int := 4000
  orderCount : Int := 2500
  alertCount : Int := 500
  concerningCommunicationRate : Double := .ofRat (3 / 100)

namespace DemoDataGenerator

def addMinutes (instant : DateTimeOffset) (minutes : Int) : DateTimeOffset :=
  (instant + minutes * 600000000).toNat

def addSeconds (instant : DateTimeOffset) (seconds : Int) : DateTimeOffset :=
  (instant + seconds * 10000000).toNat

/-- A list of its own stream. A capacity that is negative throws. -/
def ofStream {α : Type} (seed : UInt64) (streamName : Text) (count : Int)
    (draw : Drawing (List α)) : Option (List α) :=
  if count < 0 then none else (draw.run (forStream seed streamName)).map (·.1)

def themes : List Text :=
  [lit "margin compression", lit "order book depth", lit "settlement latency",
    lit "funding spreads", lit "sector rotation", lit "issuance pipeline",
    lit "counterparty concentration", lit "collateral haircuts"]

def researchChunk (docId symbol theme : Text) (chunkCount : Int) (c : Nat) :
    Drawing ResearchChunk := do
  let figure ← nextDecimal (.literal 5 1) (.literal 480 1)
  let quarter ← nextBetween 1 5
  let cause ← pick themes
  let venue ← pick DemoUniverse.venues
  return {
    id := docId ++ lit "-c" ++ paddedText 2 c
    documentId := docId
    ordinal := c
    text := symbol ++ lit " " ++ theme ++ lit " moved " ++ figure.fixedText 2 ++
      lit " percent in Q" ++ intText quarter ++ lit ". The desk attributes the change to " ++ cause ++
      lit " across " ++ venue ++ lit ". Coverage note " ++ natText (c + 1) ++ lit " of " ++
      intText chunkCount ++ lit "." }

def researchDocument (i : Nat) : Drawing ResearchDocument := do
  let symbol ← pick DemoUniverse.symbols
  let theme ← pick themes
  let source ← pick DemoUniverse.researchSources
  let docId := lit "doc-" ++ paddedText 4 i
  let days ← nextBetween 1 180
  let minutes ← nextBetween 0 480
  let chunkCount ← nextBetween 3 8
  let chunks ← collect (researchChunk docId symbol theme chunkCount) chunkCount.toNat 0
  return {
    id := docId
    title := symbol ++ lit " — " ++ (theme.take 1).map upperUnit ++ theme.drop 1 ++ lit " review"
    source
    symbol
    publishedAt := addMinutes (addMinutes DemoUniverse.epoch (-days * 1440)) minutes
    chunks }

def generateResearch (opts : DemoDataOptions) : Option (List ResearchDocument) :=
  ofStream opts.seed (lit "research") opts.researchDocumentCount
    (collect researchDocument opts.researchDocumentCount.toNat 0)

def benign : List Text :=
  [lit "Can you confirm the fill on that block before close.",
    lit "Sending the revised sheet over shortly.",
    lit "Client wants to work the balance across the session.",
    lit "No change to the limit, keep it resting.",
    lit "Settlement instructions came through fine this morning.",
    lit "Let's revisit sizing after the print."]

def concerning : List Text :=
  [lit "Hold off on the sell until after the announcement lands.",
    lit "Heard from the other side of the wall, size it up before it's public.",
    lit "Keep this off the recorded line and just work it quietly.",
    lit "We can cross it internally and nobody has to see the print.",
    lit "Push the last few lots into the close to help the mark.",
    lit "Do the usual, buy it back tomorrow so it nets flat."]

def channelOf : Int → CommunicationChannel
  | 0 => .chat
  | 1 => .email
  | _ => .voiceTranscript

def communication (opts : DemoDataOptions) (i : Nat) : Drawing Communication := do
  let isConcerning ← nextBool opts.concerningCommunicationRate
  let named ← nextBool (.ofRat (8 / 10))
  let symbol ← (if named then some <$> pick DemoUniverse.symbols else pure none)
  let minutes ← nextBetween 0 20160
  let channel ← nextBetween 0 3
  let fromParty ← pick DemoUniverse.traders
  let inside ← nextBool (.ofRat (5 / 10))
  let toParty ← (if inside then pick DemoUniverse.traders else pick DemoUniverse.counterparties)
  let body ← (if isConcerning then pick concerning else pick benign)
  return {
    id := lit "comm-" ++ paddedText 5 i
    timestamp := addMinutes DemoUniverse.epoch (-minutes)
    channel := channelOf channel
    fromParty
    toParty
    body
    symbol
    groundTruthConcerning := isConcerning }

def generateCommunications (opts : DemoDataOptions) : Option (List Communication) :=
  ofStream opts.seed (lit "communications") opts.communicationCount
    (collect (communication opts) opts.communicationCount.toNat 0)

def order (i : Nat) : Drawing Order := do
  let minutes ← nextBetween 0 20160
  let symbol ← pick DemoUniverse.symbols
  let isBuy ← nextBool (.ofRat (5 / 10))
  let lots ← nextBetween 1 40
  let limitPrice ← nextDecimal (.literal 80 1) (.literal 4200 1)
  let venue ← pick DemoUniverse.venues
  let traderId ← pick DemoUniverse.traders
  return {
    id := lit "ord-" ++ paddedText 5 i
    timestamp := addMinutes DemoUniverse.epoch (-minutes)
    symbol
    side := if isBuy then .buy else .sell
    quantity := lots * 100
    limitPrice
    venue
    traderId }

def generateOrders (opts : DemoDataOptions) : Option (List Order) :=
  ofStream opts.seed (lit "orders") opts.orderCount (collect order opts.orderCount.toNat 0)

def executionPrice (limitPrice : Decimal) : Drawing Decimal := do
  let x ← nextDouble
  let factor ← ofOption (Decimal.ofDouble ((Double.ofRat (995 / 1000)).add (x.mul (.ofRat (1 / 100)))))
  let price ← ofOption (limitPrice.mul factor)
  return price.round 4

/-- The loop over the fills of an order: how many are left, what remains, and how many
executions there are already. -/
def fillOrder (order : Order) : (left : Nat) → (remaining : Int) → (count : Nat) →
    Drawing (List Execution)
  | 0, _, _ => pure []
  | left + 1, remaining, count =>
    if remaining ≤ 0 then pure []
    else do
      let qty := if left = 0 then remaining else max 100 (remaining.tdiv (left + 1))
      let qty := min qty remaining
      let seconds ← nextBetween 1 900
      let price ← executionPrice order.limitPrice
      let sameVenue ← nextBool (.ofRat (85 / 100))
      let venue ← (if sameVenue then pure order.venue else pick DemoUniverse.venues)
      let execution : Execution := {
        id := lit "exe-" ++ paddedText 6 count
        orderId := order.id
        timestamp := addSeconds order.timestamp seconds
        quantity := qty
        price
        venue }
      let rest ← fillOrder order left (remaining - qty) (count + 1)
      return execution :: rest

def fillOrders : List Order → (count : Nat) → Drawing (List Execution)
  | [], _ => pure []
  | order :: orders, count => do
    let fills ← nextBetween 1 4
    let executions ← fillOrder order fills.toNat order.quantity count
    let rest ← fillOrders orders (count + executions.length)
    return executions ++ rest

def generateExecutions (opts : DemoDataOptions) (orders : List Order) : Option (List Execution) :=
  ofStream opts.seed (lit "executions") 0 (fillOrders orders 0)

def concerningComms (communications : List Communication) : List Communication :=
  communications.filter (·.groundTruthConcerning)

def benignComms (communications : List Communication) : List Communication :=
  communications.filter (!·.groundTruthConcerning)

def seedCommunication (communications : List Communication) (concerningTarget i : Nat) :
    Drawing Communication :=
  if i < concerningTarget then
    ofOption (concerningComms communications)[i % (concerningComms communications).length]?
  else pick (benignComms communications)

def alertSymbol (seedComm : Communication) : Drawing Text :=
  match seedComm.symbol with
  | some symbol => pure symbol
  | none => pick DemoUniverse.symbols

def ordersOf (orders : List Order) (symbol : Text) : List Order :=
  orders.filter fun order => order.symbol = symbol

def relatedOrders (orders : List Order) (symbol : Text) : Drawing (List Text) :=
  let related := ((ordersOf orders symbol).take 3).map (·.id)
  if related.length = 0 then do
    let order ← pick orders
    return [order.id]
  else pure related

def extraCommunications (communications : List Communication) : Drawing (List Text) := do
  let extra ← nextBetween 0 3
  let comms ← collect (fun _ => pick communications) extra.toNat 0
  return comms.map (·.id)

def alert (communications : List Communication) (orders : List Order) (concerningTarget i : Nat) :
    Drawing SurveillanceAlert := do
  let seedComm ← seedCommunication communications concerningTarget i
  let symbol ← alertSymbol seedComm
  let orderIds ← relatedOrders orders symbol
  let extra ← extraCommunications communications
  let minutes ← nextBetween 5 120
  let alertType ← pick DemoUniverse.alertTypes
  return {
    id := lit "alert-" ++ paddedText 4 i
    timestamp := addMinutes seedComm.timestamp minutes
    symbol
    traderId := seedComm.fromParty
    alertType
    communicationIds := seedComm.id :: extra
    orderIds
    groundTruthConcerning := i < concerningTarget }

def concerningTarget (opts : DemoDataOptions) (communications : List Communication) : Nat :=
  min (opts.alertCount.toNat / 5) (concerningComms communications).length

def generateAlerts (opts : DemoDataOptions) (communications : List Communication)
    (orders : List Order) : Option (List SurveillanceAlert) :=
  ofStream opts.seed (lit "alerts") opts.alertCount do
    let alerts ← collect (alert communications orders (concerningTarget opts communications))
      opts.alertCount.toNat 0
    let shuffled ← shuffle (fun n => next n) (alerts.length - 1) alerts.toArray
    return shuffled.toList

def generate (options : Option DemoDataOptions) : Option DemoDataSet := do
  let opts := options.getD {}
  let researchDocuments ← generateResearch opts
  let communications ← generateCommunications opts
  let orders ← generateOrders opts
  let executions ← generateExecutions opts orders
  let alerts ← generateAlerts opts communications orders
  return { seed := opts.seed, researchDocuments, communications, orders, executions, alerts }

end DemoDataGenerator

end Fcmr.DemoData
