import Fcmr.DotNet.Formats
import Fcmr.RouterDecisions.Catalog
import Fcmr.RouterService.RouteRequestValidator
import Fcmr.ServiceDefaults.Correlation

/-! The validation of a route request, and the walk through its payload. A payload is reported
exactly when an element lies too deep to be screened or a screened key names a model. -/
namespace Fcmr.RouterService

open DotNet RouterDecisions ServiceDefaults

inductive Lane
  | research
  | surveillance
  | orderRouting
  deriving DecidableEq

structure ComplexityHintsDto where
  inputTokenEstimate : Int32

/-- A key may be repeated. Of a string, number, Boolean or null nothing is read. A key with an
unpaired surrogate escape, for which `JsonProperty.Name` throws, is outside the model. -/
inductive JsonElement
  | object (properties : List (Text × JsonElement))
  | array (items : List JsonElement)
  | scalar

structure RouteRequest where
  correlationId : Option Text
  lane : Option Lane
  taskKind : Option Text
  payload : Option JsonElement
  costCeilingUsd : Option Decimal
  latencyBudgetMs : Option Int32
  dataClassification : Option DataClassification
  complexityHints : Option ComplexityHintsDto

namespace RouteRequestValidator

def maxPayloadDepth : Nat := 8

def tooDeep : Text :=
  lit "payload is nested deeper than " ++ natText maxPayloadDepth ++
    lit " levels and cannot be screened for " ++
    lit "model selection. Flatten the payload; the router refuses what it cannot inspect."

def notPermitted (name : Text) : Text :=
  lit "payload field '" ++ name ++
    lit "' is not permitted. Applications state what they " ++
    lit "need done and what they may spend; the router decides what executes it."

mutual

/-- The errors that `ScreenPayload` adds, in its order. -/
def screenPayload (element : JsonElement) (depth : Nat) : List Text :=
  if maxPayloadDepth < depth then [tooDeep]
  else
    match element with
    | .object properties => screenProperties properties depth
    | .array items => screenItems items depth
    | .scalar => []

def screenProperties (properties : List (Text × JsonElement)) (depth : Nat) : List Text :=
  match properties with
  | [] => []
  | (name, value) :: rest =>
    (if namesAModel name then [notPermitted name] else []) ++ screenPayload value (depth + 1) ++
      screenProperties rest depth

def screenItems (items : List JsonElement) (depth : Nat) : List Text :=
  match items with
  | [] => []
  | item :: rest => screenPayload item (depth + 1) ++ screenItems rest depth

end

def laneErrors (lane : Option Lane) : List Text :=
  if lane.isNone then
    [lit "lane is required and must be one of Research, Surveillance, OrderRouting."]
  else []

def taskKindErrors (taskKind : Option Text) : List Text :=
  if isNullOrWhiteSpace taskKind then [lit "taskKind is required."] else []

def costCeilingErrors (costCeilingUsd : Option Decimal) : List Text :=
  match costCeilingUsd with
  | none => [lit "costCeilingUsd is required."]
  | some ceiling =>
    if ceiling.value ≤ 0 then [lit "costCeilingUsd must be greater than zero."] else []

def dataClassificationErrors (dataClassification : Option DataClassification) : List Text :=
  if dataClassification.isNone then
    [lit "dataClassification is required and is never defaulted. Supply one of Public, " ++
      lit "Internal, Confidential, Restricted."]
  else []

def latencyBudgetErrors (latencyBudgetMs : Option Int32) : List Text :=
  match latencyBudgetMs with
  | none => []
  | some budget =>
    if budget ≤ 0 then [lit "latencyBudgetMs must be greater than zero when supplied."] else []

def complexityHintsErrors (complexityHints : Option ComplexityHintsDto) : List Text :=
  match complexityHints with
  | none => [lit "complexityHints is required."]
  | some hints =>
    if hints.inputTokenEstimate < 0 then
      [lit "complexityHints.inputTokenEstimate must not be negative."]
    else []

def correlationIdErrors (correlationId : Option Text) : List Text :=
  if correlationId.isSome && !CorrelationIdFormat.isAcceptable correlationId then
    [lit "correlationId must be 1 to " ++ natText CorrelationIdFormat.maxLength ++
      lit " characters of " ++ lit "letters, digits, hyphen, underscore, dot, or colon."]
  else []

def payloadErrors (payload : Option JsonElement) : List Text :=
  match payload with
  | none => []
  | some payload => screenPayload payload 0

def fieldErrors (request : RouteRequest) : List Text :=
  laneErrors request.lane ++ taskKindErrors request.taskKind ++
    costCeilingErrors request.costCeilingUsd ++
    dataClassificationErrors request.dataClassification ++
    latencyBudgetErrors request.latencyBudgetMs ++
    complexityHintsErrors request.complexityHints ++ correlationIdErrors request.correlationId

/-- The errors are those of the fields in their order; no error is no refusal. -/
def validate (request : RouteRequest) : List Text :=
  fieldErrors request ++ payloadErrors request.payload

end RouteRequestValidator

inductive JsonElement.Holds : JsonElement → Nat → JsonElement → Prop
  | self (element : JsonElement) : Holds element 0 element
  | property {properties : List (Text × JsonElement)} {name : Text} {value element : JsonElement}
      {depth : Nat} (mem : (name, value) ∈ properties) (h : Holds value depth element) :
      Holds (.object properties) (depth + 1) element
  | item {items : List JsonElement} {item element : JsonElement} {depth : Nat} (mem : item ∈ items)
      (h : Holds item depth element) : Holds (.array items) (depth + 1) element

namespace RouteRequestValidator

/-- What the screen is for, of an element that is itself so deep in a payload. -/
inductive Refusable (element : JsonElement) (depth : Nat) : Prop
  | namesAModel {below : Nat} {properties : List (Text × JsonElement)} {name : Text}
      {value : JsonElement} (h : element.Holds below (.object properties))
      (screened : depth + below ≤ maxPayloadDepth) (mem : (name, value) ∈ properties)
      (names : namesAModel name = true) : Refusable element depth
  | tooDeep {below : Nat} {inner : JsonElement} (h : element.Holds below inner)
      (deep : maxPayloadDepth < depth + below) : Refusable element depth

variable {properties : List (Text × JsonElement)} {items : List JsonElement} {depth : Nat}

theorem screenProperties_ne_nil : screenProperties properties depth ≠ [] ↔
    ∃ property ∈ properties, namesAModel property.1 = true ∨
      screenPayload property.2 (depth + 1) ≠ [] := by
  induction properties with
  | nil => simp [screenProperties]
  | cons property rest ih =>
    obtain ⟨name, value⟩ := property
    rw [screenProperties, List.exists_mem_cons_iff, ← ih]
    simp only [ne_eq, List.append_eq_nil_iff, not_and_or, ite_eq_right_iff, List.cons_ne_nil,
      imp_false, not_not]

theorem screenItems_ne_nil : screenItems items depth ≠ [] ↔
    ∃ item ∈ items, screenPayload item (depth + 1) ≠ [] := by
  induction items with
  | nil => simp [screenItems]
  | cons item rest ih =>
    rw [screenItems, List.exists_mem_cons_iff, ← ih]
    simp only [ne_eq, List.append_eq_nil_iff, not_and_or]

theorem Refusable.of_property {name : Text} {value : JsonElement}
    (hmem : (name, value) ∈ properties) (h : Refusable value (depth + 1)) :
    Refusable (.object properties) depth := by
  cases h with
  | namesAModel h hscreened hmem' hnames =>
    exact .namesAModel (.property hmem h) (by omega) hmem' hnames
  | tooDeep h hdeep => exact .tooDeep (.property hmem h) (by omega)

theorem Refusable.of_item {item : JsonElement} (hmem : item ∈ items)
    (h : Refusable item (depth + 1)) : Refusable (.array items) depth := by
  cases h with
  | namesAModel h hscreened hmem' hnames =>
    exact .namesAModel (.item hmem h) (by omega) hmem' hnames
  | tooDeep h hdeep => exact .tooDeep (.item hmem h) (by omega)

theorem refusable_object (hdepth : depth ≤ maxPayloadDepth) :
    Refusable (.object properties) depth ↔ ∃ property ∈ properties,
      namesAModel property.1 = true ∨ Refusable property.2 (depth + 1) := by
  constructor
  · intro h
    cases h with
    | namesAModel h hscreened hmem hnames =>
      cases h with
      | self => exact ⟨_, hmem, .inl hnames⟩
      | property hproperty h =>
        exact ⟨_, hproperty, .inr (.namesAModel h (by omega) hmem hnames)⟩
    | tooDeep h hdeep =>
      cases h with
      | self => omega
      | property hproperty h => exact ⟨_, hproperty, .inr (.tooDeep h (by omega))⟩
  · rintro ⟨⟨name, value⟩, hmem, hnames | hvalue⟩
    · exact .namesAModel (.self _) hdepth hmem hnames
    · exact .of_property hmem hvalue

theorem refusable_array (hdepth : depth ≤ maxPayloadDepth) :
    Refusable (.array items) depth ↔ ∃ item ∈ items, Refusable item (depth + 1) := by
  constructor
  · intro h
    cases h with
    | namesAModel h hscreened hmem hnames =>
      cases h with
      | item hitem h => exact ⟨_, hitem, .namesAModel h (by omega) hmem hnames⟩
    | tooDeep h hdeep =>
      cases h with
      | self => omega
      | item hitem h => exact ⟨_, hitem, .tooDeep h (by omega)⟩
  · rintro ⟨item, hmem, hitem⟩
    exact .of_item hmem hitem

theorem not_refusable_scalar (hdepth : depth ≤ maxPayloadDepth) : ¬Refusable .scalar depth := by
  intro h
  cases h with
  | namesAModel h => cases h
  | tooDeep h hdeep =>
    cases h
    omega

/-- The cut-off drops nothing: what lies below it is refused where it begins. The induction is
on the levels that are left. -/
theorem screenPayload_ne_nil (element : JsonElement) (depth : Nat) :
    screenPayload element depth ≠ [] ↔ Refusable element depth := by
  induction hlevels : maxPayloadDepth + 1 - depth generalizing element depth with
  | zero =>
    have hdeep : maxPayloadDepth < depth := by omega
    rw [screenPayload.eq_def, if_pos hdeep]
    exact iff_of_true (List.cons_ne_nil _ _) (.tooDeep (.self element) hdeep)
  | succ levels ih =>
    have hdepth : depth ≤ maxPayloadDepth := by omega
    have hbelow (element : JsonElement) := ih element (depth + 1) (by omega)
    rw [screenPayload.eq_def, if_neg (Nat.not_lt_of_le hdepth)]
    cases element with
    | object properties =>
      rw [refusable_object hdepth]
      simp only [screenProperties_ne_nil, hbelow]
    | array items =>
      rw [refusable_array hdepth]
      simp only [screenItems_ne_nil, hbelow]
    | scalar => exact iff_of_false (fun h => h rfl) (not_refusable_scalar hdepth)

/-- An error says that the payload is too deep, or names a key that names a model. -/
def PayloadError (error : Text) : Prop :=
  error = tooDeep ∨ ∃ name, namesAModel name = true ∧ error = notPermitted name

theorem screenPayload_errors (element : JsonElement) (depth : Nat) :
    ∀ error ∈ screenPayload element depth, PayloadError error := by
  induction hlevels : maxPayloadDepth + 1 - depth generalizing element depth with
  | zero =>
    rw [screenPayload.eq_def, if_pos (by omega)]
    exact List.forall_mem_singleton.mpr (.inl rfl)
  | succ levels ih =>
    have hbelow (element : JsonElement) := ih element (depth + 1) (by omega)
    rw [screenPayload.eq_def, if_neg (by omega)]
    cases element with
    | object properties =>
      dsimp only
      induction properties with
      | nil => nofun
      | cons property rest hrest =>
        obtain ⟨name, value⟩ := property
        rw [screenProperties, List.forall_mem_append, List.forall_mem_append]
        refine ⟨⟨?_, hbelow value⟩, hrest⟩
        split
        · rename_i hname
          exact List.forall_mem_singleton.mpr (.inr ⟨name, hname, rfl⟩)
        · nofun
    | array items =>
      dsimp only
      induction items with
      | nil => nofun
      | cons item rest hrest =>
        rw [screenItems, List.forall_mem_append]
        exact ⟨hbelow item, hrest⟩
    | scalar => nofun

theorem PayloadError.opening {error : Text} (h : PayloadError error) : lit "payload " <+: error := by
  obtain rfl | ⟨name, _, rfl⟩ := h
  · decide +kernel
  · unfold notPermitted
    simp only [List.append_assoc]
    exact List.IsPrefix.trans (by decide +kernel) (List.prefix_append ..)

theorem not_opening {error : Text} {c : CodeUnit} (h : error.head? = some c) (hc : c ≠ digit 'p') :
    ¬lit "payload " <+: error := fun hprefix =>
  hc (head_of_opening (by decide) h hprefix)

theorem fieldErrors_opening (request : RouteRequest) :
    ∀ error ∈ fieldErrors request, ¬lit "payload " <+: error := by
  have hsingle {error : Text} {c : CodeUnit} (h : error.head? = some c) (hc : c ≠ digit 'p') :
      ∀ other ∈ [error], ¬lit "payload " <+: other :=
    List.forall_mem_singleton.mpr (not_opening h hc)
  unfold fieldErrors
  simp only [List.forall_mem_append]
  refine ⟨⟨⟨⟨⟨⟨?_, ?_⟩, ?_⟩, ?_⟩, ?_⟩, ?_⟩, ?_⟩
  · unfold laneErrors
    split
    · exact hsingle (c := digit 'l') rfl (by decide)
    · nofun
  · unfold taskKindErrors
    split
    · exact hsingle (c := digit 't') rfl (by decide)
    · nofun
  · unfold costCeilingErrors
    split
    · exact hsingle (c := digit 'c') rfl (by decide)
    · split
      · exact hsingle (c := digit 'c') rfl (by decide)
      · nofun
  · unfold dataClassificationErrors
    split
    · exact hsingle (c := digit 'd') rfl (by decide)
    · nofun
  · unfold latencyBudgetErrors
    split
    · nofun
    · split
      · exact hsingle (c := digit 'l') rfl (by decide)
      · nofun
  · unfold complexityHintsErrors
    split
    · exact hsingle (c := digit 'c') rfl (by decide)
    · split
      · exact hsingle (c := digit 'c') rfl (by decide)
      · nofun
  · unfold correlationIdErrors
    split
    · exact hsingle (c := digit 'c') rfl (by decide)
    · nofun

theorem exists_payloadError (request : RouteRequest) (payload : JsonElement) :
    (∃ error ∈ validate { request with payload := some payload }, lit "payload " <+: error) ↔
      screenPayload payload 0 ≠ [] := by
  have hfields := fieldErrors_opening { request with payload := some payload }
  unfold validate payloadErrors
  constructor
  · rintro ⟨error, herror, hopening⟩
    rcases List.mem_append.mp herror with hfield | hpayload
    · exact absurd hopening (hfields error hfield)
    · exact List.ne_nil_of_mem hpayload
  · intro hne
    obtain ⟨error, herror⟩ := List.exists_mem_of_ne_nil _ hne
    exact ⟨error, List.mem_append_right _ herror, (screenPayload_errors payload 0 error herror).opening⟩

theorem validate_eq_nil (request : RouteRequest) : validate request = [] ↔
    fieldErrors request = [] ∧
      ∀ payload, request.payload = some payload → ¬Refusable payload 0 := by
  unfold validate payloadErrors
  rw [List.append_eq_nil_iff]
  cases request.payload with
  | none => simp
  | some payload => simp [← screenPayload_ne_nil]

/-- A payload is reported exactly for a key that names a model, on an object no deeper than the
limit, or for an element below the limit, whatever the other fields are. -/
theorem validate_reports_payload (request : RouteRequest) (payload : JsonElement) :
    (∃ error ∈ validate { request with payload := some payload }, lit "payload " <+: error) ↔
      (∃ depth ≤ maxPayloadDepth, ∃ properties, payload.Holds depth (.object properties) ∧
        ∃ property ∈ properties, namesAModel property.1 = true) ∨
      ∃ depth inner, maxPayloadDepth < depth ∧ payload.Holds depth inner := by
  rw [exists_payloadError, screenPayload_ne_nil]
  constructor
  · intro h
    cases h with
    | namesAModel h hscreened hmem hnames =>
      exact .inl ⟨_, by omega, _, h, _, hmem, hnames⟩
    | tooDeep h hdeep => exact .inr ⟨_, _, by omega, h⟩
  · rintro (⟨depth, hdepth, properties, h, ⟨name, value⟩, hmem, hnames⟩ | ⟨depth, inner, hdeep, h⟩)
    · exact .namesAModel h (by omega) hmem hnames
    · exact .tooDeep h (by omega)

/-- A repeated key is screened each time, and so is a key below two arrays. -/
example : screenPayload (.object [(lit "model", .scalar), (lit "model", .scalar),
      (lit "a", .array [.array [.object [(lit "tier", .scalar)]]])]) 0 =
    [notPermitted (lit "model"), notPermitted (lit "model"), notPermitted (lit "tier")] := by
  decide +kernel

end RouteRequestValidator

end Fcmr.RouterService
