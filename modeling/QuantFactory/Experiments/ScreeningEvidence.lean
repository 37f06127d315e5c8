import QuantFactory.Experiments.ExecuteExperiment
import QuantFactory.Persistence.Artifacts

/-!
# Screening evidence

`orchestration/candidate_pipeline_screening_evidence.py` and
`orchestration/candidate_screening_artifacts.py`: the snapshots an experiment's observer keeps, the
documents written from them, and their registration with the run.
-/

set_option autoImplicit false

namespace QuantFactory.Experiments

open QuantFactory.Library QuantFactory.Python QuantFactory.Persistence QuantFactory.Launch

/-! ## Snapshots -/

inductive FrameCell (F : Type) where
  | timestamp (isoformat : String)
  /-- `None` or `NaT`. -/
  | missing
  | number (value : F)
  | whole (value : Int)
  | flag (value : Bool)
  | text (value : String)

abbrev FrameRow (F : Type) := List (String × FrameCell F)

structure EquitySeries (F : Type) where
  datetimeIndex : Bool
  entries : List (FrameCell F × FrameCell F)

/-- `portfolio.value`: a series, or a frame of columns. -/
inductive EquityValue (F : Type) where
  | series (value : EquitySeries F)
  | frame (columns : List (EquitySeries F))

/-- The statistics of one view of a portfolio, as the engine computes them. -/
structure DirectionView (F : Type) where
  netProfit : F
  grossProfit : F
  grossLoss : F
  profitFactor : F
  maxDrawdown : F
  totalTrades : Int
  winRate : F
  avgTrade : F
  avgWin : F
  avgLoss : F
  largestWin : F
  largestLoss : F
  avgBarsInTrade : F
  commissionPaid : F

structure ScreeningPortfolioSnapshot (F : Type) where
  trades : List (FrameRow F)
  orders : List (FrameRow F)
  value : EquityValue F
  all : DirectionView F
  long : DirectionView F
  short : DirectionView F

abbrev CapturedPortfolios (F : Type) := List (String × ScreeningPortfolioSnapshot F)

def setDefault {V : Type} (captured : List (String × V)) (key : String) (value : V) :
    List (String × V) :=
  if captured.any fun entry => entry.1 = key then captured else captured ++ [(key, value)]

/-- `capture_screening_portfolios`, for what `snapshot_screening_portfolio` reads of a portfolio. -/
def captureScreeningPortfolios {F : Type}
    (snapshot : ObservedPortfolio F → Except SweepError (ScreeningPortfolioSnapshot F)) :
    PortfolioObserver F (CapturedPortfolios F) :=
  fun rowId portfolio captured => do
    let kept ← snapshot portfolio
    .ok (setDefault captured rowId kept)

/-! ## Values of documents -/

/-- The standard library, the number an `int64` converts to, and `resample("1D").last()`. -/
structure EvidenceRuntime (F Content : Type) extends ArtifactRuntime F Content where
  encode : String → Content
  ofInt64 : Int → F
  dailyLast : List (FrameCell F × FrameCell F) → List (FrameCell F × FrameCell F)
  isoformat : Int → String
  barsHash : List (MarketRow F) → String

section Values
variable {F Content : Type} [PyFloat F] [ColumnNumber F] (runtime : EvidenceRuntime F Content)

def artifactValue : FrameCell F → PyValue F
  | .timestamp isoformat => .str isoformat
  | .missing => .none
  | .number value => if ColumnNumber.isNull value then .none else .float value
  | .whole value => .int value
  | .flag value => .bool value
  | .text value => .str value

/-- `_finite`. -/
def finiteValue (value : F) : PyValue F :=
  if PyFloat.isFinite value then .float value else .none

/-- `"price" in key.lower()`. -/
def isPriceField (key : String) : Bool := "price".toList <:+: key.toLower.toList

def isOne (multiplier : F) : Bool := PyFloat.eq multiplier (PyFloat.literal 1)

/-- A price field over the multiplier; a value that is no number stays. -/
def dividedCell (multiplier : F) : FrameCell F → PyValue F
  | .number value =>
      if ColumnNumber.isNull value then .none else .float (ColumnNumber.divided value multiplier)
  | .whole value => .float (ColumnNumber.divided (runtime.ofInt64 value) multiplier)
  | cell => artifactValue cell

def artifactField (multiplier : F) (field : String × FrameCell F) : String × PyValue F :=
  (field.1, if !isOne multiplier && isPriceField field.1 then
    dividedCell runtime multiplier field.2 else artifactValue field.2)

def artifactRecords (multiplier : F) (rows : List (FrameRow F)) : PyValue F :=
  .list (rows.map fun row => .dict (row.map (artifactField runtime multiplier)))

/-- `sorted({0, len - 1, *range(0, len, max(1, len // 2_000))})`. -/
def sampledPositions (length : Nat) : List Nat :=
  (List.range length).filter fun position =>
    position % max 1 (length / 2000) = 0 || position = length - 1

def boundedEquity (value : EquitySeries F) : List (FrameCell F × FrameCell F) × String :=
  if value.entries.length ≤ 2000 then (value.entries, "complete_bar_equity")
  else if !value.datetimeIndex then
    ((sampledPositions value.entries.length).filterMap fun position => value.entries[position]?,
      "bounded_even_sample_from_complete_bar_equity")
  else (runtime.dailyLast value.entries, "daily_last_from_complete_bar_equity")

def EquityValue.single? : EquityValue F → Option (EquitySeries F)
  | .series value => some value
  | .frame [value] => some value
  | .frame _ => none

/-- `_direction_summary`, of the engine's numbers. -/
def directionSummary (view : DirectionView F) : PyValue F :=
  .dict [("net_profit", finiteValue view.netProfit), ("gross_profit", finiteValue view.grossProfit),
    ("gross_loss", finiteValue view.grossLoss), ("profit_factor", finiteValue view.profitFactor),
    ("max_drawdown", finiteValue view.maxDrawdown), ("total_trades", .int view.totalTrades),
    ("win_rate", finiteValue view.winRate), ("avg_trade", finiteValue view.avgTrade),
    ("avg_win", finiteValue view.avgWin), ("avg_loss", finiteValue view.avgLoss),
    ("largest_win", finiteValue view.largestWin), ("largest_loss", finiteValue view.largestLoss),
    ("avg_bars_in_trade", finiteValue view.avgBarsInTrade),
    ("commission_paid", finiteValue view.commissionPaid)]

def performanceSummary (snapshot : ScreeningPortfolioSnapshot F) : PyValue F :=
  .dict [("all", directionSummary snapshot.all), ("long", directionSummary snapshot.long),
    ("short", directionSummary snapshot.short)]

omit [ColumnNumber F] in
@[simp] theorem allFinite_finiteValue (value : F) : allFinite (finiteValue value) = true := by
  unfold finiteValue
  split
  · rename_i finite
    exact finite
  · rfl

omit [ColumnNumber F] in
/-- The engine's statistics never keep a document from being written. -/
@[simp] theorem allFinite_performanceSummary (snapshot : ScreeningPortfolioSnapshot F) :
    allFinite (performanceSummary snapshot) = true := by
  simp [performanceSummary, directionSummary, allFinite, allFiniteEntries]

end Values

/-! ## The documents of one setting -/

structure MetricPolicy (F : Type) where
  sampling : String
  periodsPerYear : Int
  riskFreeRate : F
  basis : String
  source : String

structure EvidenceConfig (F : Type) where
  strategyId : String
  strategyVersion : String
  symbol : String
  interval : String
  exchangeCalendar : Option String
  marketData : PyValue F
  metricPolicy : Option (MetricPolicy F)
  priceMultiplier : F

/-- A document with the type and the name it is registered under. -/
structure EvidenceDocument (F : Type) where
  artifactType : ArtifactType
  logicalName : String
  document : PyValue F

section Documents
variable {F Content P S : Type} [PyFloat F] [ColumnNumber F] (runtime : EvidenceRuntime F Content)
variable (config : EvidenceConfig F)

def optionalText : Option String → PyValue F
  | none => .none
  | some text => .str text

def annualizationDocument : PyValue F :=
  match config.metricPolicy with
  | none => .none
  | some policy => .dict [("sampling", .str policy.sampling),
      ("sessions_per_year", .int policy.periodsPerYear),
      ("risk_free_rate", .float policy.riskFreeRate), ("basis", .str policy.basis),
      ("source", .str policy.source), ("exchange_calendar", optionalText config.exchangeCalendar)]

def metricsValues (metrics : SweepMetrics F) : PyValue F :=
  .dict [("total_return", artifactValue (.number metrics.totalReturn)),
    ("annualized_return", artifactValue (.number metrics.annualizedReturn)),
    ("sharpe_ratio", artifactValue (.number metrics.sharpeRatio)),
    ("max_drawdown", artifactValue (.number metrics.maxDrawdown)),
    ("number_of_trades", artifactValue (.whole metrics.numberOfTrades)),
    ("win_rate", artifactValue (.number metrics.winRate))]

def equityPoint (point : FrameCell F × FrameCell F) : PyValue F :=
  .dict [("timestamp", artifactValue point.1), ("value", artifactValue point.2)]

def evidenceClassification : String :=
  "Development screening evidence only; not independent, protected, or edge proof"

def priceNormalization : String :=
  "Trade and order price fields are divided by the execution multiplier for display against " ++
    "source bars; monetary fields are unchanged."

/-- The documents of one ranked row and one snapshot, when the equity is one series. -/
def evidenceDocuments (row : EvaluatedSetting S F) (rankingPosition : Nat)
    (snapshot : ScreeningPortfolioSnapshot F) (equity : EquitySeries F) :
    List (EvidenceDocument F) :=
  let bounded := boundedEquity runtime equity
  let identity : Entries F :=
    [("parameter_row_id", .str row.parameterRowId), ("ranking_position", .int rankingPosition)]
  [⟨.runSummary, "run_summary", .dict [("strategy_id", .str config.strategyId),
      ("strategy_version", .str config.strategyVersion),
      ("selected_parameter_row_id", .str row.parameterRowId),
      ("selected_ranking_position", .int rankingPosition),
      ("evidence_classification", .str evidenceClassification),
      ("promotion_eligible", .bool false), ("broker_orders", .str "disabled")]⟩,
    ⟨.metrics, "metrics", .dict (identity ++ [("metrics", metricsValues row.metrics),
      ("annualization", annualizationDocument config)])⟩,
    ⟨.tradesOrOrders, "trades_and_orders", .dict (identity ++ [("instrument", .str config.symbol),
      ("price_unit", .str (if isOne config.priceMultiplier then "currency" else "index_points")),
      ("pnl_unit", .str "USD"), ("price_multiplier", .float config.priceMultiplier),
      ("price_normalization", .str priceNormalization),
      ("trades", artifactRecords runtime config.priceMultiplier snapshot.trades),
      ("orders", artifactRecords runtime config.priceMultiplier snapshot.orders)])⟩,
    ⟨.equityCurve, "equity_curve", .dict (identity ++ [("source_interval", .str config.interval),
      ("equity_sampling", .str bounded.2), ("equity_curve", .list (bounded.1.map equityPoint)),
      ("price_series", .list []),
      ("benchmark_omission",
        .str "No benchmark was declared for this bounded screening run.")])⟩,
    ⟨.metrics, "performance_summary", .dict [("parameter_row_id", .str row.parameterRowId),
      ("instrument", .str config.symbol), ("pnl_unit", .str "USD"),
      ("source", .str "VectorBT PRO Portfolio (all / long_view / short_view)"),
      ("performance", performanceSummary snapshot)]⟩]

def runtimeError (message : String) : LaunchError := ⟨.runtimeError, message⟩

def matchingRows (rowId : String) (ranked : List (EvaluatedSetting S F)) :
    List (EvaluatedSetting S F × Nat) :=
  ranked.zipIdx.filter fun entry => entry.1.parameterRowId = rowId

/-- `_screening_artifacts` without a price series, and the performance summary. -/
def screeningArtifacts (ranked : List (EvaluatedSetting S F)) (rowId : String)
    (snapshot : ScreeningPortfolioSnapshot F) : Except LaunchError (List (EvidenceDocument F)) :=
  match matchingRows rowId ranked with
  | [(row, position)] =>
      if row.metrics.numberOfTrades ≠ snapshot.trades.length then
        .error (runtimeError "ranked trade count does not match the actual trade ledger")
      else match snapshot.value.single? with
        | none => .error (runtimeError "expected one-column portfolio equity series")
        | some equity => .ok (evidenceDocuments runtime config row (position + 1) snapshot equity)
  | _ => .error (runtimeError "screening portfolio must match one ranked parameter row")

end Documents

/-! ## Registration -/

/-- The bars a run used, with what is checked of their frame. -/
structure ScreeningData (F : Type) where
  timezoneAware : Bool
  columns : List String
  rows : List (MarketRow F)

section Registration
variable {F Content S : Type} [PyFloat F] [ColumnNumber F] (runtime : EvidenceRuntime F Content)
variable (config : EvidenceConfig F) (runId : String) (clock : Clock)

def screeningPriceReference : String := "screening_price_series_reference"

def priceColumns : List String := ["Open", "High", "Low", "Close"]

omit [PyFloat F] [ColumnNumber F] in
def priceReference (data : ScreeningData F) : Except LaunchError (EvidenceDocument F) :=
  if !data.timezoneAware then
    .error (valueError "screening price history requires a timezone-aware DatetimeIndex")
  else if priceColumns.any fun column => !data.columns.contains column then
    .error (valueError "screening price history is missing required OHLC columns")
  else match data.rows.head?, data.rows.getLast? with
    | some first, some last => .ok ⟨.datasetManifest, screeningPriceReference,
        .dict [("market_data", config.marketData), ("symbol", .str config.symbol),
          ("timeframe", .str config.interval), ("start", .str (runtime.isoformat first.time)),
          ("end", .str (runtime.isoformat last.time)), ("row_count", .int data.rows.length),
          ("bars_sha256", .str (runtime.barsHash data.rows))]⟩
    | _, _ => .error (valueError "screening price history is empty")

def documentLocation (name : String) : String := s!"state/artifacts/{runId}/{name}.json"

def documentRegistration (document : EvidenceDocument F) (content : Content) (now : String) :
    ArtifactRegistration Content where
  runId := runId
  artifactType := document.artifactType
  logicalName := document.logicalName
  mediaType := "application/json"
  format := "json"
  location := documentLocation runId document.logicalName
  content := content
  schemaVersion := 1
  availabilityState := .available
  now := now

def persistDocument (store : ArtifactStore Content) (document : EvidenceDocument F) :
    Except LaunchError (ArtifactStore Content) := do
  let text ← canonicalText runtime.toArtifactRuntime document.document
  let content := runtime.encode (text ++ "\n")
  let files := Function.update store.files (documentLocation runId document.logicalName)
    (.regular content)
  registerArtifact runtime.toArtifactRuntime { store with files }
    (documentRegistration runId document content (clock store.artifacts.length))

def persistDocuments : ArtifactStore Content → List (EvidenceDocument F) →
    Except LaunchError (ArtifactStore Content)
  | store, [] => .ok store
  | store, document :: rest => do
      let store ← persistDocument runtime runId clock store document
      persistDocuments store rest

/-- `f"screening_configuration/{row_id}" if combination_count > 1 else None`. -/
def configurationNamespace (combinationCount : Nat) (rowId : String) : Option String :=
  if combinationCount > 1 then some s!"screening_configuration/{rowId}" else none

def qualifiedName (space : Option String) (name : String) : String :=
  match space with
  | some space => s!"{space}/{name}"
  | none => name

def EvidenceDocument.under (space : Option String) (document : EvidenceDocument F) :
    EvidenceDocument F :=
  { document with logicalName := qualifiedName space document.logicalName }

def persistScreeningArtifacts (ranked : List (EvaluatedSetting S F)) (space : Option String)
    (store : ArtifactStore Content) (rowId : String) (snapshot : ScreeningPortfolioSnapshot F) :
    Except LaunchError (ArtifactStore Content) := do
  let artifacts ← screeningArtifacts runtime config ranked rowId snapshot
  persistDocuments runtime runId clock store (artifacts.map (·.under space))

def persistConfigurations (ranked : List (EvaluatedSetting S F)) (combinationCount : Nat) :
    ArtifactStore Content → CapturedPortfolios F → Except LaunchError (ArtifactStore Content)
  | store, [] => .ok store
  | store, (rowId, snapshot) :: rest => do
      let store ← persistScreeningArtifacts runtime config runId clock ranked
        (configurationNamespace combinationCount rowId) store rowId snapshot
      persistConfigurations ranked combinationCount store rest

def persistCapturedScreeningEvidence (ranked : List (EvaluatedSetting S F))
    (combinationCount : Nat) (data : ScreeningData F) (captured : CapturedPortfolios F)
    (store : ArtifactStore Content) : Except LaunchError (ArtifactStore Content) :=
  if captured.isEmpty then .ok store
  else if captured.length ≠ combinationCount then
    .error (runtimeError "bounded screening evidence capture is incomplete")
  else do
    let reference ← priceReference runtime config data
    let store ← persistDocument runtime runId clock store reference
    persistConfigurations runtime config runId clock ranked combinationCount store captured

end Registration

end QuantFactory.Experiments
