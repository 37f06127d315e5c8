import QuantFactory.Experiments.SignalCache
import QuantFactory.Experiments.Simulation
import QuantFactory.Library.Chunks

/-!
# A sweep in chunks

`simulate_in_chunks` with the preparation of `experiments/windows.py` and the metrics of
`experiments/metrics.py`: the signals of a chunk of settings, one simulation of them, and
what is kept of each.  Each of the kept lists is in the order of the settings and does not
depend on the size of the chunks.
-/

set_option autoImplicit false

namespace QuantFactory.Experiments

open QuantFactory.Library

structure SweepStrategy (S K F : Type) extends SignalStrategy SweepError S K (SignalResult F) where
  shape : SignalShape
  generate_shape : ∀ setting signals, generate setting = .ok signals → signals.shape = shape

/-! ## Validation and the window -/

/-- The gates of one history; each gives its results or raises for a blocking failure. -/
structure Gates (F R : Type) where
  market : Except SweepError R
  signals : SignalResult F → Except SweepError R
  execution : SignalResult F → SignalResult F → Except SweepError R

section Window
variable {S K F R : Type} [ColumnNumber F]

def validateForSimulation (gates : Gates F R) (execution : ExecutionConfig F)
    (signals : SignalResult F) : Except SweepError (SignalResult F × List R) := do
  let marketResults ← gates.market
  let signalResults ← gates.signals signals
  let aligned := alignSignalsForExecution signals execution
  let executionResults ← gates.execution signals aligned
  .ok (aligned, [marketResults, signalResults, executionResults])

def inWindow (range : Option (Int × Int)) (row : MarketRow F) : Bool :=
  match range with
  | none => true
  | some (start, stop) => decide (start ≤ row.time) && decide (row.time ≤ stop)

/-- `series.loc[window.index]`. -/
def seriesInWindow {α : Type} (data : List (MarketRow F)) (range : Option (Int × Int))
    (series : List α) : List α :=
  match range with
  | none => series
  | some _ => ((data.zip series).filter fun entry => inWindow range entry.1).map Prod.snd

def signalsInWindow (data : List (MarketRow F)) (range : Option (Int × Int))
    (aligned : SignalResult F) : SignalResult F :=
  aligned.mapSeries (seriesInWindow data range) (seriesInWindow data range)
    (seriesInWindow data range) (seriesInWindow data range)

/-- One prepared setting: its parameters, its signals in the window, its gate results. -/
abbrev Prepared (S F R : Type) := S × SignalResult F × List R

structure SweepInputs (S K F R : Type) where
  data : List (MarketRow F)
  strategy : SweepStrategy S K F
  gates : Gates F R
  execution : ExecutionConfig F
  evaluationRange : Option (Int × Int)

def SweepInputs.window (inputs : SweepInputs S K F R) : List (MarketRow F) :=
  inputs.data.filter (inWindow inputs.evaluationRange)

def prepareSetting (inputs : SweepInputs S K F R) (setting : S × SignalResult F) :
    Except SweepError (Prepared S F R) := do
  let (aligned, results) ← validateForSimulation inputs.gates inputs.execution setting.2
  .ok (setting.1, signalsInWindow inputs.data inputs.evaluationRange aligned, results)

/-- `prepare` of `chunk_preparer`. -/
def prepareChunk [DecidableEq K] (policy : CachePolicy K (SignalResult F))
    (inputs : SweepInputs S K F R) (held : Option (List (K × SignalResult F))) (chunk : List S) :
    Except SweepError (Option (List (K × SignalResult F)) × List (Prepared S F R)) := do
  let (after, generated) ← generateSignalsOnce (.other "KeyError") policy
    inputs.strategy.toSignalStrategy held chunk
  let settings ← collect (prepareSetting inputs) (chunk.zip generated)
  .ok (after, settings)

end Window

/-! ## Metrics -/

structure SessionBounds where
  marketOpen : Int
  marketClose : Int
  deriving DecidableEq, Repr

/-- The exchange-session policy: the interval of a bar when it is a fixed duration, the schedule
between two timestamps, and the statistics of a column of session closes. -/
structure SessionPolicy (F : Type) where
  interval : Option Int
  schedule : Int → Int → List SessionBounds
  statistics : List F → F × F × F

structure SweepMetrics (F : Type) where
  totalReturn : F
  annualizedReturn : F
  sharpeRatio : F
  maxDrawdown : F
  numberOfTrades : Int
  winRate : F
  deriving DecidableEq

section Metrics
variable {F : Type} [ColumnNumber F]

open ColumnNumber

def timesOf (data : List (MarketRow F)) : List Int := data.map (·.time)

def valueAt (data : List (MarketRow F)) (series : List F) (time : Int) : Option F :=
  ((data.map (·.time)).zip series).lookup time

def missingClose : SweepError := .runtimeError "source data is missing the closing bar"

def noValues : SweepError := .runtimeError "portfolio value must be a nonempty Series"

def badValues : SweepError := .runtimeError "portfolio values must be positive and finite"

def missingSessionCloseValue (data : List (MarketRow F)) (value : List F)
    (assets : Option (List F)) (session : SessionBounds) (closing : Int) : Except SweepError F :=
  let flat (time : Int) : Bool :=
    ((assets.bind fun units => valueAt data units time).map isZero).getD false
  let times := data.map (·.time)
  let observed := times.filter fun time => session.marketOpen ≤ time ∧ time < session.marketClose
  match observed.getLast? with
  | none =>
      match (times.filter (· < session.marketOpen)).getLast?,
          (times.filter (session.marketClose ≤ ·)).head? with
      | some before, some after =>
          if flat before && flat after then orRaise (valueAt data value before) missingClose
          else .error missingClose
      | _, _ => .error missingClose
  | some last =>
      if decide (last < closing) && flat last then orRaise (valueAt data value last) missingClose
      else .error missingClose

def sessionEquity (data : List (MarketRow F)) (interval : Int) (column : PortfolioColumn F)
    (session : SessionBounds) : Except SweepError F :=
  let closing := session.marketClose - interval
  match valueAt data column.value closing with
  | some value => .ok value
  | none =>
      let assets := if column.assets.length = data.length then some column.assets else none
      missingSessionCloseValue data column.value assets session closing

/-- The completed sessions of the bars of an index that passed the checks. -/
def completedSessions (policy : SessionPolicy F) (data : List (MarketRow F)) :
    Except SweepError (Int × List SessionBounds) :=
  match data.head?, data.getLast? with
  | some first, some last =>
      match policy.interval with
      | none => .error (.runtimeError "session metrics require a fixed source interval")
      | some interval =>
          let schedule := policy.schedule first.time last.time
          let observedThrough := last.time + interval
          let completed := schedule.filter (·.marketClose ≤ observedThrough)
          if schedule.any fun session => decide (session.marketOpen ≤ last.time) &&
              decide (observedThrough < session.marketClose) then
            .error (.runtimeError
              "session metrics cannot include a partially observed final session")
          else if completed.length < 2 then
            .error (.runtimeError "session metrics require at least two completed sessions")
          else .ok (interval, completed)
  | _, _ => .error noValues

def columnIsPositive (column : PortfolioColumn F) : Bool :=
  column.value.all fun value => isFinite value && isPositive value

/-- The values of one column are positive and finite, and one for each bar. -/
def columnIsUsable (data : List (MarketRow F)) (column : PortfolioColumn F) : Bool :=
  columnIsPositive column && decide (column.value.length = data.length)

/-- The checks of the portfolio values, which stand on an index of their own. -/
def valueChecks (data : List (MarketRow F)) (index : List Int)
    (columns : List (PortfolioColumn F)) : Except SweepError Unit := do
  raiseIf (columns.isEmpty || index.isEmpty) noValues
  raiseIf (!decide (index.Pairwise (· < ·)))
    (.runtimeError "portfolio timestamps must be unique and chronological")
  raiseIf (!columns.all columnIsPositive) badValues
  raiseIf (!(decide (timesOf data = index) &&
      columns.all fun column => decide (column.value.length = data.length)))
    (.runtimeError "portfolio values must align exactly with source data")

structure ValuesChecked (data : List (MarketRow F)) (index : List Int)
    (columns : List (PortfolioColumn F)) : Prop where
  filled : columns ≠ []
  shown : index ≠ []
  sorted : index.Pairwise (· < ·)
  usable : ∀ column ∈ columns, columnIsUsable data column = true
  aligned : timesOf data = index

theorem valueChecks_eq_ok {data : List (MarketRow F)} {index : List Int}
    {columns : List (PortfolioColumn F)} :
    valueChecks data index columns = .ok () ↔ ValuesChecked data index columns := by
  simp only [valueChecks, raiseIf_bind_eq_ok, raiseIf_eq_ok, Bool.or_eq_false_iff,
    List.isEmpty_eq_false_iff, Bool.not_eq_false', decide_eq_true_eq, Bool.and_eq_true,
    List.all_eq_true]
  constructor
  · rintro ⟨⟨filled, shown⟩, sorted, positive, aligned, length⟩
    refine ⟨filled, shown, sorted, fun column member => ?_, aligned⟩
    rw [columnIsUsable, positive column member, decide_eq_true (length column member)]
    rfl
  · rintro ⟨filled, shown, sorted, usable, aligned⟩
    simp only [columnIsUsable, Bool.and_eq_true, decide_eq_true_eq] at usable
    exact ⟨⟨filled, shown⟩, sorted, fun column member => (usable column member).1, aligned,
      fun column member => (usable column member).2⟩

theorem valuesChecked_iff_each {data : List (MarketRow F)} {index : List Int}
    {columns : List (PortfolioColumn F)} (nonempty : columns ≠ []) :
    ValuesChecked data index columns ↔
      ∀ column ∈ columns, ValuesChecked data index [column] := by
  constructor
  · intro checked column member
    exact ⟨List.cons_ne_nil _ _, checked.shown, checked.sorted,
      List.forall_mem_singleton.mpr (checked.usable column member), checked.aligned⟩
  · intro each
    obtain ⟨first, member⟩ := List.exists_mem_of_ne_nil columns nonempty
    have checked := each first member
    exact ⟨nonempty, checked.shown, checked.sorted,
      fun column listed => (each column listed).usable column (List.mem_singleton_self column),
      checked.aligned⟩

/-- `session_close_metrics_frame`; the engine's values stand on the bars it was given. -/
def sessionCloseMetricsFrame (policy : SessionPolicy F) (data : List (MarketRow F))
    (columns : List (PortfolioColumn F)) : Except SweepError (List (F × F × F)) := do
  valueChecks data (timesOf data) columns
  let (interval, completed) ← completedSessions policy data
  let equity ← collect (fun column => collect (sessionEquity data interval column) completed)
    columns
  let statistics := equity.map policy.statistics
  raiseIf (!statistics.all fun row => isFinite row.2.1)
    (.runtimeError "session annualized return must be finite")
  .ok statistics

/-- The returns and Sharpe ratios, by the declared policy or the engine's own. -/
def sweepReturns (policy : Option (SessionPolicy F)) (data : List (MarketRow F))
    (columns : List (PortfolioColumn F)) : Except SweepError (List (F × F × F)) :=
  match policy with
  | some policy => sessionCloseMetricsFrame policy data columns
  | none => .ok (columns.map fun column =>
      (column.totalReturn, column.annualizedReturn, column.sharpeRatio))

def settingMetrics (column : PortfolioColumn F) (returns : F × F × F) :
    Except SweepError (SweepMetrics F) := do
  let trades ← orRaise (truncated column.tradeCount) (.valueError "cannot convert float to integer")
  .ok ⟨returns.1, returns.2.1, returns.2.2, column.maxDrawdown, trades, column.winRate⟩

def extractSweepMetrics (policy : Option (SessionPolicy F)) (data : List (MarketRow F))
    (columns : List (PortfolioColumn F)) (count : Nat) :
    Except SweepError (List (SweepMetrics F)) := do
  raiseIf (decide (columns.length ≠ count))
    (.runtimeError "sweep metric has another number of values than settings")
  let returns ← sweepReturns policy data columns
  collect (fun pair => settingMetrics pair.1 pair.2) (columns.zip returns)

/-! ## Daily values -/

def dailyLast (day : Int → Int) (data : List (MarketRow F)) (series : List F) (wanted : Int) :
    Option F :=
  (((data.zip series).filter fun entry => decide (day entry.1.time = wanted) &&
    !isNull entry.2).getLast?).map Prod.snd

def keptDays (day : Int → Int) (data : List (MarketRow F)) (columns : List (PortfolioColumn F)) :
    List Int :=
  (data.map fun row => day row.time).dedup.filter fun wanted =>
    columns.any fun column => (dailyLast day data column.value wanted).isSome

abbrev DailySeries (F : Type) := List (Int × Option F)

/-- `daily_values`; a portfolio with another number of columns has none. -/
def dailyValues (day : Int → Int) (data : List (MarketRow F)) (columns : List (PortfolioColumn F))
    (count : Nat) : List (Option (DailySeries F)) :=
  if columns.length = count then
    columns.map fun column => some ((keptDays day data columns).map fun wanted =>
      (wanted, dailyLast day data column.value wanted))
  else List.replicate count none

end Metrics

/-! ## The loop -/

def memoryTargetBytes : Int := 2500000000
def baseBytes : Int := 1400000000
def transientBytesPerBar : Int := 110
def valueBytesPerBar : Int := 8

def chunkSettingsFor (bars settings : Nat) : Int :=
  let budget := memoryTargetBytes - baseBytes - bars * valueBytesPerBar * settings
  max 1 (budget / max 1 (bars * transientBytesPerBar))

/-- `chunk_settings or chunk_settings_for(len(data), len(settings))`. -/
def chunkSize (chunkSettings : Option Nat) (bars settings : Nat) : Nat :=
  match chunkSettings with
  | some (size + 1) => size + 1
  | _ => (chunkSettingsFor bars settings).toNat

theorem chunkSize_pos (chunkSettings : Option Nat) (bars settings : Nat) :
    0 < chunkSize chunkSettings bars settings := by
  have positive : 1 ≤ chunkSettingsFor bars settings := Int.le_max_left _ _
  unfold chunkSize
  split
  · omega
  · omega

structure SweepLists (S F R : Type) where
  metrics : List (SweepMetrics F)
  values : List (Option (DailySeries F))
  observed : List (PortfolioColumn F)
  extras : List (S × List R)

def SweepLists.add {S F R : Type} (first second : SweepLists S F R) : SweepLists S F R where
  metrics := first.metrics ++ second.metrics
  values := first.values ++ second.values
  observed := first.observed ++ second.observed
  extras := first.extras ++ second.extras

section Sweep
variable {S K F R : Type} [DecidableEq K] [ColumnNumber F]
variable (engine : Engine F) (policy : Option (SessionPolicy F)) (day : Int → Int)
variable (keepPortfolios : Bool) (cachePolicy : CachePolicy K (SignalResult F))
variable (inputs : SweepInputs S K F R)

def settingPortfolio (sweep : List (PortfolioColumn F)) (position : Nat) :
    Except SweepError (PortfolioColumn F) :=
  orRaise sweep[position]? (.other "single positional indexer is out-of-bounds")

def observedPortfolios (sweep : List (PortfolioColumn F)) (count : Nat) :
    Except SweepError (List (PortfolioColumn F)) :=
  if keepPortfolios then collect (settingPortfolio sweep) (List.range count) else .ok []

def sweepChunk (held : Option (List (K × SignalResult F))) (chunk : List S) :
    Except SweepError (Option (List (K × SignalResult F)) × SweepLists S F R) := do
  let (after, settings) ← prepareChunk cachePolicy inputs held chunk
  let aligned := settings.map fun setting => setting.2.1
  let sweep ← constructPortfolio engine inputs.window aligned inputs.execution
  let metrics ← extractSweepMetrics policy inputs.window sweep aligned.length
  let values := dailyValues day inputs.window sweep aligned.length
  let observed ← observedPortfolios keepPortfolios sweep aligned.length
  .ok (after, ⟨metrics, values, observed, settings.map fun setting => (setting.1, setting.2.2)⟩)

def simulateInChunks (chunkSettings : Option Nat) (settings : List S)
    (held : Option (List (K × SignalResult F))) :
    Except SweepError (Option (List (K × SignalResult F)) × SweepLists S F R) :=
  let size := chunkSize chunkSettings inputs.data.length settings.length
  chunkLoop (sweepChunk engine policy day keepPortfolios cachePolicy inputs) SweepLists.add
    (slices size settings) held ⟨[], [], [], []⟩

end Sweep

end QuantFactory.Experiments
