import Mathlib.Data.List.Dedup
import QuantFactory.Experiments.Sweep

/-!
# The size of the chunks is not seen

What a chunk keeps of each setting is what the setting gives by itself: its own signals
whatever the cache holds, the column the engine computes from them, the metrics and the
daily values of that column.  So the whole sweep is the settings one by one.
-/

set_option autoImplicit false

namespace QuantFactory.Experiments

open QuantFactory.Library

/-! ## One call, column by column -/

section Columns
variable {F : Type}

def ColumnInputs.presence (column : ColumnInputs F) : List Bool :=
  [column.entries.isSome, column.exits.isSome, column.shortEntries.isSome,
    column.shortExits.isSome, column.slStop.isSome, column.tpStop.isSome, column.tslStop.isSome,
    column.tslTh.isSome, column.tdStop.isSome]

theorem directedColumn_presence {first second : SignalResult F} (same : first.shape = second.shape)
    (direction : PortfolioDirection) (price other : List F) :
    (directedColumn first direction price).presence =
      (directedColumn second direction other).presence := by
  simp only [SignalResult.shape, SignalShape.mk.injEq] at same
  obtain ⟨shortEntries, shortExits, stopLoss, takeProfit, trailing, threshold, tdStop, -⟩ := same
  cases direction <;>
    simp [directedColumn, ColumnInputs.presence, shortEntries, shortExits, stopLoss, takeProfit,
      trailing, threshold, tdStop]

theorem any_eq_of_uniform {ι : Type} {p : ι → Bool} {items : List ι} {item : ι}
    (member : item ∈ items) (uniform : ∀ other ∈ items, p other = p item) :
    items.any p = p item := by
  cases holds : p item with
  | true => exact List.any_eq_true.mpr ⟨item, member, holds⟩
  | false =>
      rw [List.any_eq_false]
      intro other listed
      rw [uniform other listed, holds]
      exact Bool.false_ne_true

theorem findSome?_eq_of_uniform {ι κ : Type} {f : ι → Option κ} {items : List ι} {found : Option κ}
    (nonempty : items ≠ []) (uniform : ∀ item ∈ items, f item = found) :
    items.findSome? f = found := by
  cases items with
  | nil => exact absurd rfl nonempty
  | cons first rest =>
      have head := uniform first List.mem_cons_self
      cases found with
      | some value => rw [List.findSome?_cons, head]
      | none => exact List.findSome?_eq_none_iff.mpr uniform

theorem stackColumn_own {α : Type} {anyHas : Bool} {value : Option (List α)}
    (same : anyHas = value.isSome) (fill : α) (rows : Nat) :
    stackColumn anyHas fill rows value = value := by
  subst same
  cases value <;> rfl

variable [ColumnNumber F]

omit [ColumnNumber F] in
theorem stackKey_own {α : Type} {settings : List (SettingArgs F)} {args : SettingArgs F}
    (member : args ∈ settings) (key : ColumnInputs F → Option (List α))
    (uniform : ∀ other ∈ settings, (key other.column).isSome = (key args.column).isSome)
    (fill : α) (rows : Nat) :
    stackColumn (anyHas settings key) fill rows (key args.column) = key args.column := by
  have present : anyHas settings key = (key args.column).isSome :=
    @any_eq_of_uniform (SettingArgs F) (fun other => (key other.column).isSome) settings args
      member uniform
  exact stackColumn_own present fill rows

/-- With the same inputs present in every setting nothing is filled in. -/
theorem stackColumns_uniform {settings : List (SettingArgs F)} (rows : Nat)
    (uniform : ∀ first ∈ settings, ∀ second ∈ settings,
      first.column.presence = second.column.presence) :
    stackColumns rows settings = settings.map (·.column) := by
  refine List.map_congr_left fun args member => ?_
  have each := fun other listed => uniform other listed args member
  simp only [ColumnInputs.presence, List.cons.injEq] at each
  have entries := stackKey_own member (·.entries) (fun other listed => (each other listed).1)
  have exits := stackKey_own member (·.exits) (fun other listed => (each other listed).2.1)
  have shortEntries := stackKey_own member (·.shortEntries)
    (fun other listed => (each other listed).2.2.1)
  have shortExits := stackKey_own member (·.shortExits)
    (fun other listed => (each other listed).2.2.2.1)
  have slStop := stackKey_own member (·.slStop) (fun other listed => (each other listed).2.2.2.2.1)
  have tpStop := stackKey_own member (·.tpStop)
    (fun other listed => (each other listed).2.2.2.2.2.1)
  have tslStop := stackKey_own member (·.tslStop)
    (fun other listed => (each other listed).2.2.2.2.2.2.1)
  have tslTh := stackKey_own member (·.tslTh)
    (fun other listed => (each other listed).2.2.2.2.2.2.2.1)
  have tdStop := stackKey_own member (·.tdStop)
    (fun other listed => (each other listed).2.2.2.2.2.2.2.2.1)
  simp only [entries, exits, shortEntries, shortExits, slStop, tpStop, tslStop, tslTh, tdStop]

def SignalShape.hasStop (shape : SignalShape) : Bool :=
  shape.stopLoss || shape.takeProfit || shape.trailingStop || shape.trailingThreshold ||
    shape.tdStop

def SignalShape.stopBars (shape : SignalShape) (data : List (MarketRow F))
    (execution : ExecutionConfig F) : Option (StopBars F) :=
  if shape.hasStop then some ⟨scaled execution (data.map (·.openPrice)),
    scaled execution (data.map (·.high)), scaled execution (data.map (·.low))⟩ else none

theorem settingArgs_shape {data : List (MarketRow F)} {aligned : SignalResult F}
    {execution : ExecutionConfig F} {args : SettingArgs F}
    (built : settingArgs data aligned execution = .ok args) :
    args.column = directedColumn aligned execution.direction
        (scaled execution (executionPrices data execution)) ∧
      args.stopBars = aligned.shape.stopBars data execution ∧
      args.timeDelta = aligned.shape.tdStop ∧
      args.uponOppositeEntry = aligned.shape.uponOppositeEntry := by
  obtain ⟨stopBars, stops, done⟩ := bind_eq_ok.mp built
  cases done
  refine ⟨rfl, ?_, rfl, rfl⟩
  have same : aligned.shape.hasStop = aligned.hasStop := rfl
  unfold stopArgs at stops
  unfold SignalShape.stopBars
  rw [same]
  cases has : aligned.hasStop with
  | false =>
      simp only [has, Bool.not_false, if_true, Except.ok.injEq] at stops
      subst stops
      rfl
  | true =>
      simp only [has, Bool.not_true, Bool.false_eq_true, if_false] at stops
      split at stops
      · cases stops
      · cases stops
        rfl

def sharedOfShape (data : List (MarketRow F)) (execution : ExecutionConfig F)
    (shape : SignalShape) : SharedInputs F :=
  { sharedInputs data execution [] ⟨[], [], none, none, none, none, none, none, none, none,
      shape.sessionEntryCap, shape.sessionId⟩ with
    stopBars := shape.stopBars data execution
    timeDelta := shape.tdStop
    uponOppositeEntry := shape.uponOppositeEntry }

theorem sharedInputs_uniform {data : List (MarketRow F)} {execution : ExecutionConfig F}
    {settings : List (SettingArgs F)} {first : SignalResult F} {shape : SignalShape}
    (nonempty : settings ≠ []) (own : first.shape = shape)
    (uniform : ∀ args ∈ settings, args.stopBars = shape.stopBars data execution ∧
      args.timeDelta = shape.tdStop ∧ args.uponOppositeEntry = shape.uponOppositeEntry) :
    sharedInputs data execution settings first = sharedOfShape data execution shape := by
  obtain ⟨args, member⟩ := List.exists_mem_of_ne_nil settings nonempty
  have bars := findSome?_eq_of_uniform nonempty fun args listed => (uniform args listed).1
  have opposite := findSome?_eq_of_uniform nonempty fun args listed => (uniform args listed).2.2
  have delta : settings.any (·.timeDelta) = shape.tdStop := by
    rw [any_eq_of_uniform member fun other listed =>
      (uniform other listed).2.1.trans (uniform args member).2.1.symm]
    exact (uniform args member).2.1
  subst own
  simp only [sharedInputs, sharedOfShape, bars, opposite, delta]
  rfl

def ownColumn (column : SharedInputs F → ColumnInputs F → Option (PortfolioColumn F))
    (data : List (MarketRow F)) (execution : ExecutionConfig F) (shape : SignalShape)
    (aligned : SignalResult F) : Option (PortfolioColumn F) :=
  (settingArgs data aligned execution).toOption.bind fun args =>
    column (sharedOfShape data execution shape) args.column

/-- A call of settings of one shape gives each setting its own column. -/
theorem constructPortfolio_eq {engine : Engine F}
    {column : SharedInputs F → ColumnInputs F → Option (PortfolioColumn F)}
    (independent : ∀ call, (engine call).toOption = call.columns.mapM (column call.shared))
    {data : List (MarketRow F)} {execution : ExecutionConfig F} {shape : SignalShape}
    {aligned : List (SignalResult F)} (nonempty : aligned ≠ [])
    (uniform : ∀ setting ∈ aligned, setting.shape = shape) :
    (constructPortfolio engine data aligned execution).toOption =
      aligned.mapM (ownColumn column data execution shape) := by
  have pairs := mapM_pairs (fun setting => (settingArgs data setting execution).toOption)
    (fun pair => column (sharedOfShape data execution shape) pair.2.column) aligned
  unfold constructPortfolio
  rw [toOption_bind, toOption_collect]
  change _ = aligned.mapM fun setting => (settingArgs data setting execution).toOption.bind
    fun args => column (sharedOfShape data execution shape) args.column
  rw [← pairs]
  cases built : aligned.mapM fun setting => (settingArgs data setting execution).toOption with
  | none => rfl
  | some settings =>
      have length := length_of_mapM built
      have fits : ∀ args ∈ settings, ∃ setting ∈ aligned,
          settingArgs data setting execution = .ok args := by
        intro args member
        obtain ⟨row, inside, rfl⟩ := List.mem_iff_getElem.mp member
        have within : row < aligned.length := by omega
        refine ⟨aligned[row], List.getElem_mem within, toOption_eq_some_iff.mp ?_⟩
        have paired : (aligned[row], settings[row]) ∈ aligned.zip settings :=
          List.mem_iff_getElem.mpr ⟨row, by rw [List.length_zip]; omega, by simp⟩
        exact mem_zip_of_mapM built paired
      cases aligned with
      | nil => exact absurd rfl nonempty
      | cons first rest =>
          have some : settings ≠ [] := by
            intro none
            simp [none] at length
          have own := uniform first List.mem_cons_self
          have shared : sharedInputs data execution settings first = sharedOfShape data execution
              shape := sharedInputs_uniform some own fun args member => by
              obtain ⟨setting, listed, built⟩ := fits args member
              have facts := (settingArgs_shape built).2
              rw [uniform setting listed] at facts
              exact facts
          have columns : stackColumns data.length settings = settings.map (·.column) :=
            stackColumns_uniform data.length fun args member other listed => by
              obtain ⟨setting, inside, built⟩ := fits args member
              obtain ⟨another, inside', built'⟩ := fits other listed
              rw [(settingArgs_shape built).1, (settingArgs_shape built').1]
              exact directedColumn_presence
                ((uniform setting inside).trans (uniform another inside').symm) _ _ _
          have seconds : ((first :: rest).zip settings).map Prod.snd = settings :=
            List.map_snd_zip (by omega)
          rw [Option.bind_some, Option.bind_some, callEngine, independent, shared, columns,
            List.mapM_map]
          calc settings.mapM (column (sharedOfShape data execution shape) ∘ (·.column))
              = (((first :: rest).zip settings).map Prod.snd).mapM
                  (column (sharedOfShape data execution shape) ∘ (·.column)) := by rw [seconds]
            _ = _ := List.mapM_map

end Columns

/-! ## Metrics and values of one column -/

section Metrics
variable {F : Type} [ColumnNumber F]

open ColumnNumber

def ownReturns (policy : Option (SessionPolicy F)) (data : List (MarketRow F))
    (column : PortfolioColumn F) : Option (F × F × F) :=
  match policy with
  | none => some (column.totalReturn, column.annualizedReturn, column.sharpeRatio)
  | some policy =>
      (valueChecks data (timesOf data) [column]).toOption.bind fun _ =>
        (completedSessions policy data).toOption.bind fun sessions =>
          ((collect (sessionEquity data sessions.1 column) sessions.2).toOption.map
            policy.statistics).bind fun row => if isFinite row.2.1 then some row else none

theorem sessionCloseMetricsFrame_eq (policy : SessionPolicy F) (data : List (MarketRow F))
    {columns : List (PortfolioColumn F)} (nonempty : columns ≠ []) :
    (sessionCloseMetricsFrame policy data columns).toOption =
      columns.mapM (ownReturns (some policy) data) := by
  obtain ⟨first, member⟩ := List.exists_mem_of_ne_nil columns nonempty
  rw [sessionCloseMetricsFrame, toOption_bind]
  cases checks : valueChecks data (timesOf data) columns with
  | error raised =>
      have failed : ∃ column ∈ columns,
          ¬ ValuesChecked data (timesOf data) [column] := by
        by_contra each
        push Not at each
        have passed := valueChecks_eq_ok.mpr ((valuesChecked_iff_each nonempty).mpr each)
        rw [checks] at passed
        cases passed
      obtain ⟨column, listed, bad⟩ := failed
      have own : ownReturns (some policy) data column = none := by
        cases single : valueChecks data (timesOf data) [column] with
        | error other => simp only [ownReturns, single]; rfl
        | ok _ => exact absurd (valueChecks_eq_ok.mp single) bad
      rw [mapM_none_of_mem listed own]
      rfl
  | ok _ =>
      have each : ∀ column ∈ columns, valueChecks data (timesOf data) [column] = .ok () :=
        fun column listed => valueChecks_eq_ok.mpr
          ((valuesChecked_iff_each nonempty).mp (valueChecks_eq_ok.mp checks) column listed)
      change (completedSessions policy data >>= _).toOption = _
      rw [toOption_bind]
      cases sessions : (completedSessions policy data).toOption with
      | none =>
          have own : ownReturns (some policy) data first = none := by
            simp [ownReturns, sessions]
          rw [mapM_none_of_mem member own]
          rfl
      | some bounds =>
          have own : columns.mapM (ownReturns (some policy) data) = columns.mapM fun column =>
              ((collect (sessionEquity data bounds.1 column) bounds.2).toOption.map
                policy.statistics).bind fun row => if isFinite row.2.1 then some row else none := by
            refine mapM_congr fun column listed => ?_
            have passed : (valueChecks data (timesOf data) [column]).toOption = some () := by
              rw [each column listed]
              rfl
            simp only [ownReturns, passed, sessions, Option.bind_some]
          rw [own, ← mapM_guard, mapM_map_results, Option.bind_some, toOption_bind,
            toOption_collect]
          cases columns.mapM fun column =>
              (collect (sessionEquity data bounds.1 column) bounds.2).toOption with
          | none => rfl
          | some equity =>
              rw [Option.bind_some, Option.map_some, Option.bind_some, toOption_raiseIf_bind]
              cases (equity.map policy.statistics).all fun row => isFinite row.2.1 <;> rfl

theorem sweepReturns_eq (policy : Option (SessionPolicy F)) (data : List (MarketRow F))
    {columns : List (PortfolioColumn F)} (nonempty : columns ≠ []) :
    (sweepReturns policy data columns).toOption = columns.mapM (ownReturns policy data) := by
  cases policy with
  | some policy => exact sessionCloseMetricsFrame_eq policy data nonempty
  | none =>
      change some (columns.map _) = columns.mapM fun column => some _
      exact (List.mapM_pure (m := Option)).symm

def ownMetrics (policy : Option (SessionPolicy F)) (data : List (MarketRow F))
    (column : PortfolioColumn F) : Option (SweepMetrics F) :=
  (ownReturns policy data column).bind fun returns => (settingMetrics column returns).toOption

theorem extractSweepMetrics_eq (policy : Option (SessionPolicy F)) (data : List (MarketRow F))
    {columns : List (PortfolioColumn F)} (nonempty : columns ≠ []) :
    (extractSweepMetrics policy data columns columns.length).toOption =
      columns.mapM (ownMetrics policy data) := by
  unfold extractSweepMetrics
  rw [toOption_raiseIf_bind]
  simp only [ne_eq, not_true_eq_false, decide_false, Bool.false_eq_true, if_false]
  rw [toOption_bind, sweepReturns_eq policy data nonempty]
  have pairs := mapM_pairs (ownReturns policy data)
    (fun pair => (settingMetrics pair.1 pair.2).toOption) columns
  refine Eq.trans ?_ pairs
  cases columns.mapM (ownReturns policy data) with
  | none => rfl
  | some returns => exact toOption_collect

def ownDaily (day : Int → Int) (data : List (MarketRow F)) (column : PortfolioColumn F) :
    DailySeries F :=
  (data.map fun row => day row.time).dedup.map fun wanted =>
    (wanted, dailyLast day data column.value wanted)

theorem dailyLast_isSome (day : Int → Int) {data : List (MarketRow F)}
    {column : PortfolioColumn F} (length : column.value.length = data.length)
    (numbers : ∀ value ∈ column.value, isNull value = false) {wanted : Int}
    (present : wanted ∈ data.map fun row => day row.time) :
    (dailyLast day data column.value wanted).isSome = true := by
  obtain ⟨bar, listed, rfl⟩ := List.mem_map.mp present
  obtain ⟨row, inside, rfl⟩ := List.mem_iff_getElem.mp listed
  have within : row < column.value.length := by omega
  have member : (data[row], column.value[row]) ∈ (data.zip column.value).filter fun entry =>
      decide (day entry.1.time = day data[row].time) && !isNull entry.2 := by
    refine List.mem_filter.mpr ⟨?_, ?_⟩
    · exact List.mem_iff_getElem.mpr ⟨row, by rw [List.length_zip]; omega, by simp⟩
    · simp [numbers _ (List.getElem_mem within)]
  unfold dailyLast
  rw [Option.isSome_map, List.getLast?_isSome]
  exact List.ne_nil_of_mem member

theorem dailyValues_eq (day : Int → Int) {data : List (MarketRow F)}
    {columns : List (PortfolioColumn F)}
    (numbers : ∀ column ∈ columns, column.value.length = data.length ∧
      ∀ value ∈ column.value, isNull value = false) :
    dailyValues day data columns columns.length =
      columns.map fun column => some (ownDaily day data column) := by
  unfold dailyValues
  rw [if_pos rfl]
  refine List.map_congr_left fun column member => ?_
  have all : keptDays day data columns = (data.map fun row => day row.time).dedup := by
    refine List.filter_eq_self.mpr fun wanted present => ?_
    have valued := dailyLast_isSome day (numbers column member).1 (numbers column member).2
      (List.mem_dedup.mp present)
    exact List.any_eq_true.mpr ⟨column, member, valued⟩
  rw [all]
  rfl

omit [ColumnNumber F] in
theorem observedPortfolios_eq (keepPortfolios : Bool) (sweep : List (PortfolioColumn F)) :
    observedPortfolios keepPortfolios sweep sweep.length =
      .ok (if keepPortfolios then sweep else []) := by
  unfold observedPortfolios
  cases keepPortfolios with
  | false => rfl
  | true =>
      simp only [if_true]
      rw [collect_eq_ok, List.forall₂_iff_get]
      refine ⟨List.length_range, ?_⟩
      intro row inside within
      simp [settingPortfolio]

end Metrics

/-! ## One setting by itself -/

section Settings
variable {S K F R : Type} [ColumnNumber F]

def ownPrepared (inputs : SweepInputs S K F R) (setting : S) : Option (Prepared S F R) :=
  (inputs.strategy.generate setting).toOption.bind fun signals =>
    (prepareSetting inputs (setting, signals)).toOption

def SweepInputs.shape (inputs : SweepInputs S K F R) : SignalShape :=
  { inputs.strategy.shape with
    sessionId := inputs.strategy.shape.sessionId.map
      (seriesInWindow inputs.data inputs.evaluationRange) }

omit [ColumnNumber F] in
theorem mapSeries_shape (signals : SignalResult F) (flags : List Bool → List Bool)
    (levels : List F → List F) (durations sessions : List Int → List Int) :
    (signals.mapSeries flags levels durations sessions).shape =
      { signals.shape with sessionId := signals.shape.sessionId.map sessions } := by
  simp [SignalResult.mapSeries, SignalResult.shape]

theorem alignSignalsForExecution_shape (signals : SignalResult F)
    (execution : ExecutionConfig F) :
    (alignSignalsForExecution signals execution).shape = signals.shape := by
  unfold alignSignalsForExecution
  cases execution.mode with
  | sameBarClose => rfl
  | nextBarOpen =>
      dsimp only
      rw [mapSeries_shape, Option.map_id]
      rfl

theorem ownPrepared_some {inputs : SweepInputs S K F R} {setting : S} {prepared : Prepared S F R}
    (own : ownPrepared inputs setting = some prepared) :
    prepared.1 = setting ∧ prepared.2.1.shape = inputs.shape := by
  obtain ⟨signals, generated, rest⟩ := Option.bind_eq_some_iff.mp own
  have shape := inputs.strategy.generate_shape setting signals (toOption_eq_some_iff.mp generated)
  obtain ⟨⟨aligned, results⟩, validated, done⟩ := bind_eq_ok.mp (toOption_eq_some_iff.mp rest)
  cases done
  refine ⟨rfl, ?_⟩
  have same : aligned.shape = inputs.strategy.shape := by
    obtain ⟨_, _, afterMarket⟩ := bind_eq_ok.mp validated
    obtain ⟨_, _, afterSignals⟩ := bind_eq_ok.mp afterMarket
    obtain ⟨_, _, made⟩ := bind_eq_ok.mp afterSignals
    cases made
    rw [alignSignalsForExecution_shape, shape]
  simp only [signalsInWindow, mapSeries_shape, same]
  rfl

variable [DecidableEq K]

theorem prepareChunk_eq (cachePolicy : CachePolicy K (SignalResult F))
    (inputs : SweepInputs S K F R) {held : Option (List (K × SignalResult F))}
    (sound : CacheSound inputs.strategy.toSignalStrategy (held.getD [])) (chunk : List S) :
    (prepareChunk cachePolicy inputs held chunk).toOption.map Prod.snd =
        chunk.mapM (ownPrepared inputs) ∧
      ∀ after prepared, prepareChunk cachePolicy inputs held chunk = .ok (after, prepared) →
        CacheSound inputs.strategy.toSignalStrategy (after.getD []) := by
  obtain ⟨same, kept⟩ := generateSignalsOnce_eq cachePolicy sound chunk
  have pairs := mapM_pairs (fun setting => (inputs.strategy.generate setting).toOption)
    (fun pair => (prepareSetting inputs pair).toOption) chunk
  unfold prepareChunk
  constructor
  · refine Eq.trans ?_ pairs
    unfold generateDirectly at same
    rw [← same]
    cases generateSignalsOnce (.other "KeyError") cachePolicy inputs.strategy.toSignalStrategy
        held chunk with
    | error raised => rfl
    | ok generated =>
        rw [bind_ok]
        change Option.map Prod.snd (collect (prepareSetting inputs) (chunk.zip generated.2) >>=
          fun settings => Except.ok (generated.1, settings)).toOption =
            (chunk.zip generated.2).mapM fun pair => (prepareSetting inputs pair).toOption
        rw [← toOption_collect]
        cases collect (prepareSetting inputs) (chunk.zip generated.2) <;> rfl
  · intro after prepared returned
    obtain ⟨⟨entries, signals⟩, generated, rest⟩ := bind_eq_ok.mp returned
    obtain ⟨settings, -, done⟩ := bind_eq_ok.mp rest
    cases done
    exact kept _ _ generated

/-! ## The sweep -/

section Sweep
variable (engine : Engine F) (policy : Option (SessionPolicy F)) (day : Int → Int)
variable (keepPortfolios : Bool) (cachePolicy : CachePolicy K (SignalResult F))
variable (inputs : SweepInputs S K F R)
variable (column : SharedInputs F → ColumnInputs F → Option (PortfolioColumn F))

/-- What the sweep keeps of prepared settings with their columns and metrics. -/
def gatherLists (prepared : List (Prepared S F R)) (columns : List (PortfolioColumn F))
    (metrics : List (SweepMetrics F)) : SweepLists S F R where
  metrics := metrics
  values := columns.map fun column => some (ownDaily day inputs.window column)
  observed := if keepPortfolios then columns else []
  extras := prepared.map fun setting => (setting.1, setting.2.2)

def ownSimulation (prepared : Prepared S F R) :
    Option (PortfolioColumn F × SweepMetrics F) :=
  (ownColumn column inputs.window inputs.execution inputs.shape prepared.2.1).bind fun own =>
    (ownMetrics policy inputs.window own).map fun metrics => (own, metrics)

def ownResult (setting : S) :
    Option (Prepared S F R × PortfolioColumn F × SweepMetrics F) :=
  (ownPrepared inputs setting).bind fun prepared =>
    (ownSimulation policy inputs column prepared).map fun simulated => (prepared, simulated)

def gatherResults (results : List (Prepared S F R × PortfolioColumn F × SweepMetrics F)) :
    SweepLists S F R :=
  gatherLists day keepPortfolios inputs (results.map Prod.fst)
    ((results.map Prod.snd).map Prod.fst) ((results.map Prod.snd).map Prod.snd)

omit [DecidableEq K] in
theorem gatherResults_append
    (first second : List (Prepared S F R × PortfolioColumn F × SweepMetrics F)) :
    gatherResults day keepPortfolios inputs (first ++ second) =
      (gatherResults day keepPortfolios inputs first).add
        (gatherResults day keepPortfolios inputs second) := by
  cases keepPortfolios <;> simp [gatherResults, gatherLists, SweepLists.add]

omit [DecidableEq K] in
theorem stages_eq (chunk : List S) :
    ((chunk.mapM (ownPrepared inputs)).bind fun prepared =>
      (prepared.mapM fun setting => ownColumn column inputs.window inputs.execution inputs.shape
        setting.2.1).bind fun columns =>
          (columns.mapM (ownMetrics policy inputs.window)).map fun metrics =>
            gatherLists day keepPortfolios inputs prepared columns metrics) =
      (chunk.mapM (ownResult policy inputs column)).map
        (gatherResults day keepPortfolios inputs) := by
  have outer := mapM_results (ownPrepared inputs) (ownSimulation policy inputs column) chunk
  have gathered := congrArg (Option.map fun pair : List (Prepared S F R) × _ =>
    gatherLists day keepPortfolios inputs pair.1 (pair.2.map Prod.fst) (pair.2.map Prod.snd)) outer
  rw [Option.map_map] at gathered
  refine Eq.trans ?_ gathered
  cases chunk.mapM (ownPrepared inputs) with
  | none => rfl
  | some prepared =>
      have inner := mapM_results (fun setting : Prepared S F R => ownColumn column inputs.window
        inputs.execution inputs.shape setting.2.1) (ownMetrics policy inputs.window) prepared
      rw [Option.bind_some, Option.bind_some]
      have own := congrArg (Option.map fun pair : List (PortfolioColumn F) × _ =>
        gatherLists day keepPortfolios inputs prepared pair.1 pair.2) inner
      rw [Option.map_map] at own
      rw [Option.map_map]
      refine Eq.trans ?_ own
      cases prepared.mapM fun setting => ownColumn column inputs.window inputs.execution
          inputs.shape setting.2.1 with
      | none => rfl
      | some columns =>
          rw [Option.bind_some, Option.bind_some, Option.map_map]
          rfl

omit [DecidableEq K] in
theorem constructPortfolio_numbers {engine : Engine F} (numbers : ValuesAreNumbers engine)
    {data : List (MarketRow F)} {execution : ExecutionConfig F}
    {aligned : List (SignalResult F)} {columns : List (PortfolioColumn F)}
    (built : constructPortfolio engine data aligned execution = .ok columns) :
    ∀ column ∈ columns, column.value.length = data.length ∧
      ∀ value ∈ column.value, ColumnNumber.isNull value = false := by
  obtain ⟨settings, -, called⟩ := bind_eq_ok.mp built
  cases aligned with
  | nil => cases called
  | cons first rest =>
      intro column member
      obtain ⟨length, all⟩ := numbers _ columns called column member
      refine ⟨?_, all⟩
      rw [length]
      simp [sharedInputs, scaled]

theorem sweepChunk_eq (numbers : ValuesAreNumbers engine)
    (independent : ∀ call, (engine call).toOption = call.columns.mapM (column call.shared))
    {held : Option (List (K × SignalResult F))}
    (sound : CacheSound inputs.strategy.toSignalStrategy (held.getD [])) {chunk : List S} (nonempty : chunk ≠ []) :
    (sweepChunk engine policy day keepPortfolios cachePolicy inputs held chunk).toOption.map
        Prod.snd =
      (chunk.mapM (ownResult policy inputs column)).map
        (gatherResults day keepPortfolios inputs) := by
  rw [← stages_eq]
  obtain ⟨same, -⟩ := prepareChunk_eq cachePolicy inputs sound chunk
  unfold sweepChunk
  rw [← same]
  cases whole : prepareChunk cachePolicy inputs held chunk with
  | error raised => rfl
  | ok result =>
      obtain ⟨after, prepared⟩ := result
      rw [whole] at same
      have all : chunk.mapM (ownPrepared inputs) = some prepared := same.symm
      have some : prepared ≠ [] := by
        intro none
        have length := length_of_mapM all
        rw [none] at length
        exact nonempty (List.eq_nil_of_length_eq_zero length.symm)
      have shapes : ∀ setting ∈ prepared.map fun setting => setting.2.1,
          setting.shape = inputs.shape := by
        intro signals member
        obtain ⟨setting, listed, rfl⟩ := List.mem_map.mp member
        obtain ⟨item, -, own⟩ := exists_of_mem_mapM all listed
        exact (ownPrepared_some own).2
      have each : (constructPortfolio engine inputs.window
          (prepared.map fun setting => setting.2.1) inputs.execution).toOption =
          prepared.mapM fun setting => ownColumn column inputs.window inputs.execution
            inputs.shape setting.2.1 := by
        rw [constructPortfolio_eq independent (by simpa using some) shapes, List.mapM_map]
        rfl
      rw [bind_ok]
      change Option.map Prod.snd (constructPortfolio engine inputs.window
        (prepared.map fun setting => setting.2.1) inputs.execution >>= _).toOption =
          Option.bind (Option.some prepared) _
      rw [Option.bind_some, ← each]
      cases built : constructPortfolio engine inputs.window
          (prepared.map fun setting => setting.2.1) inputs.execution with
      | error raised => rfl
      | ok sweep =>
          rw [built] at each
          have length : sweep.length = (prepared.map fun setting => setting.2.1).length := by
            rw [length_of_mapM each.symm, List.length_map]
          have numbers := constructPortfolio_numbers numbers built
          have columns : sweep ≠ [] := by
            intro none
            rw [none, List.length_map] at length
            exact some (List.eq_nil_of_length_eq_zero length.symm)
          have metrics := extractSweepMetrics_eq policy inputs.window columns
          rw [bind_ok]
          dsimp only
          rw [← length, dailyValues_eq day numbers, observedPortfolios_eq]
          change Option.map Prod.snd (extractSweepMetrics policy inputs.window sweep sweep.length
            >>= _).toOption = Option.map _ (sweep.mapM (ownMetrics policy inputs.window))
          rw [← metrics]
          cases extractSweepMetrics policy inputs.window sweep sweep.length <;> rfl

theorem sweepChunk_keeps {held after : Option (List (K × SignalResult F))} {chunk : List S}
    {lists : SweepLists S F R} (sound : CacheSound inputs.strategy.toSignalStrategy (held.getD []))
    (returned : sweepChunk engine policy day keepPortfolios cachePolicy inputs held chunk =
      .ok (after, lists)) : CacheSound inputs.strategy.toSignalStrategy (after.getD []) := by
  obtain ⟨-, kept⟩ := prepareChunk_eq cachePolicy inputs sound chunk
  obtain ⟨⟨entries, prepared⟩, whole, rest⟩ := bind_eq_ok.mp returned
  obtain ⟨_, _, afterColumns⟩ := bind_eq_ok.mp rest
  obtain ⟨_, _, afterMetrics⟩ := bind_eq_ok.mp afterColumns
  obtain ⟨_, _, done⟩ := bind_eq_ok.mp afterMetrics
  cases done
  exact kept _ _ whole

theorem simulateInChunks_eq (numbers : ValuesAreNumbers engine)
    (independent : ∀ call, (engine call).toOption = call.columns.mapM (column call.shared))
    {held : Option (List (K × SignalResult F))}
    (sound : CacheSound inputs.strategy.toSignalStrategy (held.getD [])) (chunkSettings : Option Nat)
    (settings : List S) :
    (simulateInChunks engine policy day keepPortfolios cachePolicy inputs chunkSettings settings
        held).toOption.map Prod.snd =
      (settings.mapM (ownResult policy inputs column)).map
        (gatherResults day keepPortfolios inputs) := by
  have itemwise : ItemByItem (sweepChunk engine policy day keepPortfolios cachePolicy inputs)
      SweepLists.add (fun held => CacheSound inputs.strategy.toSignalStrategy (held.getD []))
      (ownResult policy inputs column) (gatherResults day keepPortfolios inputs) := by
    refine ⟨gatherResults_append day keepPortfolios inputs, ?_, ?_⟩
    · intro held chunk sound nonempty
      exact sweepChunk_eq engine policy day keepPortfolios cachePolicy inputs column numbers
        independent sound nonempty
    · intro held chunk after lists sound returned
      exact sweepChunk_keeps engine policy day keepPortfolios cachePolicy inputs sound returned
  have empty : (⟨[], [], [], []⟩ : SweepLists S F R) =
      gatherResults day keepPortfolios inputs [] := by
    cases keepPortfolios <;> rfl
  unfold simulateInChunks
  rw [empty]
  exact chunkLoop_slices _ _ itemwise (chunkSize_pos _ _ _) settings sound

def aloneLists (setting : S) : Option (SweepLists S F R) :=
  (simulateInChunks engine policy day keepPortfolios cachePolicy inputs none [setting]
    none).toOption.map Prod.snd

def joinLists (lists : List (SweepLists S F R)) : SweepLists S F R :=
  lists.foldr SweepLists.add ⟨[], [], [], []⟩

omit [DecidableEq K] in
theorem gatherResults_join (results : List (Prepared S F R × PortfolioColumn F × SweepMetrics F)) :
    joinLists (results.map fun result => gatherResults day keepPortfolios inputs [result]) =
      gatherResults day keepPortfolios inputs results := by
  induction results with
  | nil => cases keepPortfolios <;> rfl
  | cons result rest ih =>
      have first := gatherResults_append day keepPortfolios inputs [result] rest
      rw [List.singleton_append] at first
      rw [first, ← ih]
      rfl

omit [DecidableEq K] in
theorem ownResult_setting {setting : S}
    {result : Prepared S F R × PortfolioColumn F × SweepMetrics F}
    (own : ownResult policy inputs column setting = some result) : result.1.1 = setting := by
  obtain ⟨prepared, made, rest⟩ := Option.bind_eq_some_iff.mp own
  obtain ⟨simulated, -, rfl⟩ := Option.map_eq_some_iff.mp rest
  exact (ownPrepared_some made).1

omit [DecidableEq K] in
theorem ownResults_settings {settings : List S}
    {results : List (Prepared S F R × PortfolioColumn F × SweepMetrics F)}
    (all : settings.mapM (ownResult policy inputs column) = some results) :
    results.map (fun result => result.1.1) = settings := by
  induction settings generalizing results with
  | nil =>
      cases all
      rfl
  | cons setting rest ih =>
      rw [List.mapM_cons] at all
      cases head : ownResult policy inputs column setting with
      | none => simp [head] at all
      | some result =>
          cases tail : rest.mapM (ownResult policy inputs column) with
          | none => simp [head, tail] at all
          | some others =>
              have same : results = result :: others := by
                simpa [head, tail, eq_comm] using all
              rw [same, List.map_cons, ownResult_setting policy inputs column head, ih tail]

/-- The lists have one entry for each setting, in the order of the settings. -/
structure InOrder (settings : List S) (lists : SweepLists S F R) : Prop where
  extras : lists.extras.map Prod.fst = settings
  metrics : lists.metrics.length = settings.length
  values : lists.values.length = settings.length
  observed : lists.observed.length = if keepPortfolios then settings.length else 0

/-- A sweep gives the same lists whatever the size of its chunks: those of its settings run one by
one, in order. -/
theorem sweep_ignores_chunk_size (independent : ColumnsIndependent engine)
    (numbers : ValuesAreNumbers engine) {held : Option (List (K × SignalResult F))}
    (sound : CacheSound inputs.strategy.toSignalStrategy (held.getD [])) (settings : List S)
    (first second : Option Nat) :
    let lists (chunkSettings : Option Nat) := (simulateInChunks engine policy day keepPortfolios
      cachePolicy inputs chunkSettings settings held).toOption.map Prod.snd
    lists first = lists second ∧
      lists first = (settings.mapM (aloneLists engine policy day keepPortfolios cachePolicy
        inputs)).map joinLists ∧
      ∀ result ∈ lists first, InOrder keepPortfolios settings result := by
  obtain ⟨column, independent⟩ := independent
  have whole := simulateInChunks_eq engine policy day keepPortfolios cachePolicy inputs column
    numbers independent sound
  have alone : aloneLists engine policy day keepPortfolios cachePolicy inputs = fun setting =>
      (ownResult policy inputs column setting).map fun result =>
        gatherResults day keepPortfolios inputs [result] := by
    funext setting
    have fresh : CacheSound inputs.strategy.toSignalStrategy
        ((none : Option (List (K × SignalResult F))).getD []) := by
      intro entry member
      cases member
    unfold aloneLists
    rw [simulateInChunks_eq engine policy day keepPortfolios cachePolicy inputs column numbers
      independent fresh]
    cases own : ownResult policy inputs column setting <;> simp [own]
  intro lists
  refine ⟨(whole first settings).trans (whole second settings).symm, ?_, ?_⟩
  · rw [alone, mapM_map_results, Option.map_map]
    refine (whole first settings).trans ?_
    congr 1
    funext results
    exact (gatherResults_join day keepPortfolios inputs results).symm
  · intro result member
    have found : (settings.mapM (ownResult policy inputs column)).map
        (gatherResults day keepPortfolios inputs) = some result :=
      (whole first settings).symm.trans member
    obtain ⟨results, all, rfl⟩ := Option.map_eq_some_iff.mp found
    have length := length_of_mapM all
    have order := ownResults_settings policy inputs column all
    refine ⟨?_, ?_, ?_, ?_⟩
    · simpa [gatherResults, gatherLists, Function.comp_def] using order
    · simpa [gatherResults, gatherLists] using length
    · simpa [gatherResults, gatherLists] using length
    · cases keepPortfolios with
      | false => simp [gatherResults, gatherLists]
      | true => simpa [gatherResults, gatherLists] using length

end Sweep

end Settings

/-! ## A sample -/

instance wholeNumber : ColumnNumber Int where
  zero := 0
  nan := 0
  infinite := 0
  isNull _ := false
  isFinite _ := true
  isPositive value := decide (0 < value)
  isZero value := decide (value = 0)
  truncated value := some value
  plus a b := a + b
  times a b := a * b
  divided a b := a / b

def sampleColumn (shared : SharedInputs Int) (column : ColumnInputs Int) : PortfolioColumn Int :=
  let trades := ((column.entries.getD []).count true : Int)
  ⟨trades, trades, trades, 0, trades, 0, shared.close, shared.close.map fun _ => 0⟩

def sampleEngine : Engine Int := fun call =>
  .ok (call.columns.map (sampleColumn call.shared))

theorem sampleEngine_independent : ColumnsIndependent sampleEngine :=
  ⟨fun shared column => some (sampleColumn shared column),
    fun _ => (List.mapM_pure (m := Option)).symm⟩

theorem sampleEngine_numbers : ValuesAreNumbers sampleEngine := by
  intro call columns called column member
  cases called
  obtain ⟨inputs, -, rfl⟩ := List.mem_map.mp member
  exact ⟨rfl, fun _ _ => rfl⟩

def sampleStrategy : SweepStrategy Nat Nat Int where
  signalKey := id
  generate setting := .ok ⟨(List.range 4).map fun bar => decide (bar = setting),
    List.replicate 4 false, none, none, none, none, none, none, none, none, none, none⟩
  key_faithful first second same := by rw [show first = second from same]
  batch := none
  batch_each run held := by cases held
  shape := ⟨false, false, false, false, false, false, false, none, none, none⟩
  generate_shape setting signals generated := by
    cases generated
    rfl

def sampleGates : Gates Int Nat := ⟨.ok 1, fun _ => .ok 2, fun _ _ => .ok 3⟩

def sampleInputs : SweepInputs Nat Nat Int Nat where
  data := (List.range 4).map fun bar => ⟨bar, 10, 12, 9, 11⟩
  strategy := sampleStrategy
  gates := sampleGates
  execution := ⟨.nextBarOpen, .longonly, .allAvailableCash, 100, 0, 0, none, 1, false, 1, 1, 0⟩
  evaluationRange := none

def forgetful : CachePolicy Nat (SignalResult Int) where
  touch cache _ := cache
  store cache _ _ := cache
  touch_subset _ _ := List.Subset.refl _
  store_subset _ _ _ := List.subset_cons_self _ _

theorem threeSettings_ignore_chunk_size :
    (simulateInChunks sampleEngine none id true forgetful sampleInputs (some 1) [0, 1, 2]
        none).toOption.map Prod.snd =
      (simulateInChunks sampleEngine none id true forgetful sampleInputs (some 2) [0, 1, 2]
        none).toOption.map Prod.snd := by
  refine (sweep_ignores_chunk_size sampleEngine none id true forgetful sampleInputs
    sampleEngine_independent sampleEngine_numbers ?_ [0, 1, 2] (some 1) (some 2)).1
  intro entry member
  cases member

end QuantFactory.Experiments
