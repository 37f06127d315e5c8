import QuantFactory.RuleStrategy.Batch

/-!
# Runs of the array functions

Every function of `Indicators` computes by reference what it computes by contents,
and changes no array that was there before.
-/

set_option autoImplicit false

namespace QuantFactory.RuleStrategy

open QuantFactory.Library QuantFactory.Library.MemoStore QuantFactory.Python
  QuantFactory.RuleLanguage

variable {F A : Type} {context : List (Nat × A)} {library : ArrayLibrary F A}
  {bound : MemoStore.Bound A} {pinned : Nat} {meaning : String → A → Prop} {start store : MemoStore String A}

/-! ## Steps -/

section Steps
variable {α γ δ : Type} {next : MemoStore String A → γ → δ → Prop} {context : List (Nat × A)}

theorem call_computes (function : ArrayCall F) {args : List (Nat × A)}
    (sound : Sound pinned meaning store) (held : store.HoldsAll args) :
    Computes pinned meaning store (Fresh pinned store)
      ((heapMachine library bound).call function (args.map Prod.fst) store)
      ((valueMachine library).call function (args.map Prod.snd)) :=
  allocate_computes sound held

theorem call_then {function : ArrayCall F} {f : Nat → ArrayRun A γ}
    {g : A → Except EvaluationError δ} (args : List (Nat × A)) (total : Grown pinned start store)
    (sound : Sound pinned meaning store) (held : store.HoldsAll context)
    (known : ∀ arg ∈ args, arg ∈ context)
    (rest : ∀ result after value, Grown pinned start after → Sound pinned meaning after →
      Grown pinned store after → store.cells.length ≤ result →
      Fresh pinned start after result value → after.HoldsAll ((result, value) :: context) →
        Computes pinned meaning start next (f result after) (g value)) :
    Computes pinned meaning start next
      (((heapMachine library bound).call function (args.map Prod.fst) >>= f) store)
      ((valueMachine library).call function (args.map Prod.snd) >>= g) := by
  refine Computes.andThen total (call_computes function sound (held.subset known))
    fun result after value later step sound fresh => ?_
  exact rest result after value later sound step fresh.recent (fresh.widen total)
    ⟨fresh.holds, step.holdsAll held⟩

theorem run_then {m : ArrayRun A Nat} {x : Except EvaluationError A} {f : Nat → ArrayRun A γ}
    {g : A → Except EvaluationError δ} (total : Grown pinned start store)
    (held : store.HoldsAll context)
    (run : Computes pinned meaning store (Returned pinned store) (m store) x)
    (rest : ∀ result after value, Grown pinned start after → Sound pinned meaning after →
      Grown pinned store after → Returned pinned store after result value →
      after.HoldsAll ((result, value) :: context) →
        Computes pinned meaning start next (f result after) (g value)) :
    Computes pinned meaning start next ((m >>= f) store) (x >>= g) := by
  refine Computes.andThen total run fun result after value total step sound returned => ?_
  exact rest result after value total sound step returned ⟨returned.holds, step.holdsAll held⟩

theorem raised_then {outcome : Except EvaluationError α} {f : α → ArrayRun A γ}
    {g : α → Except EvaluationError δ}
    (rest : ∀ value, outcome = .ok value →
      Computes pinned meaning start next (f value store) (g value)) :
    Computes pinned meaning start next
      (((heapMachine library bound).raised α outcome >>= f) store)
      ((valueMachine library).raised α outcome >>= g) := by
  cases outcome with
  | error raised => exact rfl
  | ok value => exact rest value rfl

/-- A write into an array made since some store; what was held there is held on. -/
theorem write_then {function : ArrayCall F} {f : Nat → ArrayRun A γ}
    {g : A → Except EvaluationError δ} {before : MemoStore String A} {known : List (Nat × A)}
    (args : List (Nat × A)) {target : Nat} {contents : A} (total : Grown pinned start store)
    (sound : Sound pinned meaning store) (own : Fresh pinned start store target contents)
    (held : store.HoldsAll context) (isKnown : ∀ arg ∈ args, arg ∈ context)
    (recent : before.cells.length ≤ target) (step : Grown pinned before store)
    (heldBefore : before.HoldsAll known)
    (rest : ∀ after value, Grown pinned start after → Sound pinned meaning after →
      Fresh pinned start after target value → after.HoldsAll ((target, value) :: known) →
        Computes pinned meaning start next (f target after) (g value)) :
    Computes pinned meaning start next
      (((heapMachine library bound).write target function (args.map Prod.fst) >>= f) store)
      ((valueMachine library).write contents function (args.map Prod.snd) >>= g) := by
  refine Computes.bind (overwrite_computes total sound own (held.subset isKnown)) ?_
  rintro ref after value later sound ⟨rfl, fresh, others, _⟩
  have kept : after.HoldsAll known := by
    clear held isKnown rest
    induction known with
    | nil => trivial
    | cons first more ih =>
        have differs : first.1 ≠ ref := by
          have old := heldBefore.1.lt
          omega
        exact ⟨others _ _ differs (step.holds heldBefore.1), ih heldBefore.2⟩
  exact rest after value later sound fresh ⟨fresh.holds, kept⟩

theorem call_last {function : ArrayCall F} (args : List (Nat × A))
    (total : Grown pinned start store) (sound : Sound pinned meaning store)
    (held : store.HoldsAll context) (known : ∀ arg ∈ args, arg ∈ context) :
    Computes pinned meaning start (Returned pinned start)
      ((heapMachine library bound).call function (args.map Prod.fst) store)
      ((valueMachine library).call function (args.map Prod.snd)) :=
  (call_computes function sound (held.subset known)).widen total fun _ _ _ _ fresh =>
    fresh.returned.widen total

theorem run_last {run : Except EvaluationError (Nat × MemoStore String A)}
    {x : Except EvaluationError A} (total : Grown pinned start store)
    (computes : Computes pinned meaning store (Returned pinned store) run x) :
    Computes pinned meaning start (Returned pinned start) run x :=
  computes.widen total fun _ _ _ _ returned => returned.widen total

theorem write_last {function : ArrayCall F} (args : List (Nat × A)) {target : Nat} {contents : A}
    (total : Grown pinned start store) (sound : Sound pinned meaning store)
    (own : Fresh pinned start store target contents) (held : store.HoldsAll context)
    (known : ∀ arg ∈ args, arg ∈ context) :
    Computes pinned meaning start (Returned pinned start)
      ((heapMachine library bound).write target function (args.map Prod.fst) store)
      ((valueMachine library).write contents function (args.map Prod.snd)) := by
  refine (overwrite_computes total sound own (held.subset known)).widen (.refl start) ?_
  rintro after ref value _ ⟨rfl, fresh, _⟩
  exact fresh.returned

def ListHeld (store : MemoStore String A) (refs : List Nat) (values : List A) : Prop :=
  List.Forall₂ store.Holds refs values

def NamedHeld (store : MemoStore String A) (refs : List (String × Nat))
    (values : List (String × A)) : Prop :=
  List.Forall₂ (fun ref value => ref.1 = value.1 ∧ store.Holds ref.2 value.2) refs values

theorem NamedHeld.later {before after : MemoStore String A} (step : Grown pinned before after)
    {refs : List (String × Nat)} {values : List (String × A)}
    (held : NamedHeld before refs values) : NamedHeld after refs values :=
  List.Forall₂.imp (fun _ _ related => ⟨related.1, step.holds related.2⟩) held

theorem each_computes {ι κ β : Type} {f : ι → ArrayRun A α} {g : κ → Except EvaluationError β}
    {related : MemoStore String A → α → β → Prop}
    (kept : ∀ {before after}, Grown pinned before after → ∀ result value,
      related before result value → related after result value)
    {items : List ι} {others : List κ} (total : Grown pinned start store)
    (sound : Sound pinned meaning store)
    (runs : List.Forall₂ (fun item other => ∀ before, Grown pinned start before →
      Sound pinned meaning before →
        Computes pinned meaning before related (f item before) (g other)) items others) :
    Computes pinned meaning store (fun after => List.Forall₂ (related after))
      (each f items store) (each g others) := by
  induction runs generalizing store with
  | nil => exact ⟨.refl store, sound, .nil⟩
  | @cons item other items others first rest ih =>
      unfold each
      refine Computes.andThen (.refl store) (first store total sound)
        fun result after value later step sound firstRelated => ?_
      refine Computes.andThen later (ih (total.trans step) sound)
        fun results final values later step sound restRelated => ?_
      exact ⟨later, sound, .cons (kept step result value firstRelated) restRelated⟩

theorem callList_last {function : ArrayCall F} {refs : List Nat} {values : List A}
    (total : Grown pinned start store) (sound : Sound pinned meaning store)
    (held : ListHeld store refs values) :
    Computes pinned meaning start (Returned pinned start)
      ((heapMachine library bound).call function refs store)
      ((valueMachine library).call function values) := by
  have all : store.HoldsAll (refs.zip values) := by
    induction held with
    | nil => trivial
    | cons first _ ih => exact ⟨first, ih⟩
  have run : Computes pinned meaning start (Returned pinned start)
      ((heapMachine library bound).call function ((refs.zip values).map Prod.fst) store)
      ((valueMachine library).call function ((refs.zip values).map Prod.snd)) :=
    call_last (refs.zip values) total sound all fun _ member => member
  have same := held.length_eq
  rwa [List.map_fst_zip same.le, List.map_snd_zip same.ge] at run

theorem named_lookup {related : Nat → A → Prop} {refs : List (String × Nat)}
    {values : List (String × A)}
    (held : List.Forall₂ (fun ref value => ref.1 = value.1 ∧ related ref.2 value.2) refs values)
    (name : String) :
    (refs.lookup name = none ∧ values.lookup name = none) ∨ ∃ ref value,
      refs.lookup name = some ref ∧ values.lookup name = some value ∧ related ref value := by
  induction held with
  | nil => exact .inl ⟨rfl, rfl⟩
  | @cons ref value refs values first _ ih =>
      obtain ⟨refName, ref⟩ := ref
      obtain ⟨valueName, value⟩ := value
      obtain ⟨rfl, holds⟩ := first
      by_cases same : name = refName
      · subst same
        exact .inr ⟨ref, value, by simp, by simp, holds⟩
      · have other : (name == refName) = false := by simpa using same
        simpa only [List.lookup_cons, other] using ih

theorem frameOf_then {refs : List (String × Nat)} {values : List (String × A)} {name : String}
    {f : Nat → ArrayRun A γ} {g : A → Except EvaluationError δ}
    (held : NamedHeld store refs values)
    (rest : ∀ ref value, store.Holds ref value →
      Computes pinned meaning start next (f ref store) (g value)) :
    Computes pinned meaning start next
      (((heapMachine (F := F) library bound).raised Nat (frameOf refs name) >>= f) store)
      ((valueMachine library).raised A (frameOf values name) >>= g) := by
  unfold frameOf
  rcases named_lookup held name with ⟨noRef, noValue⟩ | ⟨ref, value, isRef, isValue, holds⟩
  · rw [noRef, noValue]
    exact rfl
  · rw [isRef, isValue]
    exact rest ref value holds

theorem frameOf_last {refs : List (String × Nat)} {values : List (String × A)} {name : String}
    (total : Grown pinned start store) (sound : Sound pinned meaning store)
    (held : List.Forall₂ (fun ref value => ref.1 = value.1 ∧
      Returned pinned start store ref.2 value.2) refs values) :
    Computes pinned meaning start (Returned pinned start)
      ((heapMachine (F := F) library bound).raised Nat (frameOf refs name) store)
      ((valueMachine library).raised A (frameOf values name)) := by
  unfold frameOf
  rcases named_lookup held name with ⟨noRef, noValue⟩ | ⟨ref, value, isRef, isValue, returned⟩
  · rw [noRef, noValue]
    exact rfl
  · rw [isRef, isValue]
    exact ⟨total, sound, returned⟩

theorem framesOf_then {refs : List (String × Nat)} {values : List (String × A)}
    {names : List String} {f : List Nat → ArrayRun A γ} {g : List A → Except EvaluationError δ}
    (held : NamedHeld store refs values)
    (rest : ∀ args contents, ListHeld store args contents →
      Computes pinned meaning start next (f args store) (g contents)) :
    Computes pinned meaning start next
      (((heapMachine (F := F) library bound).raised _ (collect (frameOf refs) names) >>= f) store)
      ((valueMachine library).raised _ (collect (frameOf values) names) >>= g) := by
  have read : (∃ error, collect (frameOf refs) names = .error error ∧
      collect (frameOf values) names = .error error) ∨ ∃ args contents,
        collect (frameOf refs) names = .ok args ∧ collect (frameOf values) names = .ok contents ∧
          ListHeld store args contents := by
    clear rest
    induction names with
    | nil => exact .inr ⟨[], [], rfl, rfl, .nil⟩
    | cons name others ih =>
        unfold collect
        rcases named_lookup held name with ⟨noRef, noValue⟩ | ⟨ref, value, isRef, isValue, holds⟩
        · exact .inl ⟨.keyError name, by simp [frameOf, noRef, orRaise, bind, Except.bind],
            by simp [frameOf, noValue, orRaise, bind, Except.bind]⟩
        · have first : frameOf refs name = .ok ref := by simp [frameOf, isRef]
          have second : frameOf values name = .ok value := by simp [frameOf, isValue]
          rw [first, second, bind_ok, bind_ok]
          rcases ih with ⟨error, left, right⟩ | ⟨args, contents, left, right, listHeld⟩
          · exact .inl ⟨error, by rw [left]; rfl, by rw [right]; rfl⟩
          · exact .inr ⟨ref :: args, value :: contents, by rw [left]; rfl, by rw [right]; rfl,
              .cons holds listHeld⟩
  rcases read with ⟨error, left, right⟩ | ⟨args, contents, left, right, listHeld⟩
  · rw [left, right]
    exact rfl
  · rw [left, right]
    exact rest args contents listHeld

end Steps

variable [PyFloat F]

/-! ## Array functions -/

theorem divide_computes (sound : Sound pinned meaning store) (held : store.HoldsAll context)
    {left right : Nat} {leftValue rightValue : A}
    (known : ∀ arg ∈ [(left, leftValue), (right, rightValue)], arg ∈ context) :
    Computes pinned meaning store (Returned pinned store)
      (divide (heapMachine library bound) left right store)
      (divide (valueMachine library) leftValue rightValue) := by
  have held := held.subset known
  refine call_then [(left, leftValue), (right, rightValue)] (.refl store) sound held (by simp)
    fun result s1 quotient total sound _ _ own held => ?_
  refine call_then [(right, rightValue)] total sound held (by simp)
    fun isZero s2 zeros total sound step _ _ held => ?_
  have own := own.later step
  refine call_then [(result, quotient)] total sound held (by simp)
    fun isFinite s3 finite total sound step _ _ held => ?_
  have own := own.later step
  refine call_then [(isFinite, finite)] total sound held (by simp)
    fun isInfinite s4 infinite total sound step _ _ held => ?_
  have own := own.later step
  refine call_then [(isZero, zeros), (isInfinite, infinite)] total sound held (by simp)
    fun undefined s5 unknown total sound step _ _ held => ?_
  exact write_last [(undefined, unknown)] total sound (own.later step) held (by simp)

theorem signsOf_computes (sound : Sound pinned meaning store) {ref : Nat} {value : A}
    (holds : store.Holds ref value) :
    Computes pinned meaning store (Returned pinned store)
      (signsOf (heapMachine library bound) ref store) (signsOf (valueMachine library) value) := by
  have held : store.HoldsAll [(ref, value)] := ⟨holds, trivial⟩
  refine call_then [(ref, value)] (.refl store) sound held (by simp)
    fun signs s1 signed total sound _ _ own held => ?_
  refine call_then [(signs, signed)] total sound held (by simp)
    fun isFinite s2 finite total sound step _ _ held => ?_
  have own := own.later step
  refine call_then [(isFinite, finite)] total sound held (by simp)
    fun isInfinite s3 infinite total sound step _ _ held => ?_
  exact write_last [(isInfinite, infinite)] total sound (own.later step) held (by simp)

omit [PyFloat F] in
theorem fromRow_computes (shape : Shape) (row : Int) (sound : Sound pinned meaning store)
    {ref : Nat} {value : A} (holds : store.Holds ref value) :
    Computes pinned meaning store (Returned pinned store)
      (fromRow (heapMachine library bound) shape ref row store)
      (fromRow (valueMachine library) shape value row) := by
  have held : store.HoldsAll [(ref, value)] := ⟨holds, trivial⟩
  refine call_then [] (.refl store) sound held (by simp)
    fun result s1 empty total sound _ _ own held => ?_
  exact write_last [(ref, value)] total sound own held (by simp)

theorem sameSignRun_computes (shape : Shape) (sound : Sound pinned meaning store) {ref : Nat}
    {value : A} (holds : store.Holds ref value) :
    Computes pinned meaning store (Returned pinned store)
      (sameSignRun (heapMachine library bound) shape ref store)
      (sameSignRun (valueMachine library) shape value) := by
  have held : store.HoldsAll [(ref, value)] := ⟨holds, trivial⟩
  refine run_then (.refl store) held (signsOf_computes sound holds)
    fun signs s1 signed total sound _ _ held => ?_
  refine call_then [(signs, signed)] total sound held (by simp)
    fun flat s2 flattened total sound _ _ _ before => ?_
  refine call_then [] total sound before (by simp)
    fun starts s3 unset total sound step recent own held => ?_
  refine write_then [] total sound own held (by simp) recent step before
    fun s4 marked total sound own held => ?_
  refine call_then [(flat, flattened), (starts, marked)] total sound held (by simp)
    fun runs s5 counts total sound _ _ _ held => ?_
  refine call_then [(flat, flattened)] total sound held (by simp)
    fun counted s6 signed total sound _ _ _ held => ?_
  refine call_then [(runs, counts), (counted, signed)] total sound held (by simp)
    fun product s7 lengths total sound _ _ _ held => ?_
  exact call_last [(product, lengths)] total sound held (by simp)

/-! ## Indicators -/

/-- The first cells of the heap: the positions of the sessions, and the prices. -/
def pinnedCells : Nat := 6

def priceCells (bars : SessionBars A F) : List (Nat × A) :=
  [(1, bars.open_), (2, bars.high), (3, bars.low), (4, bars.close), (5, bars.volume)]

variable {bars : SessionBars A F} {parameters : Entries F}

omit [PyFloat F] in
theorem simpleAtr_computes (length : Int) (sound : Sound pinned meaning store)
    (held : store.HoldsAll (priceCells bars)) :
    Computes pinned meaning store (Returned pinned store)
      (simpleAtr (heapMachine library bound) (bars.located parameters) length store)
      (simpleAtr (valueMachine library) (bars.withParameters parameters) length) := by
  unfold priceCells at held
  refine call_then [(4, bars.close)] (.refl store) sound held (by simp)
    fun earlier s1 closed total sound _ _ _ held => ?_
  refine call_then [(2, bars.high), (earlier, closed)] total sound held (by simp)
    fun high s2 above total sound _ _ _ held => ?_
  refine call_then [(high, above)] total sound held (by simp)
    fun rise s3 rises total sound _ _ _ held => ?_
  refine call_then [(3, bars.low), (earlier, closed)] total sound held (by simp)
    fun low s4 below total sound _ _ _ held => ?_
  refine call_then [(low, below)] total sound held (by simp)
    fun fall s5 falls total sound _ _ _ held => ?_
  refine call_then [(rise, rises), (fall, falls)] total sound held (by simp)
    fun gaps s6 widest total sound _ _ _ held => ?_
  refine call_then [(2, bars.high), (3, bars.low)] total sound held (by simp)
    fun range s7 ranges total sound _ _ _ held => ?_
  refine call_then [(range, ranges), (gaps, widest)] total sound held (by simp)
    fun true_ s8 trueRange total sound _ _ _ held => ?_
  exact call_last [(true_, trueRange)] total sound held (by simp)


omit [PyFloat F] in
theorem fields_held (parameters : Entries F)
    (held : store.HoldsAll (priceCells bars)) :
    NamedHeld store (bars.located parameters).fields (bars.withParameters parameters).fields := by
  obtain ⟨isOpen, isHigh, isLow, isClose, isVolume, _⟩ := held
  exact .cons ⟨rfl, isOpen⟩ (.cons ⟨rfl, isHigh⟩ (.cons ⟨rfl, isLow⟩ (.cons ⟨rfl, isClose⟩
    (.cons ⟨rfl, isVolume⟩ .nil))))

omit [PyFloat F] in
theorem framed_held {prices : List (String × Nat)} {contents : List (String × A)}
    {sources : List (String × Nat)} {values : List (String × A)}
    (fields : NamedHeld store prices contents) (held : NamedHeld store sources values) :
    NamedHeld store
      ((prices.map fun field => (field.1, (sources.lookup field.1).getD field.2)) ++
        sources.filter fun source => decide (source.1 ∉ priceInputs))
      ((contents.map fun field => (field.1, (values.lookup field.1).getD field.2)) ++
        values.filter fun source => decide (source.1 ∉ priceInputs)) := by
  refine List.rel_append ?_ ?_
  · rw [List.forall₂_map_left_iff, List.forall₂_map_right_iff]
    refine List.Forall₂.imp (fun field other related => ⟨related.1, ?_⟩) fields
    rw [related.1]
    rcases named_lookup held other.1 with ⟨noRef, noValue⟩ | ⟨ref, value, isRef, isValue, holds⟩
    · rw [noRef, noValue]
      exact related.2
    · rw [isRef, isValue]
      exact holds
  · unfold NamedHeld at held
    clear fields
    induction held with
    | nil => exact .nil
    | @cons source value sources values first rest ih =>
        rw [List.filter_cons, List.filter_cons, first.1]
        split
        · exact .cons first ih
        · exact ih

omit [PyFloat F] in
theorem frames_computes (across : Bool) (sound : Sound pinned meaning store)
    (prices : store.HoldsAll (priceCells bars)) {sources : List (String × Nat)}
    {values : List (String × A)} (held : NamedHeld store sources values) :
    Computes pinned meaning store NamedHeld
      (frames (heapMachine library bound) (bars.located parameters) across sources store)
      (frames (valueMachine library) (bars.withParameters parameters) across values) := by
  have framed := framed_held (fields_held parameters prices) held
  refine each_computes (fun step _ _ related => ⟨related.1, step.holds related.2⟩) (.refl store)
    sound (List.Forall₂.imp ?_ framed)
  intro field other related before grown sound
  have held : before.HoldsAll [(field.2, other.2)] := ⟨grown.holds related.2, trivial⟩
  refine call_then [(field.2, other.2)] (.refl before) sound held (by simp)
    fun frame after framed total sound _ _ _ held => ?_
  exact ⟨total, sound, related.1, held.1⟩

omit [PyFloat F] in
theorem scopeArray_computes (across : Bool) (sound : Sound pinned meaning store) {ref : Nat}
    {value : A} (holds : store.Holds ref value) :
    Computes pinned meaning store (Returned pinned store)
      (scopeArray (heapMachine library bound) (bars.located parameters) across ref store)
      (scopeArray (valueMachine library) (bars.withParameters parameters) across value) := by
  have held : store.HoldsAll [(ref, value)] := ⟨holds, trivial⟩
  refine call_then [(ref, value)] (.refl store) sound held (by simp)
    fun values s1 contents total sound _ _ _ held => ?_
  refine call_then [(values, contents)] total sound held (by simp)
    fun isInfinite s2 infinite total sound _ _ _ held => ?_
  refine call_then [(values, contents), (isInfinite, infinite)] total sound held (by simp)
    fun kept s3 finite total sound _ _ own held => ?_
  cases across with
  | true => exact call_last [(kept, finite)] total sound held (by simp)
  | false => exact .pure total sound own.returned

variable {interpreter : Interpreter F}

omit [PyFloat F] in
theorem runLibrary_computes (name : String) (inputs : List String)
    (params : List (String × Scalar F)) (output : String) (sound : Sound pinned meaning store)
    {refs : List (String × Nat)} {values : List (String × A)} (held : NamedHeld store refs values) :
    Computes pinned meaning store (Returned pinned store)
      (runLibrary (heapMachine library bound) interpreter name inputs refs params output store)
      (runLibrary (valueMachine library) interpreter name inputs values params output) := by
  refine framesOf_then held fun args contents argsHeld => ?_
  refine raised_then fun _ _ => ?_
  exact callList_last (.refl store) sound argsHeld

omit [PyFloat F] in
theorem keltner_computes (params : List (String × Scalar F)) (output : String)
    (sound : Sound pinned meaning store) {refs : List (String × Nat)}
    {values : List (String × A)} (data : NamedHeld store refs values) :
    Computes pinned meaning store (Returned pinned store)
      (keltner (heapMachine library bound) interpreter refs params output store)
      (keltner (valueMachine library) interpreter values params output) := by
  refine raised_then fun length _ => ?_
  refine raised_then fun atrLength _ => ?_
  refine raised_then fun mult _ => ?_
  have held : store.HoldsAll [] := trivial
  refine run_then (.refl store) held (runLibrary_computes _ _ _ _ sound data)
    fun middle s1 mean total sound step middleMade held => ?_
  have data := data.later step
  refine run_then total held (runLibrary_computes _ _ _ _ sound data)
    fun atr s2 range total sound step _ held => ?_
  have middleMade := middleMade.later step
  refine call_then [(atr, range)] total sound held (by simp)
    fun band s3 width total sound step _ _ held => ?_
  have middleMade := middleMade.later step
  refine call_then [(middle, mean), (band, width)] total sound held (by simp)
    fun upper s4 above total sound step _ upperOwn held => ?_
  have middleMade := middleMade.later step
  refine call_then [(middle, mean), (band, width)] total sound held (by simp)
    fun lower s5 below total sound step _ lowerOwn held => ?_
  exact frameOf_last total sound (.cons ⟨rfl, (upperOwn.later step).returned⟩
    (.cons ⟨rfl, middleMade.later step⟩ (.cons ⟨rfl, lowerOwn.returned⟩ .nil)))

theorem donchian_computes (params : List (String × Scalar F)) (output : String)
    (sound : Sound pinned meaning store) {refs : List (String × Nat)}
    {values : List (String × A)} (data : NamedHeld store refs values) :
    Computes pinned meaning store (Returned pinned store)
      (donchian (heapMachine library bound) interpreter refs params output store)
      (donchian (valueMachine library) interpreter values params output) := by
  refine raised_then fun _ _ => ?_
  refine raised_then fun length _ => ?_
  refine frameOf_then data fun high highs highHeld => ?_
  have held : store.HoldsAll [(high, highs)] := ⟨highHeld, trivial⟩
  refine call_then [(high, highs)] (.refl store) sound held (by simp)
    fun upper s1 above total sound step _ upperOwn held => ?_
  refine frameOf_then (data.later step) fun low lows lowHeld => ?_
  have held : s1.HoldsAll [(low, lows), (upper, above)] := ⟨lowHeld, held.1, trivial⟩
  refine call_then [(low, lows)] total sound held (by simp)
    fun lower s2 below total sound step _ lowerOwn held => ?_
  have upperOwn := upperOwn.later step
  refine call_then [(upper, above), (lower, below)] total sound held (by simp)
    fun sum s3 sums total sound step _ _ held => ?_
  have upperOwn := upperOwn.later step
  have lowerOwn := lowerOwn.later step
  refine call_then [(sum, sums)] total sound held (by simp)
    fun middle s4 mean total sound step _ middleOwn held => ?_
  exact frameOf_last total sound (.cons ⟨rfl, (upperOwn.later step).returned⟩
    (.cons ⟨rfl, (lowerOwn.later step).returned⟩ (.cons ⟨rfl, middleOwn.returned⟩ .nil)))

end QuantFactory.RuleStrategy
