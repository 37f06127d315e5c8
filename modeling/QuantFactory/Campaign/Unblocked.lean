import QuantFactory.Campaign.Isolation
import QuantFactory.Python.Samples

/-!
# When one idea leaves the others alone

A pass leaves the loop alive and closes every due draft exactly when no packet
check raises, the calls made for each idea raise only what `run_once` handles,
and no test is reported with an open state.
-/

set_option autoImplicit false

namespace QuantFactory.Campaign

open QuantFactory.Library QuantFactory.Python

variable {F : Type} [PyFloat F] (env : PassEnvironment F)

/-! ## The property -/

def dueDrafts (state : PassState) : List IdeaDraft :=
  (listedDrafts state).filter (isDue env state.rows)

def passRows (state : PassState) : List EventRow :=
  (runOnce env state).1.rows.drop state.rows.length

def IsRowOf (draft : IdeaDraft) (row : EventRow) : Prop :=
  row.candidateId = draft.draftId ∧ row.packetSha256 = some (packetDigest env draft)

def Closes (draft : IdeaDraft) (row : EventRow) : Prop :=
  IsRowOf env draft row ∧ row.isOpen = false

/-- The pass leaves the loop alive, queues every eligible draft, and records an outcome for
every eligible draft and for every draft whose packet check failed. -/
structure Unblocked (state : PassState) : Prop where
  loopAlive : (loopRound env state).isSome = true
  queued : ∀ draft ∈ dueDrafts env state, ∀ packet,
    eligiblePacket env.runtime draft.candidateJson = .ok (some packet) →
    (latestRow state.rows draft.draftId).any EventRow.isOpen = true ∨
      waitingRow env draft ∈ passRows env state
  closed : ∀ draft ∈ dueDrafts env state,
    eligiblePacket env.runtime draft.candidateJson ≠ .ok none →
    ∃ row ∈ passRows env state, Closes env draft row

/-! ## The condition -/

/-- One of the five classes `run_once` and `_loop` handle. -/
def Listed (raised : Raised) : Prop := raised.isListed = true

section Condition
variable (idea : QueuedDraft F)

/-- The four values can be stored, and the state is no open one. -/
def Reported.Closing (reported : Reported) : Prop :=
  Yields Listed (fun state =>
    Yields Listed (fun _ =>
      Yields Listed (fun _ =>
        Yields Listed (fun _ => state ≠ some "queued" ∧ state ≠ some "running")
          reported.runId.bound)
        reported.reasonDetail.bound)
      reported.reasonCode.bound)
    reported.state.bound

/-- The executor raises only what is handled, and reports a closing state. -/
def TestHandled (state : PassState) (start : TestStart env) : Prop :=
  Yields Listed (fun outcome => Yields Listed Reported.Closing (env.reported outcome))
    (execute env idea state start).1

def RulesHandled (next : env.Definition → Prop) : Prop :=
  idea.invalid = none →
  Yields Listed (fun found => ∀ ruleSpec, found = some ruleSpec →
      Yields Listed next (env.definition idea.draft.draftId idea.draft.title ruleSpec
        (packetVariables idea)))
    (env.ruleSpecReader idea.draft.draftId idea.packet)

/-- The dataset table and the executor do, where the idea is tested. -/
def DataHandled (state : PassState) (definition : env.Definition) (market : String × String) :
    Prop :=
  ∀ start, packetRequestedStart env.runtime idea.packet = .ok start →
  Yields Listed (fun found => ∀ profile, found = some profile →
      recentAttempts env idea state.rows < maxAttempts →
      TestHandled env idea state (testStart env idea state definition profile))
    (env.datasetProfile market.1 market.2 start)

/-- Every call that is made for the idea in this state raises only what is handled, and its
test is reported with a closing state. -/
def TurnHandled (state : PassState) : Prop :=
  RulesHandled env idea fun definition =>
    Yields Listed (fun strategyId =>
      Yields Listed (fun market =>
        Yields Listed (fun owner => owner = none → DataHandled env idea state definition market)
          (earlierOwner env idea state strategyId market))
        (packetMarket env.runtime idea.packet))
      (env.strategyId definition)

end Condition

/-- So it is for every idea of the queue, in the state its turn starts from. -/
def TurnsHandled : List (QueuedDraft F) → PassState → Prop
  | [], _ => True
  | idea :: rest, state =>
      TurnHandled env idea state ∧ TurnsHandled rest (draftTurn env idea state).1

theorem TurnsHandled.head {idea : QueuedDraft F} {rest : List (QueuedDraft F)} {state : PassState}
    (handled : TurnsHandled env (idea :: rest) state) : TurnHandled env idea state := handled.1

/-- A draft as `_queue` queues it. -/
def eligibleDraft (draft : IdeaDraft) : Option (QueuedDraft F) :=
  match eligiblePacket env.runtime draft.candidateJson with
  | .ok (some (packet, invalid)) => some ⟨draft, packet, invalid⟩
  | _ => none

def queuedDrafts (state : PassState) : List (QueuedDraft F) :=
  (dueDrafts env state).filterMap (eligibleDraft env)

def queuedState (state : PassState) : PassState :=
  { state with rows := state.rows ++
      (queuedDrafts env state).flatMap fun idea => waitingRows env state.rows idea.draft }

/-- No packet check of a due draft raises, and every turn is handled. -/
structure PassHandled (state : PassState) : Prop where
  checks : ∀ draft ∈ dueDrafts env state,
    ∃ found, eligiblePacket env.runtime draft.candidateJson = .ok found
  turns : TurnsHandled env (queuedDrafts env state) (queuedState env state)

/-! ## The start of a turn -/

section Turn
variable {env} {idea : QueuedDraft F} {state : PassState}

theorem listed_of_valueError {raised : Raised} (base : raised.base = .valueError) :
    Listed raised := by
  simp [Listed, Raised.isListed, base]

omit [PyFloat F] in
theorem packetRequestedStart_error {packet : Entries F} {raised : Raised}
    (failed : packetRequestedStart env.runtime packet = .error raised) :
    raised.base = .valueError := by
  unfold packetRequestedStart at failed
  simp only at failed
  split at failed
  · cases failed
    rfl
  · split at failed
    · cases failed
    · split at failed
      · cases failed
      · cases failed
        rfl

omit [PyFloat F] in
theorem draftRow_isRowOf (draft : IdeaDraft) (status code : String) (detail : Option String) :
    IsRowOf env draft (draftRow env draft status code detail) := ⟨rfl, rfl⟩

omit [PyFloat F] in
theorem closingRow_closes {status code detail : String} (closed : status ≠ "queued")
    (ended : status ≠ "running") :
    Closes env idea.draft (closingRow env idea status code detail) := by
  refine ⟨draftRow_isRowOf _ _ _ _, ?_⟩
  simp [closingRow, draftRow, EventRow.isOpen, closed, ended]

/-- The rules are handled exactly when what they lead to raises only what is handled. -/
theorem ideaDefinition_yields (next : env.Definition → Prop) :
    RulesHandled env idea next ↔
      Yields Listed (Sum.elim (fun _ => True) next) (ideaDefinition env idea) := by
  unfold RulesHandled ideaDefinition buildDefinition
  cases invalid : idea.invalid with
  | some message => simp [Raised.value]
  | none =>
      cases read : env.ruleSpecReader idea.draft.draftId idea.packet with
      | error raised =>
          by_cases base : raised.base = .valueError
          · simp [bind, Except.bind, base, listed_of_valueError base]
          · simp [bind, Except.bind, base]
      | ok found =>
          cases found with
          | none => simp [bind, Except.bind]
          | some ruleSpec =>
              cases built : env.definition idea.draft.draftId idea.draft.title ruleSpec
                  (packetVariables idea) with
              | error raised =>
                  by_cases base : raised.base = .valueError
                  · simp [bind, Except.bind, built, base, listed_of_valueError base]
                  · simp [bind, Except.bind, built, base]
              | ok definition => simp [bind, Except.bind, built]

theorem ideaDefinition_closes :
    Yields (fun _ => True) (Sum.elim (Closes env idea.draft) fun _ => True)
      (ideaDefinition env idea) := by
  unfold ideaDefinition
  split
  · split
    · exact closingRow_closes (by decide) (by decide)
    · trivial
  · exact closingRow_closes (by decide) (by decide)
  · trivial

omit [PyFloat F] in
theorem startTest_yields (definition : env.Definition) (profile : env.Profile) :
    Sum.elim (fun _ => True) (TestHandled env idea state)
        (startTest env idea state definition profile) ↔
      (recentAttempts env idea state.rows < maxAttempts →
        TestHandled env idea state (testStart env idea state definition profile)) := by
  unfold startTest
  by_cases spent : maxAttempts ≤ recentAttempts env idea state.rows
  · simp [spent]
  · simp [spent]
    omega

omit [PyFloat F] in
theorem selectData_yields (definition : env.Definition) (market : String × String) :
    DataHandled env idea state definition market ↔
      Yields Listed (Sum.elim (fun _ => True) (TestHandled env idea state))
        (selectData env idea state definition market) := by
  unfold DataHandled selectData
  cases start : packetRequestedStart env.runtime idea.packet with
  | error raised => simp [packetRequestedStart_error start]
  | ok requestedStart =>
      simp only [Except.ok.injEq, forall_eq']
      cases env.datasetProfile market.1 market.2 requestedStart with
      | error raised => simp [bind, Except.bind]
      | ok found =>
          cases found with
          | none => simp [bind, Except.bind]
          | some profile =>
              simp only [bind, Except.bind, yields_ok, Option.some.injEq, forall_eq']
              exact (startTest_yields definition profile).symm

omit [PyFloat F] in
theorem selectData_closes (definition : env.Definition) (market : String × String) :
    Yields (fun _ => True) (Sum.elim (Closes env idea.draft) fun _ => True)
      (selectData env idea state definition market) := by
  unfold selectData
  split
  · split
    · exact closingRow_closes (by decide) (by decide)
    · trivial
  · rw [yields_bind]
    cases env.datasetProfile market.1 market.2 _ with
    | error raised => trivial
    | ok found =>
        cases found with
        | none => exact closingRow_closes (by decide) (by decide)
        | some profile =>
            simp only [yields_ok, startTest]
            split
            · exact closingRow_closes (by decide) (by decide)
            · trivial

/-- A turn is handled exactly when what comes before the test raises only what is handled and
the test, where it starts, is handled. -/
theorem prepareTest_yields :
    TurnHandled env idea state ↔
      Yields Listed (Sum.elim (fun _ => True) (TestHandled env idea state))
        (prepareTest env idea state) := by
  unfold TurnHandled prepareTest
  rw [ideaDefinition_yields, yields_bind]
  cases ideaDefinition env idea with
  | error raised => exact Iff.rfl
  | ok found =>
      cases found with
      | inl row => simp
      | inr definition =>
          simp only [yields_ok, Sum.elim_inr, yields_bind]
          cases env.strategyId definition with
          | error raised => exact Iff.rfl
          | ok strategyId =>
              simp only [yields_ok]
              cases packetMarket env.runtime idea.packet with
              | error raised => exact Iff.rfl
              | ok market =>
                  simp only [yields_ok]
                  cases earlierOwner env idea state strategyId market with
                  | error raised => exact Iff.rfl
                  | ok owner =>
                      cases owner with
                      | some owner => simp
                      | none => simpa using selectData_yields definition market

theorem prepareTest_closes :
    Yields (fun _ => True) (Sum.elim (Closes env idea.draft) fun _ => True)
      (prepareTest env idea state) := by
  unfold prepareTest
  rw [yields_bind]
  refine Yields.mono ideaDefinition_closes ?_
  intro found _ closes
  cases found with
  | inl row => exact closes
  | inr definition =>
      simp only [yields_bind]
      cases env.strategyId definition with
      | error raised => trivial
      | ok strategyId =>
          simp only [yields_ok]
          cases packetMarket env.runtime idea.packet with
          | error raised => trivial
          | ok market =>
              simp only [yields_ok]
              cases earlierOwner env idea state strategyId market with
              | error raised => trivial
              | ok owner =>
                  cases owner with
                  | some owner => exact closingRow_closes (by decide) (by decide)
                  | none => exact selectData_closes definition market

/-! ## The end of a turn -/

omit [PyFloat F] in
theorem reportedRow_yields (reported : Reported) :
    reported.Closing ↔ Yields Listed (Closes env idea.draft) (reportedRow env idea reported) := by
  unfold Reported.Closing reportedRow
  rw [yields_bind]
  cases bound : reported.state.bound with
  | error raised => exact Iff.rfl
  | ok status =>
      simp only [yields_ok, yields_bind]
      cases reported.reasonCode.bound with
      | error raised => exact Iff.rfl
      | ok reasonCode =>
          simp only [yields_ok]
          cases reported.reasonDetail.bound with
          | error raised => exact Iff.rfl
          | ok reasonDetail =>
              simp only [yields_ok]
              cases reported.runId.bound with
              | error raised => exact Iff.rfl
              | ok runId =>
                  cases status with
                  | none => simp [Listed, Raised.isListed]
                  | some status => simp [Closes, IsRowOf, EventRow.isOpen]

omit [PyFloat F] in
theorem reportedRow_isRowOf {reported : Reported} {row : EventRow}
    (stored : reportedRow env idea reported = .ok row) : IsRowOf env idea.draft row := by
  unfold reportedRow at stored
  obtain ⟨status, _, stored⟩ := bind_eq_ok.mp stored
  obtain ⟨reasonCode, _, stored⟩ := bind_eq_ok.mp stored
  obtain ⟨reasonDetail, _, stored⟩ := bind_eq_ok.mp stored
  obtain ⟨runId, _, stored⟩ := bind_eq_ok.mp stored
  cases status with
  | none => cases stored
  | some status =>
      cases stored
      exact ⟨rfl, rfl⟩

omit [PyFloat F] in
theorem executedRow_yields (start : TestStart env) :
    TestHandled env idea state start ↔
      Yields Listed (Closes env idea.draft)
        (executedRow env idea (execute env idea state start).1) := by
  unfold TestHandled executedRow
  rw [yields_bind]
  cases (execute env idea state start).1 with
  | error raised => exact Iff.rfl
  | ok outcome =>
      simp only [yields_ok, yields_bind]
      cases env.reported outcome with
      | error raised => exact Iff.rfl
      | ok reported => exact reportedRow_yields reported

omit [PyFloat F] in
theorem executedRow_isRowOf {result : Except Raised env.Outcome} {row : EventRow}
    (stored : executedRow env idea result = .ok row) : IsRowOf env idea.draft row := by
  unfold executedRow at stored
  obtain ⟨outcome, _, stored⟩ := bind_eq_ok.mp stored
  obtain ⟨reported, _, stored⟩ := bind_eq_ok.mp stored
  exact reportedRow_isRowOf stored

variable (env) (idea) (state)

/-- The events of one turn: all of the idea, and one of them closes it exactly when the turn is
handled; otherwise the pass dies or nothing closes the idea. -/
structure TurnEvents where
  rows : List EventRow
  appended : (draftTurn env idea state).1.rows = state.rows ++ rows
  own : ∀ row ∈ rows, IsRowOf env idea.draft row
  handled : TurnHandled env idea state →
    (draftTurn env idea state).2 = .ok () ∧ ∃ row ∈ rows, row.isOpen = false
  unhandled : ¬ TurnHandled env idea state →
    (∃ raised, (draftTurn env idea state).2 = .error raised ∧ ¬ Listed raised) ∨
      ((draftTurn env idea state).2 = .ok () ∧ ∀ row ∈ rows, row.isOpen = true)

variable {env} {idea} {state}

/-- A turn whose `_process` appended these events and then raised. -/
def turnRaised (rows : List EventRow) (raised : Raised) (next : PassState)
    (grown : next.rows = state.rows ++ rows) (own : ∀ row ∈ rows, IsRowOf env idea.draft row)
    (ran : processDraft env idea state = (next, .error raised))
    (handled : TurnHandled env idea state ↔ Listed raised) : TurnEvents env idea state where
  rows := rows ++ if raised.isListed then [failedRow env idea raised] else []
  appended := by
    unfold draftTurn
    rw [ran]
    by_cases listed : raised.isListed = true
    · simp [listed, PassState.append, grown]
    · simp [listed, grown]
  own row member := by
    rcases List.mem_append.mp member with earlier | last
    · exact own row earlier
    · split at last
      · rw [List.mem_singleton.mp last]
        exact draftRow_isRowOf _ _ _ _
      · cases last
  handled safe := by
    have listed : raised.isListed = true := handled.mp safe
    refine ⟨?_, failedRow env idea raised, ?_, ?_⟩
    · simp [draftTurn, ran, listed]
    · simp [listed]
    · exact (closingRow_closes (by decide) (by decide)).2
  unhandled failing := by
    have unlisted : ¬ Listed raised := fun listed => failing (handled.mpr listed)
    refine Or.inl ⟨raised, ?_, unlisted⟩
    have dead : raised.isListed = false := by simpa [Listed] using unlisted
    simp [draftTurn, ran, dead]

/-- A turn whose `_process` appended these events and returned. -/
def turnReturned (rows : List EventRow) (last : EventRow) (next : PassState)
    (grown : next.rows = state.rows ++ (rows ++ [last]))
    (own : ∀ row ∈ rows ++ [last], IsRowOf env idea.draft row)
    (opened : ∀ row ∈ rows, row.isOpen = true)
    (ran : processDraft env idea state = (next, .ok ()))
    (handled : TurnHandled env idea state ↔ last.isOpen = false) : TurnEvents env idea state where
  rows := rows ++ [last]
  appended := by
    unfold draftTurn
    rw [ran]
    exact grown
  own := own
  handled safe := ⟨by simp [draftTurn, ran], last, by simp, handled.mp safe⟩
  unhandled failing := by
    refine Or.inr ⟨by simp [draftTurn, ran], ?_⟩
    intro row member
    rcases List.mem_append.mp member with earlier | isLast
    · exact opened row earlier
    · rw [List.mem_singleton.mp isLast]
      cases status : last.isOpen with
      | true => rfl
      | false => exact absurd (handled.mpr status) failing

variable (env) (idea) (state)

theorem draftTurn_events : Nonempty (TurnEvents env idea state) := by
  have yields : TurnHandled env idea state ↔
      Yields Listed (Sum.elim (fun _ => True) (TestHandled env idea state))
        (prepareTest env idea state) := prepareTest_yields
  have closes : Yields (fun _ => True) (Sum.elim (Closes env idea.draft) fun _ => True)
      (prepareTest env idea state) := prepareTest_closes
  cases prepared : prepareTest env idea state with
  | error raised =>
      rw [prepared] at yields
      exact ⟨turnRaised [] raised state (by simp) (by simp) (by simp [processDraft, prepared])
        yields⟩
  | ok found =>
      rw [prepared] at yields closes
      cases found with
      | inl row =>
          have closed : Closes env idea.draft row := closes
          refine ⟨turnReturned [] row (state.append row) (by simp [PassState.append]) ?_ (by simp)
            (by simp [processDraft, prepared]) ?_⟩
          · intro other member
            rw [List.mem_singleton.mp member]
            exact closed.1
          · exact ⟨fun _ => closed.2, fun _ => yields.mpr trivial⟩
      | inr start =>
          have tested := yields.trans (executedRow_yields start)
          have began : IsRowOf env idea.draft (draftRow env idea.draft "running" "started" none) :=
            draftRow_isRowOf _ _ _ _
          cases executed : executedRow env idea (execute env idea state start).1 with
          | error raised =>
              rw [executed] at tested
              refine ⟨turnRaised [draftRow env idea.draft "running" "started" none] raised
                { startedState env idea state with store := (execute env idea state start).2 }
                rfl ?_ (by simp [processDraft, prepared, executed]) tested⟩
              intro row member
              rw [List.mem_singleton.mp member]
              exact began
          | ok row =>
              have own : IsRowOf env idea.draft row := executedRow_isRowOf executed
              rw [executed] at tested
              refine ⟨turnReturned [draftRow env idea.draft "running" "started" none] row
                (PassState.append
                  { startedState env idea state with store := (execute env idea state start).2 }
                  row) (by simp [startedState, PassState.append]) ?_ ?_
                (by simp [processDraft, prepared, executed]) ?_⟩
              · intro other member
                rcases List.mem_cons.mp member with rfl | isLast
                · exact began
                · rw [List.mem_singleton.mp isLast]
                  exact own
              · intro other member
                rw [List.mem_singleton.mp member]
                simp [draftRow, EventRow.isOpen]
              · exact tested.trans ⟨And.right, fun closed => ⟨own, closed⟩⟩

end Turn

/-! ## The turns of a pass -/

section Turns
variable {env}
variable (running : ∀ draft, env.interrupted draft = false)
include running

theorem runTurns_cons (idea : QueuedDraft F) (rest : List (QueuedDraft F)) (state : PassState) :
    runTurns env (idea :: rest) state =
      match draftTurn env idea state with
      | (next, .ok ()) => runTurns env rest next
      | (next, .error raised) => (next, .error raised) := by
  rw [runTurns, running]
  rfl

theorem runTurns_rows (queue : List (QueuedDraft F)) (state : PassState) :
    ∃ rows, (runTurns env queue state).1.rows = state.rows ++ rows ∧
      ∀ row ∈ rows, ∃ idea ∈ queue, IsRowOf env idea.draft row := by
  induction queue generalizing state with
  | nil => exact ⟨[], by simp [runTurns], by simp⟩
  | cons idea rest ih =>
      obtain ⟨events⟩ := draftTurn_events env idea state
      have own : ∀ row ∈ events.rows, ∃ other ∈ idea :: rest, IsRowOf env other.draft row :=
        fun row member => ⟨idea, List.mem_cons_self .., events.own row member⟩
      rw [runTurns_cons running]
      cases turn : draftTurn env idea state with
      | mk next ended =>
          have grown := events.appended
          rw [turn] at grown
          cases ended with
          | error raised => exact ⟨events.rows, grown, own⟩
          | ok _ =>
              obtain ⟨later, laterGrown, laterOwn⟩ := ih next
              refine ⟨events.rows ++ later, ?_, ?_⟩
              · rw [← List.append_assoc, ← grown]
                exact laterGrown
              · intro row member
                rcases List.mem_append.mp member with first | inLater
                · exact own row first
                · obtain ⟨other, inRest, isRow⟩ := laterOwn row inLater
                  exact ⟨other, List.mem_cons_of_mem _ inRest, isRow⟩

theorem runTurns_handled {queue : List (QueuedDraft F)} {state : PassState}
    (handled : TurnsHandled env queue state) :
    (runTurns env queue state).2 = .ok () ∧
      ∃ rows, (runTurns env queue state).1.rows = state.rows ++ rows ∧
        ∀ idea ∈ queue, ∃ row ∈ rows, Closes env idea.draft row := by
  induction queue generalizing state with
  | nil => exact ⟨rfl, [], by simp [runTurns], by simp⟩
  | cons idea rest ih =>
      obtain ⟨events⟩ := draftTurn_events env idea state
      obtain ⟨returned, last, member, closed⟩ := events.handled handled.1
      obtain ⟨ended, later, grown, each⟩ := ih handled.2
      have goesOn : runTurns env (idea :: rest) state =
          runTurns env rest (draftTurn env idea state).1 := by
        rw [runTurns_cons running]
        cases turn : draftTurn env idea state with
        | mk next result =>
            rw [turn] at returned
            rw [show result = .ok () from returned]
      rw [goesOn]
      refine ⟨ended, events.rows ++ later, ?_, ?_⟩
      · rw [grown, events.appended, List.append_assoc]
      · intro other inQueue
        rcases List.mem_cons.mp inQueue with rfl | inRest
        · exact ⟨last, List.mem_append_left _ member, events.own last member, closed⟩
        · obtain ⟨row, inLater, closes⟩ := each other inRest
          exact ⟨row, List.mem_append_right _ inLater, closes⟩

/-- Where a turn is not handled, the pass dies of it or one idea stays open. -/
theorem runTurns_unhandled {queue : List (QueuedDraft F)} {state : PassState}
    (distinct : (queue.map fun idea => idea.draft.draftId).Nodup)
    (unhandled : ¬ TurnsHandled env queue state) :
    (∃ raised, (runTurns env queue state).2 = .error raised ∧ ¬ Listed raised) ∨
      ∃ rows, (runTurns env queue state).1.rows = state.rows ++ rows ∧
        ∃ idea ∈ queue, ∀ row ∈ rows, row.candidateId = idea.draft.draftId →
          row.isOpen = true := by
  induction queue generalizing state with
  | nil => exact absurd trivial unhandled
  | cons idea rest ih =>
      obtain ⟨events⟩ := draftTurn_events env idea state
      obtain ⟨fresh, restDistinct⟩ := List.nodup_cons.mp distinct
      have different : ∀ other ∈ rest, other.draft.draftId ≠ idea.draft.draftId := by
        intro other member same
        exact fresh (List.mem_map.mpr ⟨other, member, same⟩)
      have goesOn (returned : (draftTurn env idea state).2 = .ok ()) :
          runTurns env (idea :: rest) state = runTurns env rest (draftTurn env idea state).1 := by
        rw [runTurns_cons running]
        cases turn : draftTurn env idea state with
        | mk next result =>
            rw [turn] at returned
            rw [show result = .ok () from returned]
      by_cases safe : TurnHandled env idea state
      · have later : ¬ TurnsHandled env rest (draftTurn env idea state).1 :=
          fun laterHandled => unhandled ⟨safe, laterHandled⟩
        rw [goesOn (events.handled safe).1]
        rcases ih restDistinct later with died | ⟨rows, grown, other, member, stays⟩
        · exact Or.inl died
        · refine Or.inr ⟨events.rows ++ rows, ?_, other, List.mem_cons_of_mem _ member, ?_⟩
          · rw [grown, events.appended, List.append_assoc]
          · intro row inRows same
            rcases List.mem_append.mp inRows with first | inLater
            · exact absurd ((events.own row first).1 ▸ same).symm (different other member)
            · exact stays row inLater same
      · rcases events.unhandled safe with ⟨raised, died, unlisted⟩ | ⟨returned, stays⟩
        · refine Or.inl ⟨raised, ?_, unlisted⟩
          rw [runTurns_cons running]
          cases turn : draftTurn env idea state with
          | mk next result =>
              rw [turn] at died
              rw [show result = .error raised from died]
        · obtain ⟨rows, grown, own⟩ := runTurns_rows running rest (draftTurn env idea state).1
          rw [goesOn returned]
          refine Or.inr ⟨events.rows ++ rows, ?_, idea, List.mem_cons_self .., ?_⟩
          · rw [grown, events.appended, List.append_assoc]
          · intro row inRows same
            rcases List.mem_append.mp inRows with first | inLater
            · exact stays row first
            · obtain ⟨other, member, isRow⟩ := own row inLater
              exact absurd (isRow.1.symm.trans same) (different other member)

end Turns

/-! ## The queue of a pass -/

section Queue
variable {env} {seen : List EventRow}

theorem eligibleDraft_eligible {draft : IdeaDraft} {packet : EligiblePacket F}
    (eligible : eligiblePacket env.runtime draft.candidateJson = .ok (some packet)) :
    eligibleDraft env draft = some ⟨draft, packet.1, packet.2⟩ := by
  simp [eligibleDraft, eligible]

/-- Where no check raises, `_queue` queues every eligible draft and appends the waiting events. -/
theorem queueDrafts_ok {drafts : List IdeaDraft}
    (checks : ∀ draft ∈ drafts.filter (isDue env seen),
      ∃ found, eligiblePacket env.runtime draft.candidateJson = .ok found) :
    queueDrafts env seen drafts =
      (((drafts.filter (isDue env seen)).filterMap (eligibleDraft env)).flatMap
          (fun idea => waitingRows env seen idea.draft),
        .ok ((drafts.filter (isDue env seen)).filterMap (eligibleDraft env))) := by
  induction drafts with
  | nil => rfl
  | cons draft rest ih =>
      rw [queueDrafts]
      by_cases due : isDue env seen draft = true
      · rw [List.filter_cons_of_pos due] at checks ⊢
        have later := ih fun other member => checks other (List.mem_cons_of_mem _ member)
        obtain ⟨found, checked⟩ := checks draft (List.mem_cons_self ..)
        rw [if_pos due, checked]
        cases found with
        | none =>
            have skipped : eligibleDraft env draft = none := by simp [eligibleDraft, checked]
            rw [List.filterMap_cons_none skipped]
            exact later
        | some packet =>
            rw [List.filterMap_cons_some (eligibleDraft_eligible checked)]
            simp only [later, List.flatMap_cons]
            rfl
      · rw [if_neg due]
        rw [List.filter_cons_of_neg due] at checks ⊢
        exact ih checks

theorem queueDrafts_error {drafts : List IdeaDraft} {draft : IdeaDraft} {raised : Raised}
    (member : draft ∈ drafts.filter (isDue env seen))
    (failed : eligiblePacket env.runtime draft.candidateJson = .error raised) :
    ∃ other, (queueDrafts env seen drafts).2 = .error other := by
  induction drafts with
  | nil => cases member
  | cons head rest ih =>
      rw [queueDrafts]
      by_cases due : isDue env seen head = true
      · rw [if_pos due]
        rw [List.filter_cons_of_pos due] at member
        cases checked : eligiblePacket env.runtime head.candidateJson with
        | error other => exact ⟨other, rfl⟩
        | ok found =>
            have inRest : draft ∈ rest.filter (isDue env seen) := by
              rcases List.mem_cons.mp member with rfl | inRest
              · rw [checked] at failed
                cases failed
              · exact inRest
            obtain ⟨other, ended⟩ := ih inRest
            cases found with
            | none => exact ⟨other, ended⟩
            | some packet =>
                refine ⟨other, ?_⟩
                simp only [ended]
                rfl
      · rw [if_neg due]
        rw [List.filter_cons_of_neg due] at member
        exact ih member

theorem queueDrafts_open (drafts : List IdeaDraft) :
    ∀ row ∈ (queueDrafts env seen drafts).1, row.isOpen = true := by
  induction drafts with
  | nil => simp [queueDrafts]
  | cons draft rest ih =>
      rw [queueDrafts]
      split
      · split
        · simp
        · exact ih
        · intro row member
          rcases List.mem_append.mp member with first | later
          · unfold waitingRows at first
            split at first
            · cases first
            · rw [List.mem_singleton.mp first]
              simp [waitingRow, draftRow, EventRow.isOpen]
          · exact ih row later
      · exact ih

theorem eligibleDraft_some {draft : IdeaDraft} {idea : QueuedDraft F}
    (found : eligibleDraft env draft = some idea) : idea.draft = draft := by
  unfold eligibleDraft at found
  split at found
  · cases found
    rfl
  · cases found

end Queue

theorem queuedDrafts_distinct (state : PassState) :
    ((queuedDrafts env state).map fun idea => idea.draft.draftId).Nodup := by
  have drafts : (queuedDrafts env state).map (fun idea => idea.draft.draftId) |>.Sublist
      ((dueDrafts env state).map (·.draftId)) := by
    unfold queuedDrafts
    induction dueDrafts env state with
    | nil => simp
    | cons draft rest ih =>
        cases found : eligibleDraft env draft with
        | none =>
            rw [List.filterMap_cons_none found]
            exact ih.trans (List.sublist_cons_self ..)
        | some idea =>
            rw [List.filterMap_cons_some found, List.map_cons, List.map_cons,
              eligibleDraft_some found]
            exact ih.cons_cons _
  refine List.Nodup.sublist drafts ?_
  exact List.Nodup.sublist (List.filter_sublist.map _)
    (listSorted_distinct state.store.drafts (settledCandidates state.rows))

/-! ## The whole pass -/

section Pass
variable {env} {state : PassState}

theorem runOnce_checked (checks : ∀ draft ∈ dueDrafts env state,
    ∃ found, eligiblePacket env.runtime draft.candidateJson = .ok found) :
    runOnce env state = ((runTurns env (queuedDrafts env state) (queuedState env state)).1,
      (runTurns env (queuedDrafts env state) (queuedState env state)).2.map
        fun _ => (queuedDrafts env state).length) := by
  unfold runOnce
  rw [queueDrafts_ok checks]
  rfl

theorem passRows_open {draft : IdeaDraft} {raised : Raised}
    (due : draft ∈ dueDrafts env state)
    (failed : eligiblePacket env.runtime draft.candidateJson = .error raised) :
    ∀ row ∈ passRows env state, row.isOpen = true := by
  obtain ⟨other, ended⟩ := queueDrafts_error due failed
  intro row member
  have fromQueue : row ∈ (queueDrafts env state.rows (listedDrafts state)).1 := by
    simpa [passRows, runOnce, ended] using member
  exact queueDrafts_open (listedDrafts state) row fromQueue

theorem passRows_checked (checks : ∀ draft ∈ dueDrafts env state,
    ∃ found, eligiblePacket env.runtime draft.candidateJson = .ok found) {rows : List EventRow}
    (grown : (runTurns env (queuedDrafts env state) (queuedState env state)).1.rows =
      (queuedState env state).rows ++ rows) :
    passRows env state = (queuedDrafts env state).flatMap
      (fun idea => waitingRows env state.rows idea.draft) ++ rows := by
  unfold passRows
  rw [runOnce_checked checks]
  simp only [grown]
  rw [queuedState, List.append_assoc, List.drop_left]

theorem mem_queuedDrafts {draft : IdeaDraft} {packet : EligiblePacket F}
    (due : draft ∈ dueDrafts env state)
    (eligible : eligiblePacket env.runtime draft.candidateJson = .ok (some packet)) :
    (⟨draft, packet.1, packet.2⟩ : QueuedDraft F) ∈ queuedDrafts env state :=
  List.mem_filterMap.mpr ⟨draft, due, eligibleDraft_eligible eligible⟩

theorem queuedDrafts_due {idea : QueuedDraft F} (member : idea ∈ queuedDrafts env state) :
    idea.draft ∈ dueDrafts env state ∧
      eligiblePacket env.runtime idea.draft.candidateJson ≠ .ok none := by
  obtain ⟨draft, due, found⟩ := List.mem_filterMap.mp member
  rw [eligibleDraft_some found]
  refine ⟨due, fun ineligible => ?_⟩
  simp [eligibleDraft, ineligible] at found

theorem unblocked_of_handled (running : ∀ draft, env.interrupted draft = false)
    (handled : PassHandled env state) : Unblocked env state := by
  obtain ⟨ended, rows, grown, each⟩ := runTurns_handled running handled.turns
  have appended := passRows_checked handled.checks grown
  have packetOf {draft : IdeaDraft} (due : draft ∈ dueDrafts env state)
      (eligible : eligiblePacket env.runtime draft.candidateJson ≠ .ok none) :
      ∃ packet, eligiblePacket env.runtime draft.candidateJson = .ok (some packet) := by
    obtain ⟨found, checked⟩ := handled.checks draft due
    cases found with
    | none => exact absurd checked eligible
    | some packet => exact ⟨packet, checked⟩
  constructor
  · simp [loopRound, runOnce_checked handled.checks, ended, Except.map]
  · intro draft due packet eligible
    by_cases opened : (latestRow state.rows draft.draftId).any EventRow.isOpen = true
    · exact Or.inl opened
    · right
      rw [appended]
      refine List.mem_append_left _ (List.mem_flatMap.mpr ⟨_, mem_queuedDrafts due eligible, ?_⟩)
      simp [waitingRows, opened]
  · intro draft due eligible
    obtain ⟨packet, checked⟩ := packetOf due eligible
    obtain ⟨row, member, closes⟩ := each _ (mem_queuedDrafts due checked)
    refine ⟨row, ?_, closes⟩
    rw [appended]
    exact List.mem_append_right _ member

theorem checks_of_unblocked (unblocked : Unblocked env state) :
    ∀ draft ∈ dueDrafts env state,
      ∃ found, eligiblePacket env.runtime draft.candidateJson = .ok found := by
  intro draft due
  cases checked : eligiblePacket env.runtime draft.candidateJson with
  | ok found => exact ⟨found, rfl⟩
  | error raised =>
      obtain ⟨row, member, closes⟩ := unblocked.closed draft due (by rw [checked]; simp)
      have opened := passRows_open due checked row member
      rw [closes.2] at opened
      cases opened

theorem turns_of_unblocked (running : ∀ draft, env.interrupted draft = false)
    (unblocked : Unblocked env state) :
    TurnsHandled env (queuedDrafts env state) (queuedState env state) := by
  have checks := checks_of_unblocked unblocked
  by_contra unhandled
  rcases runTurns_unhandled running (queuedDrafts_distinct env state) unhandled with
    ⟨raised, died, unlisted⟩ | ⟨rows, grown, idea, member, stays⟩
  · have alive := unblocked.loopAlive
    have dead : raised.isListed = false := by simpa [Listed] using unlisted
    simp [loopRound, runOnce_checked checks, died, dead, Except.map] at alive
  · obtain ⟨due, eligible⟩ := queuedDrafts_due member
    obtain ⟨row, inPass, closes⟩ := unblocked.closed idea.draft due eligible
    rw [passRows_checked checks grown] at inPass
    have opened : row.isOpen = true := by
      rcases List.mem_append.mp inPass with waiting | later
      · obtain ⟨other, _, inWaiting⟩ := List.mem_flatMap.mp waiting
        unfold waitingRows at inWaiting
        split at inWaiting
        · cases inWaiting
        · rw [List.mem_singleton.mp inWaiting]
          simp [waitingRow, draftRow, EventRow.isOpen]
      · exact stays row later closes.1.1
    rw [closes.2] at opened
    cases opened

end Pass

/-- A pass that is not interrupted blocks no idea exactly when every packet check returns and
every turn is handled. -/
theorem one_idea_blocks_no_other (state : PassState)
    (running : ∀ draft, env.interrupted draft = false) :
    Unblocked env state ↔ PassHandled env state := by
  constructor
  · intro unblocked
    exact ⟨checks_of_unblocked unblocked, turns_of_unblocked running unblocked⟩
  · exact unblocked_of_handled running

/-! ## A packet that `packet_market` cannot read -/

theorem text_cons_of_truthy {text : String}
    (isTrue : Launch.truthy (.str text : PyValue F) = true) :
    ∃ first rest, text.toList = first :: rest := by
  cases chars : text.toList with
  | cons first rest => exact ⟨first, rest, rfl⟩
  | nil =>
      have empty : text = "" := String.toList_eq_nil_iff.mp chars
      rw [empty] at isTrue
      simp [Launch.truthy] at isTrue

/-- A packet names its market unless its preferred instruments are a number or `True`. -/
theorem packetMarket_listed (packet : Entries F) :
    Yields Listed (fun _ => True) (packetMarket env.runtime packet) ↔
      ∀ value, preferredInstruments packet = some value → Launch.truthy value = true →
        value.isDict = true ∨ value.text?.isSome = true ∨ value.items?.isSome = true := by
  unfold packetMarket
  rw [yields_bind]
  cases preferredInstruments packet with
  | none => simp [firstPreferred]
  | some value =>
      by_cases isTrue : Launch.truthy value = true
      · have first : firstPreferred (some value) = firstItem value := by
          simp [firstPreferred, Option.filter_some, isTrue]
        rw [first]
        cases value with
        | str text =>
            obtain ⟨first, rest, chars⟩ := text_cons_of_truthy isTrue
            simp [firstItem, chars, PyValue.text?]
        | list items =>
            cases items with
            | nil => simp [Launch.truthy] at isTrue
            | cons first rest => simp [firstItem, PyValue.items?]
        | dict entries => simp [firstItem, Listed, Raised.isListed, PyValue.isDict]
        | _ =>
            simp [firstItem, Listed, Raised.isListed, PyValue.isDict, PyValue.text?,
              PyValue.items?, isTrue]
      · simp [firstPreferred, Option.filter_some, isTrue]

theorem TurnHandled.market {env : PassEnvironment F} {idea : QueuedDraft F} {state : PassState}
    (handled : TurnHandled env idea state) (valid : idea.invalid = none)
    {ruleSpec : env.RuleSpec} {definition : env.Definition} {strategyId : String}
    (read : env.ruleSpecReader idea.draft.draftId idea.packet = .ok (some ruleSpec))
    (defined : env.definition idea.draft.draftId idea.draft.title ruleSpec
      (packetVariables idea) = .ok definition)
    (named : env.strategyId definition = .ok strategyId) :
    Yields Listed (fun _ => True) (packetMarket env.runtime idea.packet) := by
  have rules := handled valid
  rw [read] at rules
  have next := rules ruleSpec rfl
  rw [defined] at next
  simp only [yields_ok, named] at next
  exact next.mono fun _ _ _ => trivial

def samplePacket (preferred : PyValue WholeFloat) : PyValue WholeFloat := .dict [
  ("schema", .str "qf_candidate_v1"),
  ("candidate", .dict [("title", .str "Higher close")]),
  ("hypothesis", .dict [("behavior", .str "momentum"), ("failure_theory", .str "mean reversion")]),
  ("market", .dict [("holding_style", .str "intraday"), ("overnight_positions", .bool false),
    ("timeframe", .str "5m"), ("instruments", .dict [("preferred", preferred)])]),
  ("rules", .dict [("entry", .str "the close is above the open")]),
  ("rule_spec", .dict [
    ("language", .str "qf_rules_v1"), ("bar", .str "5m"), ("tick_size", .int 1),
    ("session", .dict [("timezone", .str "America/New_York"), ("open", .str "09:30"),
      ("close", .str "16:00")]),
    ("signals", .list [.dict [("when", .dict [("gt", .list [.str "close", .str "open"])]),
      ("side", .str "long")]]),
    ("max_trades_per_session", .int 1)])]

def sampleRuntime : PacketRuntime WholeFloat where
  jsonDumps := jsonText
  jsonLoads text :=
    if text = "five" then some (samplePacket (.int 5))
    else if text = "MES" then some (samplePacket (.list [.str "MES"]))
    else none
  sha256Hex := id
  repr := jsonText
  vbt := none
  loadFailure _ := .decodeError
  lower := id
  urlSplit _ := none
  stackFits _ := true
  isoDate _ := none

/-- The reader of the rules is `candidate_rule_spec`, and every test is screened out. -/
def samplePass : PassEnvironment WholeFloat where
  runtime := sampleRuntime
  RuleSpec := PyValue WholeFloat
  Definition := String
  Profile := Unit
  Outcome := Unit
  ruleSpecReader _ packet := (candidateRuleSpec sampleRuntime packet).mapError Raised.ofRuleError
  definition draftId _ _ _ := .ok draftId
  strategyId draftId := .ok ("rules_" ++ draftId)
  datasetProfile _ _ _ := .ok (some ())
  executor _ _ _ _ _ store := (.ok (), store)
  reported _ := .ok ⟨.stored "screened_out", .stored "screening", .null, .stored "run-1"⟩
  safeDetail := id
  recentFirst := id
  interrupted _ := false

def sampleDraft (draftId candidateJson : String) : IdeaDraft :=
  ⟨draftId, "Higher close", none, "2026-01-02T09:00:00Z", candidateJson⟩

def sampleIdeas (second : String) : PassState where
  rows := []
  store := ⟨⟨[sampleDraft "idea_0001" "five", sampleDraft "idea_0002" second], by
    simp [sampleDraft]⟩, .empty⟩

def sampleDocument : Entries WholeFloat := mapping (some (samplePacket (.int 5)))

theorem samplePacket_eligible :
    eligiblePacket sampleRuntime "five" = .ok (some (sampleDocument, none)) := by
  cases written : Persistence.canonicalJson sampleRuntime.toPythonRuntime
      (.dict sampleDocument) with
  | error message =>
      have returned : (Persistence.canonicalJson sampleRuntime.toPythonRuntime
          (.dict sampleDocument)).isOk = true := by decide +kernel
      rw [written] at returned
      cases returned
  | ok canonical =>
      have short : (Persistence.canonicalJson sampleRuntime.toPythonRuntime
          (.dict sampleDocument)).toOption.all
            (fun text => text.utf8ByteSize ≤ maxPacketChars) = true := by decide +kernel
      rw [written] at short
      have grid : variablesIssues sampleRuntime sampleDocument = .ok ([], 1) := rfl
      exact eligiblePacket_of_checks rfl rfl grid (by decide +kernel) written
        (by simpa [Except.toOption] using short) (by decide +kernel)

def sampleIdea : QueuedDraft WholeFloat := ⟨sampleDraft "idea_0001" "five", sampleDocument, none⟩

/-- The packet of `idea_0001` passes intake, its preferred instruments are the number 5, and the
campaign thread dies of the `TypeError`. -/
theorem numeric_preferred_blocks_others : ¬ Unblocked samplePass (sampleIdeas "MES") := by
  intro unblocked
  have turns := turns_of_unblocked (fun _ => rfl) unblocked
  have due : dueDrafts samplePass (sampleIdeas "MES") =
      [sampleDraft "idea_0001" "five", sampleDraft "idea_0002" "MES"] := by decide +kernel
  have eligible : eligiblePacket samplePass.runtime (sampleDraft "idea_0001" "five").candidateJson =
      .ok (some (sampleDocument, none)) := samplePacket_eligible
  rw [queuedDrafts, due, List.filterMap_cons_some (eligibleDraft_eligible eligible)] at turns
  have handled : TurnHandled samplePass sampleIdea (queuedState samplePass (sampleIdeas "MES")) :=
    turns.head
  have refused : packetMarket samplePass.runtime sampleIdea.packet =
    .error ⟨.other, "TypeError", "the object is not subscriptable"⟩ := rfl
  cases read : samplePass.ruleSpecReader sampleIdea.draft.draftId sampleIdea.packet with
  | error raised =>
      have returned : (samplePass.ruleSpecReader sampleIdea.draft.draftId
          sampleIdea.packet).isOk = true := by decide +kernel
      rw [read] at returned
      cases returned
  | ok found =>
      have hasRules : ((samplePass.ruleSpecReader sampleIdea.draft.draftId
          sampleIdea.packet).toOption.bind id).isSome = true := by decide +kernel
      rw [read] at hasRules
      cases found with
      | none => cases hasRules
      | some ruleSpec =>
          have defined : samplePass.definition sampleIdea.draft.draftId sampleIdea.draft.title
            ruleSpec (packetVariables sampleIdea) = .ok "idea_0001" := rfl
          have named : samplePass.strategyId "idea_0001" = .ok "rules_idea_0001" := rfl
          have market := handled.market rfl read defined named
          rw [refused] at market
          cases market

/-- The reader raises a `KeyError` for every idea. -/
def failingReader : PassEnvironment WholeFloat :=
  { samplePass with ruleSpecReader := fun _ _ => .error ⟨.keyError, "KeyError", "rule_spec"⟩ }

theorem failingReader_blocks_no_other : Unblocked failingReader (sampleIdeas "five") := by
  refine (one_idea_blocks_no_other failingReader (sampleIdeas "five") fun _ => rfl).mpr ⟨?_, ?_⟩
  · intro draft due
    have texts : (dueDrafts failingReader (sampleIdeas "five")).all
        (fun draft => draft.candidateJson = "five") = true := by decide +kernel
    have text : draft.candidateJson = "five" := by simpa using List.all_eq_true.mp texts draft due
    exact ⟨_, by rw [text]; exact samplePacket_eligible⟩
  · have handled : ∀ (queue : List (QueuedDraft WholeFloat)) state,
        TurnsHandled failingReader queue state := by
      intro queue
      induction queue with
      | nil => exact fun _ => trivial
      | cons idea rest ih =>
          intro state
          have listed : Listed ⟨.keyError, "KeyError", "rule_spec"⟩ := rfl
          exact ⟨fun _ => listed, ih _⟩
    exact handled _ _

end QuantFactory.Campaign
