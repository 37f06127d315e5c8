import Mathlib.Data.List.Forall2

/-!
# Computations that may raise

How a successful `Except` computation decomposes: a bind succeeds exactly when
both halves do, and a guard succeeds exactly when it does not fire.
-/

set_option autoImplicit false

namespace QuantFactory.Library

universe u v

variable {ε : Type u} {α β : Type v}

/-- `if condition: raise error`. -/
def raiseIf (condition : Bool) (error : ε) : Except ε Unit :=
  if condition then .error error else .ok ()

def orRaise (found : Option α) (error : ε) : Except ε α :=
  match found with
  | some value => .ok value
  | none => .error error

@[simp] theorem raiseIf_eq_ok {condition : Bool} {error : ε} {value : Unit} :
    raiseIf condition error = .ok value ↔ condition = false := by
  cases condition <;> simp [raiseIf]

@[simp] theorem orRaise_eq_ok {found : Option α} {error : ε} {value : α} :
    orRaise found error = .ok value ↔ found = some value := by
  cases found <;> simp [orRaise]

theorem bind_eq_ok {x : Except ε α} {f : α → Except ε β} {b : β} :
    (x >>= f) = .ok b ↔ ∃ a, x = .ok a ∧ f a = .ok b := by
  cases x with
  | error e =>
      constructor
      · intro h
        cases h
      · rintro ⟨a, h, _⟩
        cases h
  | ok a =>
      constructor
      · intro h
        exact ⟨a, rfl, h⟩
      · rintro ⟨a', h, run⟩
        cases h
        exact run

theorem bind_ok {a : α} {f : α → Except ε β} : (Except.ok a >>= f) = f a := rfl

/-- A computation behind a guard succeeds when the guard lets it through. -/
theorem raiseIf_bind_eq_ok {γ : Type} {condition : Bool} {error : ε}
    {f : Unit → Except ε γ} {value : γ} :
    (raiseIf condition error >>= f) = .ok value ↔ condition = false ∧ f () = .ok value := by
  cases condition with
  | true => simp [raiseIf, bind, Except.bind]
  | false => simp [raiseIf, bind, Except.bind]

/-- A guard before a computation that cannot fail raises its own error only. -/
theorem raiseIf_bind_error {γ : Type} {condition : Bool} {error raised : ε}
    {f : Unit → Except ε γ}
    (failed : (raiseIf condition error >>= f) = .error raised)
    (total : ∀ other, f () ≠ .error other) : raised = error := by
  cases condition with
  | true => exact (Except.error.inj failed).symm
  | false => exact absurd failed (total raised)

theorem map_eq_ok {x : Except ε α} {f : α → β} {b : β} :
    x.map f = .ok b ↔ ∃ a, x = .ok a ∧ f a = b := by
  cases x with
  | error e => simp [Except.map]
  | ok a => simp [Except.map]

theorem guard_eq_ok {p : Prop} [Decidable p] {e : ε} {x : Except ε α} {a : α} :
    (if p then .error e else x) = .ok a ↔ ¬ p ∧ x = .ok a := by
  by_cases h : p <;> simp [h]

/-- A computation for every item in turn; the first failure is raised. -/
def collect {α β : Type} (f : α → Except ε β) : List α → Except ε (List β)
  | [] => .ok []
  | item :: rest => do
      let first ← f item
      let others ← collect f rest
      .ok (first :: others)

theorem collect_eq_ok {α β : Type} {f : α → Except ε β} {items : List α} {results : List β} :
    collect f items = .ok results ↔
      List.Forall₂ (fun item result => f item = .ok result) items results := by
  induction items generalizing results with
  | nil => simp [collect, eq_comm]
  | cons item rest ih =>
      simp only [collect, bind_eq_ok, ih, List.forall₂_cons_left_iff]
      constructor
      · rintro ⟨first, firstOk, others, restOk, done⟩
        exact ⟨first, others, firstOk, restOk, (Except.ok.inj done).symm⟩
      · rintro ⟨first, others, firstOk, restOk, rfl⟩
        exact ⟨first, firstOk, others, restOk, rfl⟩

theorem collect_eq_map {α β : Type} {f : α → Except ε β} {items : List α} {results : List β}
    (collected : collect f items = .ok results) (other : α → β) :
    results = items.map (fun item => (f item).toOption.getD (other item)) ∧
      ∀ item ∈ items, f item = .ok ((f item).toOption.getD (other item)) := by
  have pairs := collect_eq_ok.mp collected
  clear collected
  induction pairs with
  | nil => simp
  | @cons item result items results itemOk rest ih =>
      obtain ⟨same, each⟩ := ih
      have first : (f item).toOption.getD (other item) = result := by
        rw [itemOk]
        rfl
      constructor
      · rw [List.map_cons, first, ← same]
      · intro other member
        rcases List.mem_cons.mp member with rfl | inRest
        · rw [first, itemOk]
        · exact each other inRest

theorem collect_image {α β γ : Type} {f : α → Except ε β} {items : List α} {results : List β}
    (collected : collect f items = .ok results) {g : β → γ} {h : α → γ}
    (kept : ∀ item result, f item = .ok result → g result = h item) :
    results.map g = items.map h := by
  have pairs := collect_eq_ok.mp collected
  clear collected
  induction pairs with
  | nil => rfl
  | cons itemOk rest ih => rw [List.map_cons, List.map_cons, kept _ _ itemOk, ih]

/-! ## What a computation may raise -/

/-- A computation raises nothing but what is allowed, and `post` holds of what it returns. -/
def Yields (allowed : ε → Prop) (post : α → Prop) : Except ε α → Prop
  | .error raised => allowed raised
  | .ok value => post value

section Yields
variable {allowed : ε → Prop} {post : α → Prop}

@[simp] theorem yields_ok {value : α} :
    Yields allowed post (.ok value : Except ε α) ↔ post value := Iff.rfl

@[simp] theorem yields_error {raised : ε} :
    Yields allowed post (.error raised : Except ε α) ↔ allowed raised := Iff.rfl

theorem yields_bind {post : β → Prop} {x : Except ε α} {f : α → Except ε β} :
    Yields allowed post (x >>= f) ↔ Yields allowed (fun a => Yields allowed post (f a)) x := by
  cases x with
  | error raised => exact Iff.rfl
  | ok a => exact Iff.rfl

theorem Yields.mono {weaker : α → Prop} {x : Except ε α} (holds : Yields allowed post x)
    (implies : ∀ a, x = .ok a → post a → weaker a) : Yields allowed weaker x := by
  cases x with
  | error raised => exact holds
  | ok a => exact implies a rfl holds

end Yields

/-! ## Related lists -/

section Related
variable {ι κ : Type} {related : ι → κ → Prop} {items : List ι} {others : List κ}

theorem forall₂_mem_left (pairs : List.Forall₂ related items others) {item : ι}
    (member : item ∈ items) : ∃ other ∈ others, related item other := by
  induction pairs with
  | nil => cases member
  | cons head _ ih =>
      rcases List.mem_cons.mp member with rfl | later
      · exact ⟨_, List.mem_cons_self, head⟩
      · obtain ⟨other, listed, found⟩ := ih later
        exact ⟨other, List.mem_cons_of_mem _ listed, found⟩

theorem forall₂_mem_right (pairs : List.Forall₂ related items others) {other : κ}
    (member : other ∈ others) : ∃ item ∈ items, related item other :=
  forall₂_mem_left pairs.flip member

end Related

/-! ## Items one by one -/

section Items
variable {ι κ μ ν : Type}

theorem toOption_bind {x : Except ε α} {f : α → Except ε β} :
    (x >>= f).toOption = x.toOption.bind fun a => (f a).toOption := by
  cases x with
  | error raised => rfl
  | ok a => rfl

theorem toOption_raiseIf_bind {condition : Bool} {error : ε} {f : Unit → Except ε ι} :
    (raiseIf condition error >>= f).toOption = if condition then none else (f ()).toOption := by
  cases condition <;> rfl

theorem toOption_collect {f : ι → Except ε κ} {items : List ι} :
    (collect f items).toOption = items.mapM fun item => (f item).toOption := by
  induction items with
  | nil => rfl
  | cons item rest ih =>
      rw [List.mapM_cons, ← ih, collect, toOption_bind]
      cases f item with
      | error raised => rfl
      | ok first =>
          change (collect f rest >>= _).toOption = _
          rw [toOption_bind]
          rfl

theorem exists_of_collect_error {f : ι → Except ε κ} {items : List ι} {raised : ε}
    (failed : collect f items = .error raised) : ∃ item ∈ items, f item = .error raised := by
  induction items with
  | nil => cases failed
  | cons item rest ih =>
      cases head : f item with
      | error other =>
          simp only [collect, head, bind, Except.bind] at failed
          cases failed
          exact ⟨item, List.mem_cons_self, head⟩
      | ok first =>
          cases others : collect f rest with
          | error other =>
              simp only [collect, head, others, bind, Except.bind] at failed
              cases failed
              obtain ⟨later, member, same⟩ := ih others
              exact ⟨later, List.mem_cons_of_mem item member, same⟩
          | ok results =>
              simp only [collect, head, others, bind, Except.bind] at failed
              cases failed

theorem collect_getElem? {f : ι → Except ε κ} {items : List ι} {results : List κ}
    (collected : collect f items = .ok results) {i : Nat} {item : ι}
    (present : items[i]? = some item) : ∃ result, results[i]? = some result ∧ f item = .ok result := by
  have pairs := collect_eq_ok.mp collected
  clear collected
  induction pairs generalizing i with
  | nil => cases present
  | cons head _ ih =>
      cases i with
      | zero =>
          cases present
          exact ⟨_, rfl, head⟩
      | succ i => exact ih present

theorem ok_of_collect {f : ι → Except ε κ} {items : List ι} {results : List κ} {item : ι}
    (collected : collect f items = .ok results) (member : item ∈ items) :
    ∃ result, f item = .ok result := by
  obtain ⟨i, inside, rfl⟩ := List.getElem_of_mem member
  obtain ⟨result, _, ok⟩ := collect_getElem? collected (List.getElem?_eq_getElem inside)
  exact ⟨result, ok⟩

theorem collect_total {f : ι → Except ε κ} {items : List ι}
    (each : ∀ item ∈ items, ∃ result, f item = .ok result) :
    ∃ results, collect f items = .ok results := by
  cases run : collect f items with
  | ok results => exact ⟨results, rfl⟩
  | error raised =>
      obtain ⟨item, member, failed⟩ := exists_of_collect_error run
      obtain ⟨result, ok⟩ := each item member
      rw [failed] at ok
      cases ok

theorem collect_fails {f : ι → Except ε κ} {items : List ι} {item : ι} {raised : ε}
    (member : item ∈ items) (failed : f item = .error raised) :
    ∃ other, collect f items = .error other := by
  cases run : collect f items with
  | error other => exact ⟨other, rfl⟩
  | ok results =>
      obtain ⟨result, ok⟩ := ok_of_collect run member
      rw [failed] at ok
      cases ok

theorem collect_congr {f g : ι → Except ε κ} {items : List ι}
    (same : ∀ item ∈ items, f item = g item) : collect f items = collect g items := by
  induction items with
  | nil => rfl
  | cons item rest ih =>
      rw [collect, collect, same item List.mem_cons_self,
        ih fun other member => same other (List.mem_cons_of_mem item member)]

theorem mapM_congr {f g : ι → Option κ} {items : List ι}
    (same : ∀ item ∈ items, f item = g item) : items.mapM f = items.mapM g := by
  induction items with
  | nil => rfl
  | cons item rest ih =>
      rw [List.mapM_cons, List.mapM_cons, same item List.mem_cons_self,
        ih fun other member => same other (List.mem_cons_of_mem item member)]

theorem mapM_none_of_mem {f : ι → Option κ} {items : List ι} {item : ι} (member : item ∈ items)
    (failed : f item = none) : items.mapM f = none := by
  induction items with
  | nil => cases member
  | cons first rest ih =>
      rw [List.mapM_cons]
      rcases List.mem_cons.mp member with rfl | inRest
      · rw [failed]
        rfl
      · rw [ih inRest]
        cases f first <;> rfl

theorem exists_of_mapM_none {f : ι → Option κ} {items : List ι} (failed : items.mapM f = none) :
    ∃ item ∈ items, f item = none := by
  by_contra all
  push Not at all
  induction items with
  | nil => cases failed
  | cons first rest ih =>
      rw [List.mapM_cons] at failed
      obtain ⟨result, found⟩ := Option.ne_none_iff_exists'.mp (all first List.mem_cons_self)
      cases others : rest.mapM f with
      | none =>
          exact ih others fun item member => all item (List.mem_cons_of_mem first member)
      | some results => simp [found, others] at failed

theorem mem_zip_of_mapM {f : ι → Option κ} {items : List ι} {results : List κ}
    (all : items.mapM f = some results) {pair : ι × κ} (member : pair ∈ items.zip results) :
    f pair.1 = some pair.2 := by
  induction items generalizing results with
  | nil => cases member
  | cons first rest ih =>
      rw [List.mapM_cons] at all
      cases head : f first with
      | none => simp [head] at all
      | some result =>
          cases tail : rest.mapM f with
          | none => simp [head, tail] at all
          | some others =>
              have same : results = result :: others := by
                simpa [head, tail, eq_comm] using all
              subst same
              rcases List.mem_cons.mp member with rfl | inRest
              · exact head
              · exact ih tail inRest

theorem exists_of_mem_mapM {f : ι → Option κ} {items : List ι} {results : List κ}
    (all : items.mapM f = some results) {result : κ} (member : result ∈ results) :
    ∃ item ∈ items, f item = some result := by
  induction items generalizing results with
  | nil =>
      cases all
      cases member
  | cons first rest ih =>
      rw [List.mapM_cons] at all
      cases head : f first with
      | none => simp [head] at all
      | some value =>
          cases tail : rest.mapM f with
          | none => simp [head, tail] at all
          | some others =>
              have same : results = value :: others := by
                simpa [head, tail, eq_comm] using all
              subst same
              rcases List.mem_cons.mp member with rfl | inRest
              · exact ⟨first, List.mem_cons_self, head⟩
              · obtain ⟨item, listed, found⟩ := ih tail inRest
                exact ⟨item, List.mem_cons_of_mem first listed, found⟩

theorem length_of_mapM {f : ι → Option κ} {items : List ι} {results : List κ}
    (all : items.mapM f = some results) : results.length = items.length := by
  induction items generalizing results with
  | nil => cases all; rfl
  | cons first rest ih =>
      rw [List.mapM_cons] at all
      cases head : f first with
      | none => simp [head] at all
      | some result =>
          cases tail : rest.mapM f with
          | none => simp [head, tail] at all
          | some others =>
              have same : results = result :: others := by
                simpa [head, tail, eq_comm] using all
              rw [same, List.length_cons, List.length_cons, ih tail]

theorem mapM_cons_some {f : ι → Option κ} {item : ι} {rest : List ι} {result : κ}
    (head : f item = some result) :
    (item :: rest).mapM f = (rest.mapM f).map (result :: ·) := by
  rw [List.mapM_cons, head]
  cases rest.mapM f <;> rfl

theorem mapM_pairs (f : ι → Option κ) (g : ι × κ → Option μ) (items : List ι) :
    ((items.mapM f).bind fun results => (items.zip results).mapM g) =
      items.mapM fun item => (f item).bind fun result => g (item, result) := by
  induction items with
  | nil => rfl
  | cons item rest ih =>
      cases head : f item with
      | none =>
          rw [mapM_none_of_mem List.mem_cons_self head,
            mapM_none_of_mem List.mem_cons_self (by simp [head])]
          rfl
      | some first =>
          rw [mapM_cons_some head, List.mapM_cons, ← ih, head]
          cases rest.mapM f with
          | none => cases second : g (item, first) <;> simp [second]
          | some others => simp [List.mapM_cons]

/-- A second pass over the results keeps what each item gives together. -/
theorem mapM_results (f : ι → Option κ) (g : κ → Option μ) (items : List ι) :
    ((items.mapM f).bind fun first => (first.mapM g).map fun second => (first, second)) =
      (items.mapM fun item => (f item).bind fun a => (g a).map fun b => (a, b)).map fun pairs =>
        (pairs.map Prod.fst, pairs.map Prod.snd) := by
  induction items with
  | nil => rfl
  | cons item rest ih =>
      cases head : f item with
      | none =>
          rw [mapM_none_of_mem List.mem_cons_self head,
            mapM_none_of_mem List.mem_cons_self (by simp [head])]
          rfl
      | some a =>
          rw [mapM_cons_some head]
          cases second : g a with
          | none =>
              rw [mapM_none_of_mem List.mem_cons_self (by simp [head, second])]
              cases rest.mapM f with
              | none => rfl
              | some others =>
                  simp [mapM_none_of_mem List.mem_cons_self second]
          | some b =>
              have extended : ((item :: rest).mapM fun item => (f item).bind fun a =>
                  (g a).map fun b => (a, b)) = (rest.mapM fun item => (f item).bind fun a =>
                    (g a).map fun b => (a, b)).map ((a, b) :: ·) :=
                mapM_cons_some (by simp [head, second])
              have longer := congrArg (Option.map fun pair => (a :: pair.1, b :: pair.2)) ih
              rw [extended, Option.map_map]
              rw [Option.map_map] at longer
              refine Eq.trans ?_ longer
              cases rest.mapM f with
              | none => rfl
              | some others =>
                  change ((a :: others).mapM g).map _ = _
                  rw [mapM_cons_some second, Option.bind_some]
                  cases others.mapM g <;> rfl

theorem mapM_map_results (f : ι → Option κ) (g : κ → μ) (items : List ι) :
    (items.mapM fun item => (f item).map g) = (items.mapM f).map (List.map g) := by
  induction items with
  | nil => rfl
  | cons item rest ih =>
      rw [List.mapM_cons, List.mapM_cons, ih]
      cases f item with
      | none => rfl
      | some first => cases rest.mapM f <;> rfl

theorem mapM_guard (f : ι → Option κ) (p : κ → Bool) (items : List ι) :
    ((items.mapM f).bind fun results => if results.all p then some results else none) =
      items.mapM fun item => (f item).bind fun result => if p result then some result else none := by
  induction items with
  | nil => rfl
  | cons item rest ih =>
      cases head : f item with
      | none =>
          rw [mapM_none_of_mem List.mem_cons_self head,
            mapM_none_of_mem List.mem_cons_self (by simp [head])]
          rfl
      | some first =>
          rw [mapM_cons_some head]
          cases holds : p first with
          | false =>
              rw [mapM_none_of_mem List.mem_cons_self (by simp [head, holds])]
              cases rest.mapM f <;> simp [holds]
          | true =>
              have extended : ((item :: rest).mapM fun item => (f item).bind fun result =>
                  if p result then some result else none) = (rest.mapM fun item =>
                    (f item).bind fun result => if p result then some result else none).map
                      (first :: ·) :=
                mapM_cons_some (by simp [head, holds])
              rw [extended, ← ih]
              cases rest.mapM f with
              | none => rfl
              | some others =>
                  simp only [Option.map_some, Option.bind_some, List.all_cons, holds, Bool.true_and]
                  split <;> rfl

end Items

def untilError : List (Except ε α) → List α × Option ε
  | [] => ([], none)
  | .error raised :: _ => ([], some raised)
  | .ok result :: rest => (result :: (untilError rest).1, (untilError rest).2)

end QuantFactory.Library
