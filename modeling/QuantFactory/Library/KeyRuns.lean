import Mathlib

/-!
# Grouping a stream by its key

A loop keeps the items of the present key and sets the group down when the key changes,
and once more behind the last item.  Nothing is lost or moved by that.  When the keys
never go back, the groups are the fibres of the key, in strictly increasing order.
-/

set_option autoImplicit false

namespace QuantFactory.Library

universe u v

/-- Nothing read yet, or the groups set down and the one being read. -/
inductive KeyRuns (κ : Type u) (α : Type v) where
  | start
  | reading (finished : List (κ × List α)) (bucket : κ) (group : List α)

variable {α : Type v} {κ : Type u}

namespace KeyRuns

def groups : KeyRuns κ α → List (κ × List α)
  | .start => []
  | .reading finished bucket group => finished ++ [(bucket, group)]

def read [DecidableEq κ] (key : α → κ) : KeyRuns κ α → α → KeyRuns κ α
  | .start, item => .reading [] (key item) [item]
  | .reading finished bucket group, item =>
      if key item = bucket then .reading finished bucket (group ++ [item])
      else .reading (finished ++ [(bucket, group)]) (key item) [item]

end KeyRuns

def keyRuns [DecidableEq κ] (key : α → κ) (items : List α) : List (κ × List α) :=
  (items.foldl (KeyRuns.read key) KeyRuns.start).groups

theorem filter_key_eq_singleton [DecidableEq κ] {key : α → κ} {items : List α}
    (once : (items.map key).Nodup) {item : α} (member : item ∈ items) :
    items.filter (fun other => key other = key item) = [item] := by
  induction items with
  | nil => cases member
  | cons first rest ih =>
      obtain ⟨new, later⟩ := List.nodup_cons.mp once
      rcases List.mem_cons.mp member with rfl | member
      · have none : rest.filter (fun other => key other = key item) = [] := by
          apply List.filter_eq_nil_iff.mpr
          intro other within same
          apply new
          rw [← of_decide_eq_true same]
          exact List.mem_map_of_mem within
        rw [List.filter_cons_of_pos (by simp), none]
      · have other : key first ≠ key item := by
          intro same
          apply new
          rw [same]
          exact List.mem_map_of_mem member
        rw [List.filter_cons_of_neg (by simpa using other)]
        exact ih later member

def Keyed (key : α → κ) (groups : List (κ × List α)) : Prop :=
  ∀ group ∈ groups, group.2 ≠ [] ∧ ∀ item ∈ group.2, key item = group.1

section Keyed
variable {key : α → κ}

theorem keyed_append {front back : List (κ × List α)} :
    Keyed key (front ++ back) ↔ Keyed key front ∧ Keyed key back := by
  simp only [Keyed, List.mem_append]
  constructor
  · intro all
    exact ⟨fun group member => all group (.inl member), fun group member => all group (.inr member)⟩
  · rintro ⟨first, second⟩ group (member | member)
    · exact first group member
    · exact second group member

theorem Keyed.tail {group : κ × List α} {rest : List (κ × List α)}
    (keyed : Keyed key (group :: rest)) : Keyed key rest :=
  fun other member => keyed other (List.mem_cons_of_mem _ member)

theorem Keyed.filter_flatMap {groups : List (κ × List α)} (keyed : Keyed key groups)
    (p : κ → Bool) :
    (groups.flatMap Prod.snd).filter (fun item => p (key item)) =
      (groups.filter fun group => p group.1).flatMap Prod.snd := by
  induction groups with
  | nil => rfl
  | cons group rest ih =>
      have inside := (keyed group List.mem_cons_self).2
      rw [List.flatMap_cons, List.filter_append, ih keyed.tail]
      cases chosen : p group.1 with
      | true =>
          have all : group.2.filter (fun item => p (key item)) = group.2 := by
            apply List.filter_eq_self.mpr
            intro item member
            rw [inside item member, chosen]
          simp only [List.filter_cons, chosen, if_true, List.flatMap_cons, all]
      | false =>
          have none : group.2.filter (fun item => p (key item)) = [] := by
            apply List.filter_eq_nil_iff.mpr
            intro item member
            rw [inside item member, chosen]
            exact Bool.false_ne_true
          simp only [List.filter_cons, chosen, none, List.nil_append]
          rfl

theorem Keyed.group_eq_filter [DecidableEq κ] {groups : List (κ × List α)}
    (keyed : Keyed key groups) (once : (groups.map Prod.fst).Nodup) {group : κ × List α}
    (member : group ∈ groups) :
    group.2 = (groups.flatMap Prod.snd).filter fun item => key item = group.1 := by
  have chosen := filter_key_eq_singleton once member
  rw [keyed.filter_flatMap (fun bucket => decide (bucket = group.1)), chosen]
  simp

end Keyed

section Stream
variable [DecidableEq κ] {key : α → κ}

/-- What one item does to the groups: it joins the last one, or opens a new one. -/
theorem KeyRuns.read_groups (key : α → κ) (runs : KeyRuns κ α) (item : α) :
    (∃ before group, runs.groups = before ++ [(key item, group)] ∧
      (runs.read key item).groups = before ++ [(key item, group ++ [item])]) ∨
    (runs.read key item).groups = runs.groups ++ [(key item, [item])] ∧
      ∀ before last, runs.groups = before ++ [last] → last.1 ≠ key item := by
  cases runs with
  | start =>
      right
      refine ⟨rfl, fun before last ends => ?_⟩
      simp [KeyRuns.groups] at ends
  | reading finished bucket group =>
      by_cases same : key item = bucket
      · subst same
        left
        exact ⟨finished, group, rfl, by simp [KeyRuns.read, KeyRuns.groups]⟩
      · right
        refine ⟨by simp [KeyRuns.read, KeyRuns.groups, same], fun before last ends equal => ?_⟩
        have last_eq := (List.append_inj' ends rfl).2
        simp only [List.cons.injEq, and_true] at last_eq
        subst last_eq
        exact same equal.symm

theorem KeyRuns.read_flatMap (runs : KeyRuns κ α) (item : α) :
    (runs.read key item).groups.flatMap Prod.snd = runs.groups.flatMap Prod.snd ++ [item] := by
  obtain ⟨before, group, was, is⟩ | ⟨is, -⟩ := runs.read_groups key item
  · rw [was, is]
    simp
  · rw [is]
    simp

theorem KeyRuns.read_keyed {runs : KeyRuns κ α} (keyed : Keyed key runs.groups) (item : α) :
    Keyed key (runs.read key item).groups := by
  obtain ⟨before, group, was, is⟩ | ⟨is, -⟩ := runs.read_groups key item
  · rw [was, keyed_append] at keyed
    rw [is, keyed_append]
    refine ⟨keyed.1, ?_⟩
    rintro last (- | ⟨-, ⟨⟩⟩)
    refine ⟨by simp, fun other member => ?_⟩
    rcases List.mem_append.mp member with member | member
    · exact (keyed.2 _ List.mem_cons_self).2 other member
    · rw [List.mem_singleton.mp member]
  · rw [is, keyed_append]
    refine ⟨keyed, ?_⟩
    rintro last (- | ⟨-, ⟨⟩⟩)
    refine ⟨by simp, fun other member => ?_⟩
    rw [List.mem_singleton.mp member]

theorem KeyRuns.foldl_flatMap (runs : KeyRuns κ α) (items : List α) :
    (items.foldl (KeyRuns.read key) runs).groups.flatMap Prod.snd =
      runs.groups.flatMap Prod.snd ++ items := by
  induction items generalizing runs with
  | nil => simp
  | cons item rest ih => rw [List.foldl_cons, ih, runs.read_flatMap, List.append_assoc]; rfl

theorem KeyRuns.foldl_keyed {runs : KeyRuns κ α} (keyed : Keyed key runs.groups)
    (items : List α) : Keyed key (items.foldl (KeyRuns.read key) runs).groups := by
  induction items generalizing runs with
  | nil => exact keyed
  | cons item rest ih => exact ih (KeyRuns.read_keyed keyed item)

theorem keyRuns_congr {other : α → κ} {items : List α}
    (same : ∀ item ∈ items, key item = other item) : keyRuns key items = keyRuns other items := by
  have step : ∀ runs : KeyRuns κ α,
      items.foldl (KeyRuns.read key) runs = items.foldl (KeyRuns.read other) runs := by
    induction items with
    | nil => exact fun _ => rfl
    | cons item rest ih =>
        intro runs
        have read : runs.read key item = runs.read other item := by
          cases runs <;> simp [KeyRuns.read, same item List.mem_cons_self]
        rw [List.foldl_cons, List.foldl_cons, read]
        exact ih (fun later member => same later (List.mem_cons_of_mem _ member)) _
  rw [keyRuns, keyRuns, step]

theorem keyRuns_flatMap (key : α → κ) (items : List α) :
    (keyRuns key items).flatMap Prod.snd = items := by
  rw [keyRuns, KeyRuns.foldl_flatMap]
  rfl

theorem keyRuns_keyed (key : α → κ) (items : List α) : Keyed key (keyRuns key items) := by
  apply KeyRuns.foldl_keyed
  intro group member
  cases member

theorem mem_keyRuns_keys (key : α → κ) (items : List α) (bucket : κ) :
    bucket ∈ (keyRuns key items).map Prod.fst ↔ ∃ item ∈ items, key item = bucket := by
  have keyed := keyRuns_keyed key items
  have whole := keyRuns_flatMap key items
  constructor
  · intro member
    obtain ⟨group, inside, rfl⟩ := List.mem_map.mp member
    obtain ⟨some, same⟩ := keyed group inside
    obtain ⟨item, first⟩ := List.exists_mem_of_ne_nil _ some
    refine ⟨item, ?_, same item first⟩
    rw [← whole]
    exact List.mem_flatMap.mpr ⟨group, inside, first⟩
  · rintro ⟨item, member, rfl⟩
    rw [← whole] at member
    obtain ⟨group, inside, first⟩ := List.mem_flatMap.mp member
    rw [(keyed group inside).2 item first]
    exact List.mem_map_of_mem inside

end Stream

section Sorted
variable [LinearOrder κ] {key : α → κ}

/-- While no later key goes back, the keys of the groups increase strictly. -/
theorem KeyRuns.foldl_keys_increase {items : List α}
    (sorted : items.Pairwise fun a b => key a ≤ key b) {runs : KeyRuns κ α}
    (increase : (runs.groups.map Prod.fst).Pairwise (· < ·))
    (behind : ∀ group ∈ runs.groups, ∀ item ∈ items, group.1 ≤ key item) :
    ((items.foldl (KeyRuns.read key) runs).groups.map Prod.fst).Pairwise (· < ·) := by
  induction items generalizing runs with
  | nil => exact increase
  | cons item rest ih =>
      obtain ⟨ahead, sorted⟩ := List.pairwise_cons.mp sorted
      apply ih sorted
      · obtain ⟨before, group, was, is⟩ | ⟨is, changed⟩ := runs.read_groups key item
        · rw [was, List.map_append] at increase
          rw [is, List.map_append]
          exact increase
        · rw [is, List.map_append]
          refine List.pairwise_append.mpr ⟨increase, List.pairwise_singleton _ _, ?_⟩
          intro bucket member next last
          rw [List.map_singleton, List.mem_singleton] at last
          subst last
          obtain ⟨group, inside, rfl⟩ := List.mem_map.mp member
          -- the last key is not the new one, and no other key is above the last
          rcases List.eq_nil_or_concat runs.groups with none | ⟨before, final, ends⟩
          · rw [none] at inside
            cases inside
          · rw [List.concat_eq_append] at ends
            have below : final.1 < key item :=
              lt_of_le_of_ne (behind final (by rw [ends]; simp) item List.mem_cons_self)
                (changed before final ends)
            rw [ends] at inside increase
            rcases List.mem_append.mp inside with earlier | same
            · rw [List.map_append, List.pairwise_append] at increase
              exact (increase.2.2 _ (List.mem_map_of_mem earlier) final.1 (by simp)).trans below
            · rw [List.mem_singleton.mp same]
              exact below
      · obtain ⟨before, group, was, is⟩ | ⟨is, -⟩ := runs.read_groups key item
        · intro other member later within
          rw [is] at member
          rcases List.mem_append.mp member with member | member
          · exact behind other (by rw [was]; simp [member]) later (List.mem_cons_of_mem _ within)
          · rw [List.mem_singleton.mp member]
            exact ahead later within
        · intro other member later within
          rw [is] at member
          rcases List.mem_append.mp member with member | member
          · exact behind other member later (List.mem_cons_of_mem _ within)
          · rw [List.mem_singleton.mp member]
            exact ahead later within

variable {items : List α} (sorted : items.Pairwise fun a b => key a ≤ key b)

include sorted

theorem keyRuns_keys_increase : ((keyRuns key items).map Prod.fst).Pairwise (· < ·) :=
  KeyRuns.foldl_keys_increase sorted List.Pairwise.nil fun _ member => by cases member

theorem keyRuns_group_eq_filter {group : κ × List α} (member : group ∈ keyRuns key items) :
    group.2 = items.filter fun item => key item = group.1 := by
  have once : ((keyRuns key items).map Prod.fst).Nodup :=
    (keyRuns_keys_increase sorted).imp ne_of_lt
  have fibre := (keyRuns_keyed key items).group_eq_filter once member
  rw [keyRuns_flatMap] at fibre
  exact fibre

theorem fibres_flatMap {keys : List κ} (increase : keys.Pairwise (· < ·))
    (all : ∀ bucket, bucket ∈ keys ↔ ∃ item ∈ items, key item = bucket) :
    keys.flatMap (fun bucket => items.filter fun item => key item = bucket) = items := by
  have same : (keyRuns key items).map Prod.fst = keys := by
    have runs := keyRuns_keys_increase sorted
    refine List.Perm.eq_of_pairwise ?_ runs increase ?_
    · intro a b _ _ ab ba
      exact absurd ab ba.asymm
    · apply (List.perm_ext_iff_of_nodup (runs.imp ne_of_lt) (increase.imp ne_of_lt)).mpr
      intro bucket
      rw [mem_keyRuns_keys, all]
  have whole := keyRuns_flatMap key items
  rw [← same, List.flatMap_map]
  calc (keyRuns key items).flatMap (fun group => items.filter fun item => key item = group.1)
      = (keyRuns key items).flatMap Prod.snd :=
        List.flatMap_congr fun group member => (keyRuns_group_eq_filter sorted member).symm
    _ = items := whole

end Sorted

end QuantFactory.Library
