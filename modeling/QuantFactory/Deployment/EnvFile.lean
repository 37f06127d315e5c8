import QuantFactory.Python.Lines
import QuantFactory.Python.Text

/-!
# The revision line of the compose `.env`

`set_env_revision` and `env_revision` of `deployment/release/qf_deploy.py`, on
the text `read_text` gives.
-/

set_option autoImplicit false

namespace QuantFactory.Deployment

open QuantFactory.Python

abbrev Text := List Char

/-- `FULL_SHA.fullmatch`. -/
def isFullSha (revision : Text) : Bool :=
  revision.length = 40 && revision.all fun c => c.isDigit || ('a' ≤ c && c ≤ 'f')

def revisionKey : Text := "QF_REVISION=".toList

def isRevisionLine (line : Text) : Bool := revisionKey.isPrefixOf line

def revisionLine (revision : Text) : Text := revisionKey ++ revision

def setEnvRevision (text revision : Text) : Except String Text :=
  if isFullSha revision then
    let lines := splitLinesKeep text
    if lines.countP isRevisionLine = 1 then
      .ok (lines.set (lines.findIdx isRevisionLine) (revisionLine revision ++ ['\n'])).flatten
    else .error "expected exactly one QF_REVISION line in the compose .env"
  else .error "not a full commit sha"

def envLine (text : Text) : Option Text := (splitLines text).find? isRevisionLine

def envRevision (text : Text) : Option Text :=
  (envLine text).bind fun line =>
    let value := stripChars (line.drop revisionKey.length)
    if isFullSha value then some value else none

/-! ## Lemmas -/

theorem isFullSha_char {revision : Text} (full : isFullSha revision = true) {c : Char}
    (member : c ∈ revision) : (48 ≤ c.toNat ∧ c.toNat ≤ 57) ∨ (97 ≤ c.toNat ∧ c.toNat ≤ 102) := by
  unfold isFullSha at full
  have each := List.all_eq_true.mp (Bool.and_eq_true_iff.mp full).2 c member
  rcases Bool.or_eq_true_iff.mp each with digit | letter
  · left
    simp only [Char.isDigit, Bool.and_eq_true, decide_eq_true_eq] at digit
    exact digit
  · right
    simp only [Bool.and_eq_true, decide_eq_true_eq] at letter
    exact letter

theorem isFullSha_noBreak {revision : Text} (full : isFullSha revision = true) {c : Char}
    (member : c ∈ revision) : isLineBreak c = false := by
  have code := isFullSha_char full member
  simp only [isLineBreak, Bool.or_eq_false_iff, Bool.and_eq_false_iff, decide_eq_false_iff_not,
    beq_eq_false_iff_ne]
  omega

theorem isFullSha_noSpace {revision : Text} (full : isFullSha revision = true) {c : Char}
    (member : c ∈ revision) : isSpace c = false := by
  have code := isFullSha_char full member
  simp only [isSpace, Bool.or_eq_false_iff, Bool.and_eq_false_iff, decide_eq_false_iff_not,
    beq_eq_false_iff_ne]
  omega

theorem revisionLine_noBreak {revision : Text} (full : isFullSha revision = true) {c : Char}
    (member : c ∈ revisionLine revision) : isLineBreak c = false := by
  rcases List.mem_append.mp member with key | value
  · have solid : (revisionKey.all fun c => !isLineBreak c) = true := by decide
    exact Bool.not_eq_true' _ ▸ List.all_eq_true.mp solid c key
  · exact isFullSha_noBreak full value

theorem stripChars_solid {chars : Text} (solid : ∀ c ∈ chars, isSpace c = false) :
    stripChars chars = chars := by
  have kept : ∀ part : Text, (∀ c ∈ part, isSpace c = false) → part.dropWhile isSpace = part := by
    intro part none
    cases part with
    | nil => rfl
    | cons c rest => simp [none c List.mem_cons_self]
  unfold stripChars
  rw [kept chars solid, kept chars.reverse (by simpa using solid), List.reverse_reverse]

theorem one_revision_line {lines : List Text} (one : lines.countP isRevisionLine = 1) :
    ∃ before old after, lines = before ++ old :: after ∧ isRevisionLine old = true ∧
      (∀ line ∈ before, isRevisionLine line = false) ∧
      ∀ line ∈ after, isRevisionLine line = false := by
  induction lines with
  | nil => simp at one
  | cons line rest ih =>
      by_cases hit : isRevisionLine line = true
      · have none : rest.countP isRevisionLine = 0 := by
          rw [List.countP_cons_of_pos hit] at one
          omega
        refine ⟨[], line, rest, rfl, hit, by simp, ?_⟩
        simpa [List.countP_eq_zero] using none
      · rw [List.countP_cons_of_neg hit] at one
        obtain ⟨before, old, after, rfl, found, earlier, later⟩ := ih one
        refine ⟨line :: before, old, after, rfl, found, ?_, later⟩
        intro other member
        rcases List.mem_cons.mp member with rfl | inBefore
        · simpa using hit
        · exact earlier other inBefore

theorem findIdx_revision {before after : List Text} {old : Text}
    (earlier : ∀ line ∈ before, isRevisionLine line = false) (found : isRevisionLine old = true) :
    (before ++ old :: after).findIdx isRevisionLine = before.length := by
  rw [List.findIdx_append]
  have none : before.findIdx isRevisionLine = before.length := by
    rw [List.findIdx_eq_length]
    exact earlier
  rw [none, if_neg (Nat.lt_irrefl _), List.findIdx_cons, found]
  simp

theorem isRevisionLine_starts {line : Text} (found : isRevisionLine line = true) :
    ∃ rest, line = revisionKey ++ rest := by
  obtain ⟨rest, same⟩ := List.isPrefixOf_iff_prefix.mp found
  exact ⟨rest, same.symm⟩

theorem isRevisionLine_revisionLine (revision tail : Text) :
    isRevisionLine (revisionLine revision ++ tail) = true := by
  apply List.isPrefixOf_iff_prefix.mpr
  exact ⟨revision ++ tail, by simp [revisionLine]⟩

theorem isRevisionLine_lineText (line : Text) :
    isRevisionLine (lineText line) = isRevisionLine line := by
  rw [Bool.eq_iff_iff]
  constructor
  · intro found
    obtain ⟨rest, same⟩ := List.isPrefixOf_iff_prefix.mp found
    apply List.isPrefixOf_iff_prefix.mpr
    exact (List.IsPrefix.trans ⟨rest, same⟩ (List.takeWhile_prefix _))
  · intro found
    obtain ⟨rest, rfl⟩ := isRevisionLine_starts found
    apply List.isPrefixOf_iff_prefix.mpr
    unfold lineText
    rw [List.takeWhile_append_of_pos (List.all_eq_true.mp (by decide))]
    exact List.prefix_append _ _

/-- The lines a written revision leaves: its own line in the place of the old one. -/
structure RevisionWritten (text written revision : Text) : Prop where
  lines : ∃ before old after, splitLinesKeep text = before ++ old :: after ∧
    splitLinesKeep written = before ++ (revisionLine revision ++ ['\n']) :: after ∧
    isRevisionLine old = true ∧ (∀ line ∈ before, isRevisionLine line = false) ∧
    ∀ line ∈ after, isRevisionLine line = false
  full : isFullSha revision = true

theorem setEnvRevision_written {text revision written : Text}
    (same : setEnvRevision text revision = .ok written) :
    RevisionWritten text written revision := by
  unfold setEnvRevision at same
  split at same
  · rename_i full
    dsimp only at same
    split at same
    · rename_i one
      obtain ⟨before, old, after, split, found, earlier, later⟩ := one_revision_line one
      refine ⟨⟨before, old, after, split, ?_, found, earlier, later⟩, full⟩
      rw [split, findIdx_revision earlier found] at same
      cases same
      rw [List.set_append_right _ _ (Nat.le_refl _), Nat.sub_self, List.set_cons_zero]
      have starts : (revisionLine revision ++ ['\n']).head? = old.head? := by
        obtain ⟨rest, rfl⟩ := isRevisionLine_starts found
        rfl
      exact splitLinesKeep_replace (fun c member => revisionLine_noBreak full member) starts
        before text split
    · cases same
  · cases same

theorem find?_middle {before after : List Text} {line : Text}
    (earlier : ∀ other ∈ before, isRevisionLine other = false)
    (found : isRevisionLine line = true) :
    ((before ++ line :: after).map lineText).find? isRevisionLine = some (lineText line) := by
  rw [List.map_append, List.map_cons, List.find?_append]
  have none : (before.map lineText).find? isRevisionLine = none := by
    rw [List.find?_eq_none]
    intro text member
    obtain ⟨other, inBefore, rfl⟩ := List.mem_map.mp member
    rw [isRevisionLine_lineText, earlier other inBefore]
    exact Bool.false_ne_true
  rw [none, List.find?_cons_of_pos (by rw [isRevisionLine_lineText]; exact found)]
  rfl

theorem RevisionWritten.line {text written revision : Text}
    (done : RevisionWritten text written revision) :
    envLine written = some (revisionLine revision) := by
  obtain ⟨before, old, after, -, split, -, earlier, -⟩ := done.lines
  unfold envLine splitLines
  rw [split, find?_middle earlier (isRevisionLine_revisionLine revision ['\n']),
    lineText_newline _ (fun c member => revisionLine_noBreak done.full member)]

theorem RevisionWritten.rewrite {text written revision : Text}
    (done : RevisionWritten text written revision) {other : Text} (full : isFullSha other = true) :
    ∃ again, setEnvRevision written other = .ok again := by
  obtain ⟨before, old, after, -, split, -, earlier, later⟩ := done.lines
  have one : (splitLinesKeep written).countP isRevisionLine = 1 := by
    have noneBefore : before.countP isRevisionLine = 0 := by
      simpa [List.countP_eq_zero] using earlier
    have noneAfter : after.countP isRevisionLine = 0 := by
      simpa [List.countP_eq_zero] using later
    rw [split, List.countP_append, List.countP_cons_of_pos
      (isRevisionLine_revisionLine revision ['\n']), noneBefore, noneAfter]
  unfold setEnvRevision
  rw [if_pos full]
  dsimp only
  rw [if_pos one]
  exact ⟨_, rfl⟩

theorem setEnvRevision_other {text revision written other : Text}
    (same : setEnvRevision text revision = .ok written) (full : isFullSha other = true) :
    ∃ again, setEnvRevision text other = .ok again := by
  unfold setEnvRevision at same ⊢
  split at same
  · rw [if_pos full]
    dsimp only at same ⊢
    split at same
    · rename_i one
      rw [if_pos one]
      exact ⟨_, rfl⟩
    · cases same
  · cases same

theorem envRevision_full {text revision : Text} (named : envRevision text = some revision) :
    isFullSha revision = true := by
  unfold envRevision at named
  obtain ⟨line, -, same⟩ := Option.bind_eq_some_iff.mp named
  dsimp only at same
  split at same
  · cases same
    assumption
  · cases same

theorem envRevision_of_line {text revision : Text} (full : isFullSha revision = true)
    (line : envLine text = some (revisionLine revision)) : envRevision text = some revision := by
  have value : stripChars ((revisionLine revision).drop revisionKey.length) = revision := by
    rw [revisionLine, List.drop_left]
    exact stripChars_solid (fun c member => isFullSha_noSpace full member)
  unfold envRevision
  rw [line, Option.bind_some]
  dsimp only
  rw [value, if_pos full]

end QuantFactory.Deployment
