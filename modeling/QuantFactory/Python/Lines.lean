import Mathlib.Data.List.Basic

/-!
# Python lines

`str.splitlines` with and without the line ends, and what a text splits into
after one of its lines has been written anew.
-/

set_option autoImplicit false

namespace QuantFactory.Python

/-- The characters at which `str.splitlines` ends a line. -/
def isLineBreak (c : Char) : Bool :=
  let n := c.toNat
  (10 ≤ n && n ≤ 13) || (28 ≤ n && n ≤ 30) || n == 0x85 || n == 0x2028 || n == 0x2029

def consLine (c : Char) : List (List Char) → List (List Char)
  | [] => [[c]]
  | line :: rest => (c :: line) :: rest

/-- `text.splitlines(keepends=True)`. -/
def splitLinesKeep : List Char → List (List Char)
  | [] => []
  | '\r' :: '\n' :: rest => ['\r', '\n'] :: splitLinesKeep rest
  | c :: rest =>
      if isLineBreak c then [c] :: splitLinesKeep rest else consLine c (splitLinesKeep rest)

def lineText (line : List Char) : List Char := line.takeWhile fun c => !isLineBreak c

def splitLines (text : List Char) : List (List Char) := (splitLinesKeep text).map lineText

theorem splitLinesKeep_break {c : Char} (broken : isLineBreak c = true) {rest : List Char}
    (alone : ¬ (c = '\r' ∧ rest.head? = some '\n')) :
    splitLinesKeep (c :: rest) = [c] :: splitLinesKeep rest := by
  rw [splitLinesKeep, if_pos broken]
  intro rest' returned next
  exact alone ⟨returned, by rw [next]; rfl⟩

theorem splitLinesKeep_solid {c : Char} (solid : isLineBreak c = false) (rest : List Char) :
    splitLinesKeep (c :: rest) = consLine c (splitLinesKeep rest) := by
  rw [splitLinesKeep, if_neg (by rw [solid]; exact Bool.false_ne_true)]
  rintro rest' rfl
  exact absurd solid (by decide)

/-- What the first line of a text is, whatever begins the text behind it the same way. -/
structure FirstLine (text line rest : List Char) : Prop where
  whole : text = line ++ rest
  solid : line ≠ []
  splits : ∀ other : List Char, other.head? = rest.head? →
    splitLinesKeep (line ++ other) = line :: splitLinesKeep other

theorem exists_firstLine : ∀ text : List Char, text ≠ [] →
    ∃ line rest, FirstLine text line rest := by
  intro text
  induction text with
  | nil => intro absent; exact absurd rfl absent
  | cons c rest ih =>
      intro _
      by_cases broken : isLineBreak c = true
      · by_cases pair : c = '\r' ∧ rest.head? = some '\n'
        · obtain ⟨rfl, next⟩ := pair
          obtain ⟨tail, rfl⟩ := List.head?_eq_some_iff.mp next
          refine ⟨['\r', '\n'], tail, rfl, List.cons_ne_nil _ _, ?_⟩
          intro other _
          rfl
        · refine ⟨[c], rest, rfl, List.cons_ne_nil _ _, ?_⟩
          intro other same
          have alone : ¬ (c = '\r' ∧ other.head? = some '\n') := by
            rw [same]
            exact pair
          exact splitLinesKeep_break broken alone
      · have solid : isLineBreak c = false := by simpa using broken
        by_cases last : rest = []
        · subst last
          refine ⟨[c], [], rfl, List.cons_ne_nil _ _, ?_⟩
          intro other same
          obtain rfl : other = [] := List.head?_eq_none_iff.mp same
          exact splitLinesKeep_solid solid []
        · obtain ⟨line, later, first⟩ := ih last
          refine ⟨c :: line, later, by rw [first.whole]; rfl, List.cons_ne_nil _ _, ?_⟩
          intro other same
          rw [List.cons_append, splitLinesKeep_solid solid, first.splits other same]
          rfl

theorem FirstLine.split {text line rest : List Char} (first : FirstLine text line rest) :
    splitLinesKeep text = line :: splitLinesKeep rest := by
  rw [first.whole]
  exact first.splits rest rfl

theorem splitLinesKeep_flatten (text : List Char) : (splitLinesKeep text).flatten = text := by
  induction length : text.length using Nat.strongRecOn generalizing text with
  | ind n ih =>
      by_cases empty : text = []
      · subst empty
        rfl
      · obtain ⟨line, rest, first⟩ := exists_firstLine text empty
        have shorter : rest.length < n := by
          have positive := List.length_pos_of_ne_nil first.solid
          rw [← length, first.whole, List.length_append]
          omega
        rw [first.split, List.flatten_cons, ih rest.length shorter rest rfl]
        exact first.whole.symm

/-- A line that ends in "\n" ends wherever more text follows. -/
theorem splitLinesKeep_newline (body : List Char) (solid : ∀ c ∈ body, isLineBreak c = false)
    (rest : List Char) :
    splitLinesKeep (body ++ '\n' :: rest) = (body ++ ['\n']) :: splitLinesKeep rest := by
  induction body with
  | nil => exact splitLinesKeep_break (by decide) (fun pair => absurd pair.1 (by decide))
  | cons c body ih =>
      rw [List.cons_append, splitLinesKeep_solid (solid c List.mem_cons_self),
        ih (fun other member => solid other (List.mem_cons_of_mem c member))]
      rfl

theorem lineText_newline (body : List Char) (solid : ∀ c ∈ body, isLineBreak c = false) :
    lineText (body ++ ['\n']) = body := by
  unfold lineText
  rw [List.takeWhile_append_of_pos (by simpa using solid)]
  simp [show isLineBreak '\n' = true by decide]

/-- A line written anew leaves the other lines of the text as they are. -/
theorem splitLinesKeep_replace {old body : List Char} {after : List (List Char)}
    (solid : ∀ c ∈ body, isLineBreak c = false) (same : (body ++ ['\n']).head? = old.head?) :
    ∀ (before : List (List Char)) (text : List Char),
      splitLinesKeep text = before ++ old :: after →
        splitLinesKeep ((before ++ (body ++ ['\n']) :: after).flatten) =
          before ++ (body ++ ['\n']) :: after := by
  intro before
  induction before with
  | nil =>
      intro text split
      have some : text ≠ [] := by
        rintro rfl
        cases split
      obtain ⟨line, rest, first⟩ := exists_firstLine text some
      have lines : line = old ∧ splitLinesKeep rest = after := by
        simpa [first.split] using split
      have flat : after.flatten = rest := by
        rw [← lines.2]
        exact splitLinesKeep_flatten rest
      simp only [List.nil_append, List.flatten_cons, List.append_assoc, List.singleton_append]
      rw [splitLinesKeep_newline body solid, flat, lines.2]
  | cons line before ih =>
      intro text split
      have some : text ≠ [] := by
        rintro rfl
        cases split
      obtain ⟨first', rest, first⟩ := exists_firstLine text some
      have lines : first' = line ∧ splitLinesKeep rest = before ++ old :: after := by
        simpa [first.split] using split
      have flat : rest = (before ++ old :: after).flatten := by
        rw [← lines.2]
        exact (splitLinesKeep_flatten rest).symm
      have starts : ((before ++ (body ++ ['\n']) :: after).flatten).head? = rest.head? := by
        rw [flat]
        simp only [List.flatten_append, List.flatten_cons, List.head?_append]
        rw [← List.head?_append, same]
      rw [List.cons_append, List.flatten_cons, ← lines.1, first.splits _ starts, ih rest lines.2]

end QuantFactory.Python
