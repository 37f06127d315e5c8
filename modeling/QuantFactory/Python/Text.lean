/-!
# Python text

`str.strip` removes the characters for which `str.isspace` holds; the source's
text checks are built on it.
-/

set_option autoImplicit false

namespace QuantFactory.Python

/-- The code points Python's `str.isspace` accepts. -/
def isSpace (c : Char) : Bool :=
  let n := c.toNat
  (9 ≤ n && n ≤ 13) || (28 ≤ n && n ≤ 32) || n == 0x85 || n == 0xA0 || n == 0x1680 ||
    (0x2000 ≤ n && n ≤ 0x200A) || n == 0x2028 || n == 0x2029 || n == 0x202F || n == 0x205F ||
    n == 0x3000

def stripChars (chars : List Char) : List Char :=
  ((chars.dropWhile isSpace).reverse.dropWhile isSpace).reverse

def strip (text : String) : String := String.ofList (stripChars text.toList)

/-- `', '.join(texts)`. -/
def commaSeparated (texts : List String) : String := ", ".intercalate texts

/-- `not text.strip()`. -/
def isBlank (text : String) : Bool := (stripChars text.toList).isEmpty

theorem strip_isEmpty (text : String) : (strip text).isEmpty = isBlank text := by
  unfold strip isBlank
  rw [Bool.eq_iff_iff, String.isEmpty_iff]
  simp

theorem isBlank_eq_false {text : String} {c : Char} (member : c ∈ text.toList)
    (solid : isSpace c = false) : isBlank text = false := by
  have kept : ∀ chars : List Char, c ∈ chars → c ∈ chars.dropWhile isSpace := by
    intro chars
    induction chars with
    | nil => simp
    | cons head rest ih =>
        intro inChars
        by_cases space : isSpace head = true
        · rw [List.dropWhile_cons_of_pos space]
          rcases List.mem_cons.mp inChars with rfl | inRest
          · rw [solid] at space
            cases space
          · exact ih inRest
        · rwa [List.dropWhile_cons_of_neg space]
  have stripped : c ∈ stripChars text.toList := by
    unfold stripChars
    rw [List.mem_reverse]
    exact kept _ (List.mem_reverse.mpr (kept _ member))
  cases empty : stripChars text.toList with
  | nil =>
      rw [empty] at stripped
      cases stripped
  | cons head rest => simp [isBlank, empty]

theorem length_le_utf8ByteSize (text : String) : text.length ≤ text.utf8ByteSize := by
  have encoded : ∀ chars : List Char, chars.length ≤ chars.utf8Encode.size := by
    intro chars
    induction chars with
    | nil => simp
    | cons c rest ih =>
        have size := c.utf8Size_pos
        rw [List.utf8Encode_cons, ByteArray.size_append, List.length_cons]
        simp only [List.utf8Encode_singleton, List.size_toByteArray, String.length_utf8EncodeChar]
        omega
  have chars := encoded text.toList
  rw [← String.length_toList]
  simpa using chars
end QuantFactory.Python
