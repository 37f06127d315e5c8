import QuantFactory.Persistence.Serialization

/-!
# JSON text

`json.dumps` with compact separators and without ASCII escapes, over the text of
a float.  What follows a value in a document never continues a number, so a text
is read off from its front, and two values with one text are equal.
-/

set_option autoImplicit false

namespace QuantFactory.Persistence

open QuantFactory.Python

/-! ## Texts -/

def hexDigit (n : Nat) : Char := Nat.digitChar n

def escaped (c : Char) : List Char :=
  if c = '"' then ['\\', '"']
  else if c = '\\' then ['\\', '\\']
  else if c = '\n' then ['\\', 'n']
  else if c = '\r' then ['\\', 'r']
  else if c = '\t' then ['\\', 't']
  else if c.toNat = 8 then ['\\', 'b']
  else if c.toNat = 12 then ['\\', 'f']
  else if c.toNat < 32 then ['\\', 'u', '0', '0', hexDigit (c.toNat / 16), hexDigit (c.toNat % 16)]
  else [c]

def stringChars (text : String) : List Char :=
  '"' :: (text.toList.flatMap escaped ++ ['"'])

/-- `str(n)`. -/
def intChars : Int → List Char
  | .ofNat n => Nat.toDigits 10 n
  | .negSucc n => '-' :: Nat.toDigits 10 (n + 1)

section Chars
variable {F : Type} (floatText : F → List Char)

mutual

/-- `json.dumps(value, separators=(",", ":"), ensure_ascii=False)`. -/
def jsonChars : PyValue F → List Char
  | .none => ['n', 'u', 'l', 'l']
  | .bool true => ['t', 'r', 'u', 'e']
  | .bool false => ['f', 'a', 'l', 's', 'e']
  | .int value => intChars value
  | .float value => floatText value
  | .str text => stringChars text
  | .list items => '[' :: itemChars items
  | .dict entries => '\x7b' :: entryChars entries

def itemChars : List (PyValue F) → List Char
  | [] => [']']
  | item :: rest => jsonChars item ++ moreItems rest

def moreItems : List (PyValue F) → List Char
  | [] => [']']
  | item :: rest => ',' :: (jsonChars item ++ moreItems rest)

def entryChars : List (String × PyValue F) → List Char
  | [] => ['\x7d']
  | (key, value) :: rest => stringChars key ++ ':' :: (jsonChars value ++ moreEntries rest)

def moreEntries : List (String × PyValue F) → List Char
  | [] => ['\x7d']
  | (key, value) :: rest =>
      ',' :: (stringChars key ++ ':' :: (jsonChars value ++ moreEntries rest))

end

def jsonDumps (value : PyValue F) : String := String.ofList (jsonChars floatText value)

end Chars

/-! ## Strings -/

def hexValue (c : Char) : Nat := if c.isDigit then c.toNat - 48 else c.toNat - 87

def unescaped : List Char → Option (Char × List Char)
  | '\\' :: '"' :: rest => some ('"', rest)
  | '\\' :: '\\' :: rest => some ('\\', rest)
  | '\\' :: 'n' :: rest => some ('\n', rest)
  | '\\' :: 'r' :: rest => some ('\r', rest)
  | '\\' :: 't' :: rest => some ('\t', rest)
  | '\\' :: 'b' :: rest => some (Char.ofNat 8, rest)
  | '\\' :: 'f' :: rest => some (Char.ofNat 12, rest)
  | '\\' :: 'u' :: '0' :: '0' :: high :: low :: rest =>
      some (Char.ofNat (16 * hexValue high + hexValue low), rest)
  | c :: rest => some (c, rest)
  | [] => none

theorem unescaped_escaped (c : Char) (rest : List Char) :
    unescaped (escaped c ++ rest) = some (c, rest) := by
  unfold escaped
  split_ifs with isQuote isBackslash isNewline isReturn isTab isBackspace isFeed isControl
  · subst isQuote
    rfl
  · subst isBackslash
    rfl
  · subst isNewline
    rfl
  · subst isReturn
    rfl
  · subst isTab
    rfl
  · have same : c = Char.ofNat 8 := by rw [← isBackspace, Char.ofNat_toNat]
    rw [same]
    rfl
  · have same : c = Char.ofNat 12 := by rw [← isFeed, Char.ofNat_toNat]
    rw [same]
    rfl
  · have read : ∀ n < 32, 16 * hexValue (hexDigit (n / 16)) + hexValue (hexDigit (n % 16)) = n := by
      decide
    have same := read c.toNat isControl
    simp only [List.cons_append, List.nil_append, unescaped]
    rw [same, Char.ofNat_toNat]
  · simp only [List.cons_append, List.nil_append]
    unfold unescaped
    split <;> simp_all

theorem escaped_head (c : Char) : ∃ d rest, escaped c = d :: rest ∧ d ≠ '"' := by
  unfold escaped
  split_ifs with isQuote
  · exact ⟨_, _, rfl, by decide⟩
  · exact ⟨_, _, rfl, by decide⟩
  · exact ⟨_, _, rfl, by decide⟩
  · exact ⟨_, _, rfl, by decide⟩
  · exact ⟨_, _, rfl, by decide⟩
  · exact ⟨_, _, rfl, by decide⟩
  · exact ⟨_, _, rfl, by decide⟩
  · exact ⟨_, _, rfl, by decide⟩
  · exact ⟨c, [], rfl, isQuote⟩

theorem escaped_inj {first second s t : List Char}
    (same : first.flatMap escaped ++ '"' :: s = second.flatMap escaped ++ '"' :: t) :
    first = second ∧ s = t := by
  induction first generalizing second with
  | nil =>
      cases second with
      | nil => exact ⟨rfl, (List.cons.inj same).2⟩
      | cons c rest =>
          obtain ⟨d, tail, isEscaped, notQuote⟩ := escaped_head c
          simp only [List.flatMap_nil, List.nil_append, List.flatMap_cons, isEscaped,
            List.cons_append, List.cons.injEq] at same
          exact absurd same.1.symm notQuote
  | cons c rest ih =>
      cases second with
      | nil =>
          obtain ⟨d, tail, isEscaped, notQuote⟩ := escaped_head c
          simp only [List.flatMap_nil, List.nil_append, List.flatMap_cons, isEscaped,
            List.cons_append, List.cons.injEq] at same
          exact absurd same.1 notQuote
      | cons d others =>
          rw [List.flatMap_cons, List.flatMap_cons, List.append_assoc, List.append_assoc] at same
          have read := congrArg unescaped same
          rw [unescaped_escaped, unescaped_escaped] at read
          obtain ⟨rfl, tails⟩ := Prod.mk.inj (Option.some.inj read)
          obtain ⟨rfl, ends⟩ := ih tails
          exact ⟨rfl, ends⟩

theorem stringChars_inj {first second : String} {s t : List Char}
    (same : stringChars first ++ s = stringChars second ++ t) : first = second ∧ s = t := by
  simp only [stringChars, List.cons_append, List.append_assoc, List.cons.injEq, true_and,
    List.nil_append] at same
  obtain ⟨texts, ends⟩ := escaped_inj same
  exact ⟨String.toList_inj.mp texts, ends⟩

/-! ## Numbers -/

def isNumeric (c : Char) : Bool := c.isDigit || c ∈ ['-', '+', '.', 'e', 'E']

def Ends (s : List Char) : Prop := ∀ c rest, s = c :: rest → isNumeric c = false

theorem ends_nil : Ends [] := by
  intro c rest isCons
  cases isCons

theorem ends_cons {c : Char} (stops : isNumeric c = false) (rest : List Char) :
    Ends (c :: rest) := by
  intro d tail isCons
  cases isCons
  exact stops

theorem numeric_inj {first second s t : List Char} (isFirst : ∀ c ∈ first, isNumeric c = true)
    (isSecond : ∀ c ∈ second, isNumeric c = true) (sEnds : Ends s) (tEnds : Ends t)
    (same : first ++ s = second ++ t) : first = second ∧ s = t := by
  have stops : ∀ {s : List Char}, Ends s → s.takeWhile isNumeric = [] := by
    intro s ends
    cases s with
    | nil => rfl
    | cons c rest => exact List.takeWhile_cons_of_neg (by simp [ends c rest rfl])
  have taken := congrArg (List.takeWhile isNumeric) same
  rw [List.takeWhile_append_of_pos isFirst, List.takeWhile_append_of_pos isSecond, stops sEnds,
    stops tEnds, List.append_nil, List.append_nil] at taken
  subst taken
  exact ⟨rfl, List.append_cancel_left same⟩

theorem toDigits_isDigit {n : Nat} {c : Char} (member : c ∈ Nat.toDigits 10 n) :
    c.isDigit = true := Nat.isDigit_of_mem_toDigits (by decide) (by decide) member

theorem toDigits_inj {m n : Nat} (same : Nat.toDigits 10 m = Nat.toDigits 10 n) : m = n := by
  have read := congrArg (Nat.ofDigitChars 10 · 0) same
  simpa only [Nat.ofDigitChars_ten_toDigits] using read

theorem intChars_plain {n : Int} {c : Char} (member : c ∈ intChars n) :
    c = '-' ∨ c.isDigit = true := by
  cases n with
  | ofNat n => exact .inr (toDigits_isDigit member)
  | negSucc n =>
      rcases List.mem_cons.mp member with isSign | inDigits
      · exact .inl isSign
      · exact .inr (toDigits_isDigit inDigits)

theorem toDigits_ne_signed (m n : Nat) : Nat.toDigits 10 m ≠ '-' :: Nat.toDigits 10 n := by
  intro same
  have member : '-' ∈ Nat.toDigits 10 m := same ▸ List.mem_cons_self
  have digit := toDigits_isDigit member
  revert digit
  decide

theorem intChars_inj {m n : Int} (same : intChars m = intChars n) : m = n := by
  cases m with
  | ofNat m =>
      cases n with
      | ofNat n => rw [toDigits_inj same]
      | negSucc n => exact absurd same (toDigits_ne_signed m (n + 1))
  | negSucc m =>
      cases n with
      | ofNat n => exact absurd same.symm (toDigits_ne_signed n (m + 1))
      | negSucc n =>
          have next := toDigits_inj (List.cons.inj same).2
          rw [Nat.succ.inj next]

theorem intChars_ne_nil (n : Int) : intChars n ≠ [] := by
  cases n with
  | ofNat n => exact Nat.toDigits_ne_nil
  | negSucc n => exact List.cons_ne_nil _ _

/-! ## Values -/

/-- The texts of finite floats: numeric, told apart from integers by some character, and
distinct for distinct floats. -/
structure FloatTexts {F : Type} [PyFloat F] (floatText : F → List Char) : Prop where
  numeric : ∀ x, PyFloat.isFinite x = true → ∀ c ∈ floatText x, isNumeric c = true
  marked : ∀ x, PyFloat.isFinite x = true → ∃ c ∈ floatText x, c ≠ '-' ∧ c.isDigit = false
  distinct : ∀ x y, PyFloat.isFinite x = true → PyFloat.isFinite y = true →
    floatText x = floatText y → x = y

section Injective
variable {F : Type} [PyFloat F] {floatText : F → List Char}

inductive Lead where
  | null | yes | no | number | text | items | entries
  deriving DecidableEq

def leadOf (c : Char) : Option Lead :=
  if c = 'n' then some .null
  else if c = 't' then some .yes
  else if c = 'f' then some .no
  else if c = '"' then some .text
  else if c = '[' then some .items
  else if c = '\x7b' then some .entries
  else if isNumeric c then some .number
  else none

def leadOfValue : PyValue F → Lead
  | .none => .null
  | .bool true => .yes
  | .bool false => .no
  | .int _ => .number
  | .float _ => .number
  | .str _ => .text
  | .list _ => .items
  | .dict _ => .entries

theorem leadOf_numeric {c : Char} (numeric : isNumeric c = true) : leadOf c = some .number := by
  have differs : ∀ d, isNumeric d = false → c ≠ d := by
    rintro d plain rfl
    rw [numeric] at plain
    cases plain
  rw [leadOf, if_neg (differs _ (by decide)), if_neg (differs _ (by decide)),
    if_neg (differs _ (by decide)), if_neg (differs _ (by decide)), if_neg (differs _ (by decide)),
    if_neg (differs _ (by decide)), if_pos numeric]

theorem intChars_numeric {n : Int} {c : Char} (member : c ∈ intChars n) : isNumeric c = true := by
  rcases intChars_plain member with rfl | isDigit
  · decide
  · simp [isNumeric, isDigit]

variable (texts : FloatTexts floatText)
include texts

theorem jsonChars_head {value : PyValue F} (finite : allFinite value = true) :
    ∃ c rest, jsonChars floatText value = c :: rest ∧ leadOf c = some (leadOfValue value) := by
  cases value with
  | none => exact ⟨_, _, rfl, rfl⟩
  | bool value => cases value <;> exact ⟨_, _, rfl, rfl⟩
  | int n =>
      obtain ⟨c, rest, isCons⟩ := List.exists_cons_of_ne_nil (intChars_ne_nil n)
      have inText : c ∈ intChars n := isCons ▸ List.mem_cons_self
      exact ⟨c, rest, isCons, leadOf_numeric (intChars_numeric inText)⟩
  | float x =>
      obtain ⟨c, member, _⟩ := texts.marked x finite
      obtain ⟨d, rest, isCons⟩ := List.exists_cons_of_ne_nil (List.ne_nil_of_mem member)
      have inText : d ∈ floatText x := isCons ▸ List.mem_cons_self
      exact ⟨d, rest, isCons, leadOf_numeric (texts.numeric x finite d inText)⟩
  | str text => exact ⟨_, _, rfl, rfl⟩
  | list items => exact ⟨_, _, rfl, rfl⟩
  | dict entries => exact ⟨_, _, rfl, rfl⟩

theorem lead_eq {first second : PyValue F} {s t : List Char}
    (isFirst : allFinite first = true) (isSecond : allFinite second = true)
    (same : jsonChars floatText first ++ s = jsonChars floatText second ++ t) :
    leadOfValue first = leadOfValue second := by
  obtain ⟨c, rest, isCons, isLead⟩ := jsonChars_head texts isFirst
  obtain ⟨d, others, isCons', isLead'⟩ := jsonChars_head texts isSecond
  rw [isCons, isCons', List.cons_append, List.cons_append] at same
  rw [(List.cons.inj same).1, isLead'] at isLead
  exact (Option.some.inj isLead).symm

omit texts [PyFloat F] in
theorem moreItems_ends (items : List (PyValue F)) (s : List Char) :
    Ends (moreItems floatText items ++ s) := by
  cases items with
  | nil => exact ends_cons (by decide) _
  | cons item rest => exact ends_cons (by decide) _

omit texts [PyFloat F] in
theorem moreEntries_ends (entries : Entries F) (s : List Char) :
    Ends (moreEntries floatText entries ++ s) := by
  cases entries with
  | nil => exact ends_cons (by decide) _
  | cons entry rest => exact ends_cons (by decide) _

theorem close_ne_value {value : PyValue F} (finite : allFinite value = true) {s t : List Char} :
    ']' :: s ≠ jsonChars floatText value ++ t := by
  intro same
  obtain ⟨c, rest, isCons, isLead⟩ := jsonChars_head texts finite
  rw [isCons, List.cons_append] at same
  rw [← (List.cons.inj same).1] at isLead
  cases isLead

theorem int_ne_float {n : Int} {x : F} (finite : PyFloat.isFinite x = true) {s t : List Char}
    (sEnds : Ends s) (tEnds : Ends t) : intChars n ++ s ≠ floatText x ++ t := by
  intro same
  obtain ⟨isSame, _⟩ := numeric_inj (fun _ => intChars_numeric) (texts.numeric x finite) sEnds tEnds
    same
  obtain ⟨c, member, notSign, notDigit⟩ := texts.marked x finite
  rw [← isSame] at member
  rcases intChars_plain member with isSign | isDigit
  · exact notSign isSign
  · rw [notDigit] at isDigit
    cases isDigit

theorem itemChars_more {first second : List (PyValue F)} {s t : List Char}
    (isFirst : allFiniteItems first = true) (isSecond : allFiniteItems second = true)
    (same : itemChars floatText first ++ s = itemChars floatText second ++ t) :
    moreItems floatText first ++ s = moreItems floatText second ++ t := by
  cases first with
  | nil =>
      cases second with
      | nil => exact same
      | cons other others =>
          rw [allFiniteItems, Bool.and_eq_true] at isSecond
          rw [itemChars, itemChars, List.append_assoc] at same
          exact absurd same (close_ne_value texts isSecond.1)
  | cons item rest =>
      cases second with
      | nil =>
          rw [allFiniteItems, Bool.and_eq_true] at isFirst
          rw [itemChars, itemChars, List.append_assoc] at same
          exact absurd same.symm (close_ne_value texts isFirst.1)
      | cons other others => exact congrArg (List.cons ',') same

omit texts [PyFloat F] in
theorem entryChars_more {first second : Entries F} {s t : List Char}
    (same : entryChars floatText first ++ s = entryChars floatText second ++ t) :
    moreEntries floatText first ++ s = moreEntries floatText second ++ t := by
  cases first with
  | nil =>
      cases second with
      | nil => exact same
      | cons other others => exact absurd (List.cons.inj same).1 (by decide)
  | cons entry rest =>
      cases second with
      | nil => exact absurd (List.cons.inj same).1 (by decide)
      | cons other others => exact congrArg (List.cons ',') same

end Injective

section Values
variable {F : Type} [PyFloat F] {floatText : F → List Char}

mutual

theorem jsonChars_inj (texts : FloatTexts floatText) (first : PyValue F) {second : PyValue F}
    {s t : List Char} (isFirst : allFinite first = true) (isSecond : allFinite second = true)
    (sEnds : Ends s) (tEnds : Ends t)
    (same : jsonChars floatText first ++ s = jsonChars floatText second ++ t) :
    first = second ∧ s = t := by
  have leads := lead_eq texts isFirst isSecond same
  cases first with
  | none =>
      cases second with
      | none => exact ⟨rfl, List.append_cancel_left same⟩
      | bool value => cases value <;> cases leads
      | _ => cases leads
  | bool value =>
      cases second with
      | bool other =>
          cases value <;> cases other
          · exact ⟨rfl, List.append_cancel_left same⟩
          · cases leads
          · cases leads
          · exact ⟨rfl, List.append_cancel_left same⟩
      | _ => cases value <;> cases leads
  | int n =>
      cases second with
      | int m =>
          obtain ⟨isSame, ends⟩ := numeric_inj (fun _ => intChars_numeric)
            (fun _ => intChars_numeric) sEnds tEnds same
          exact ⟨by rw [intChars_inj isSame], ends⟩
      | float x => exact absurd same (int_ne_float texts isSecond sEnds tEnds)
      | bool value => cases value <;> cases leads
      | _ => cases leads
  | float x =>
      cases second with
      | int m => exact absurd same.symm (int_ne_float texts isFirst tEnds sEnds)
      | float y =>
          obtain ⟨isSame, ends⟩ := numeric_inj (texts.numeric x isFirst)
            (texts.numeric y isSecond) sEnds tEnds same
          exact ⟨by rw [texts.distinct x y isFirst isSecond isSame], ends⟩
      | bool value => cases value <;> cases leads
      | _ => cases leads
  | str text =>
      cases second with
      | str other =>
          obtain ⟨rfl, ends⟩ := stringChars_inj same
          exact ⟨rfl, ends⟩
      | bool value => cases value <;> cases leads
      | _ => cases leads
  | list items =>
      cases second with
      | list others =>
          have inner := itemChars_more texts isFirst isSecond (List.cons.inj same).2
          obtain ⟨rfl, ends⟩ := moreItems_inj texts items isFirst isSecond sEnds tEnds inner
          exact ⟨rfl, ends⟩
      | bool value => cases value <;> cases leads
      | _ => cases leads
  | dict entries =>
      cases second with
      | dict others =>
          have inner := entryChars_more (List.cons.inj same).2
          obtain ⟨rfl, ends⟩ := moreEntries_inj texts entries isFirst isSecond sEnds tEnds inner
          exact ⟨rfl, ends⟩
      | bool value => cases value <;> cases leads
      | _ => cases leads

theorem moreItems_inj (texts : FloatTexts floatText) (first : List (PyValue F))
    {second : List (PyValue F)} {s t : List Char} (isFirst : allFiniteItems first = true)
    (isSecond : allFiniteItems second = true) (sEnds : Ends s) (tEnds : Ends t)
    (same : moreItems floatText first ++ s = moreItems floatText second ++ t) :
    first = second ∧ s = t := by
  cases first with
  | nil =>
      cases second with
      | nil => exact ⟨rfl, List.append_cancel_left same⟩
      | cons other others => exact absurd (List.cons.inj same).1 (by decide)
  | cons item rest =>
      rw [allFiniteItems, Bool.and_eq_true] at isFirst
      cases second with
      | nil => exact absurd (List.cons.inj same).1 (by decide)
      | cons other others =>
          rw [allFiniteItems, Bool.and_eq_true] at isSecond
          simp only [moreItems, List.cons_append, List.append_assoc, List.cons.injEq,
            true_and] at same
          obtain ⟨rfl, tails⟩ := jsonChars_inj texts item isFirst.1 isSecond.1
            (moreItems_ends rest s) (moreItems_ends others t) same
          obtain ⟨rfl, ends⟩ := moreItems_inj texts rest isFirst.2 isSecond.2 sEnds tEnds tails
          exact ⟨rfl, ends⟩

theorem moreEntries_inj (texts : FloatTexts floatText) (first : List (String × PyValue F))
    {second : List (String × PyValue F)} {s t : List Char} (isFirst : allFiniteEntries first = true)
    (isSecond : allFiniteEntries second = true) (sEnds : Ends s) (tEnds : Ends t)
    (same : moreEntries floatText first ++ s = moreEntries floatText second ++ t) :
    first = second ∧ s = t := by
  cases first with
  | nil =>
      cases second with
      | nil => exact ⟨rfl, List.append_cancel_left same⟩
      | cons other others => exact absurd (List.cons.inj same).1 (by decide)
  | cons entry rest =>
      obtain ⟨key, value⟩ := entry
      rw [allFiniteEntries, Bool.and_eq_true] at isFirst
      cases second with
      | nil => exact absurd (List.cons.inj same).1 (by decide)
      | cons other others =>
          obtain ⟨otherKey, other⟩ := other
          rw [allFiniteEntries, Bool.and_eq_true] at isSecond
          simp only [moreEntries, List.cons_append, List.append_assoc, List.cons.injEq,
            true_and] at same
          obtain ⟨rfl, inner⟩ := stringChars_inj same
          have inner := (List.cons.inj inner).2
          obtain ⟨rfl, tails⟩ := jsonChars_inj texts value isFirst.1 isSecond.1
            (moreEntries_ends rest s) (moreEntries_ends others t) inner
          obtain ⟨rfl, ends⟩ := moreEntries_inj texts rest isFirst.2 isSecond.2 sEnds tEnds tails
          exact ⟨rfl, ends⟩

end

theorem jsonDumps_injective (texts : FloatTexts floatText) {first second : PyValue F}
    (isFirst : normalize first = .ok first) (isSecond : normalize second = .ok second)
    (same : jsonDumps floatText first = jsonDumps floatText second) : first = second := by
  have chars := String.ofList_injective same
  refine (jsonChars_inj texts first ((normalize_ok_iff first).mp ⟨_, isFirst⟩)
    ((normalize_ok_iff second).mp ⟨_, isSecond⟩) ends_nil ends_nil ?_).1
  rw [List.append_nil, List.append_nil, chars]

end Values

end QuantFactory.Persistence
