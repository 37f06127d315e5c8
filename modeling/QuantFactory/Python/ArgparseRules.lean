import QuantFactory.Library.Lookup
import QuantFactory.Python.Argparse

/-!
# What a parser makes of its words

A parser with commands passes the words behind a command on, whatever they look like.  A parser
without commands takes its operand only when the word is no option, and an option with a value
takes the next word only when that is none.
-/

set_option autoImplicit false

namespace QuantFactory.Python

open QuantFactory.Library

variable {looksNegative : String → Bool}

/-! ## One parser -/

section Parser
variable {options : List OptionAction} {words : List String}

theorem classifyWords_text {parsed : List ParsedWord}
    (ok : classifyWords looksNegative options words = .ok parsed) :
    parsed.map ParsedWord.text = words := by
  induction words generalizing parsed with
  | nil =>
      cases ok
      rfl
  | cons word rest ih =>
      rw [classifyWords] at ok
      by_cases dashes : word = "--"
      · rw [if_pos dashes] at ok
        cases ok
        simp [ParsedWord.text, dashes, Function.comp_def]
      · rw [if_neg dashes] at ok
        obtain ⟨first, -, ok⟩ := bind_eq_ok.mp ok
        obtain ⟨others, later, ok⟩ := bind_eq_ok.mp ok
        cases first <;> cases ok <;> simp [ParsedWord.text, ih later]

theorem parseOptional_plain {word : String} (plain : word.toList.head? ≠ some '-') :
    parseOptional looksNegative options word = .ok .argument := by
  rw [parseOptional, if_pos plain]

theorem mem_of_optionStrings {pair : String × OptionAction}
    (member : pair ∈ optionStrings options) : pair.2 ∈ options := by
  obtain ⟨action, inside, given⟩ := List.mem_flatMap.mp member
  obtain ⟨flag, -, rfl⟩ := List.mem_map.mp given
  exact inside

theorem partitionEquals_none {word before : List Char}
    (whole : partitionEquals word = (before, none)) : before = word := by
  simp only [partitionEquals, Prod.mk.injEq] at whole
  obtain ⟨taken, rest⟩ := whole
  have split := @List.takeWhile_append_dropWhile _ (· ≠ '=') word
  cases behind : word.dropWhile (· ≠ '=') with
  | nil =>
      rw [behind, List.append_nil] at split
      exact taken.symm.trans split
  | cons sign others =>
      rw [behind] at rest
      cases rest

/-- What an option word names is one of the options; with nothing behind it, the word is the
start of its flag. -/
theorem optionTuples_mem {word : String} {found : FoundOption}
    (member : found ∈ optionTuples options word) :
    (found.flag, found.action) ∈ optionStrings options ∧
      (found.explicit = none → word.toList.isPrefixOf found.flag.toList = true) := by
  rw [optionTuples] at member
  cases parts : partitionEquals word.toList with
  | mk before behind =>
      rw [parts] at member
      dsimp only at member
      split at member
      · obtain ⟨⟨flag, action⟩, inside, chosen⟩ := List.mem_filterMap.mp member
        dsimp only at chosen
        split at chosen
        · rename_i starts
          cases chosen
          refine ⟨inside, fun none => ?_⟩
          cases behind with
          | none => rwa [partitionEquals_none parts] at starts
          | some rest => cases none
        · cases chosen
      · obtain ⟨⟨flag, action⟩, inside, chosen⟩ := List.mem_filterMap.mp member
        dsimp only at chosen
        split at chosen
        · cases chosen
          exact ⟨inside, fun none => by cases none⟩
        · split at chosen
          · rename_i starts
            cases chosen
            exact ⟨inside, fun _ => starts⟩
          · cases chosen

theorem looseOption_found {word : String} {found : FoundOption}
    (ok : looseOption looksNegative options word = .ok (.option (some found))) :
    (found.flag, found.action) ∈ optionStrings options ∧
      (found.explicit = none → word.toList.isPrefixOf found.flag.toList = true) := by
  rw [looseOption] at ok
  split at ok
  · rename_i one tuples
    cases ok
    exact optionTuples_mem (by rw [tuples]; exact List.mem_singleton_self _)
  · cases ok
  · split at ok <;> cases ok

theorem parseOptional_found {word : String} {found : FoundOption}
    (ok : parseOptional looksNegative options word = .ok (.option (some found))) :
    (found.flag, found.action) ∈ optionStrings options ∧
      (found.explicit = none → word.toList.isPrefixOf found.flag.toList = true) := by
  rw [parseOptional] at ok
  split at ok
  · cases ok
  · split at ok
    · rename_i action exact_flag
      cases ok
      exact ⟨mem_of_lookup exact_flag, fun _ => List.isPrefixOf_iff_prefix.mpr (List.prefix_refl _)⟩
    · split at ok
      · cases ok
      · split at ok
        · exact looseOption_found ok
        · split at ok
          · rename_i before behind _ action flagged
            cases ok
            exact ⟨mem_of_lookup flagged, fun none => by cases none⟩
          · exact looseOption_found ok

end Parser

/-! ## A parser with commands -/

theorem classifyWords_cons_plain {options : List OptionAction} {name : String}
    {rest : List String} {parsed : List ParsedWord} (plain : name.toList.head? ≠ some '-')
    (ok : classifyWords looksNegative options (name :: rest) = .ok parsed) :
    ∃ others, parsed = .argument name :: others ∧ others.map ParsedWord.text = rest := by
  have texts := classifyWords_text ok
  have word : name ≠ "--" := by
    rintro rfl
    exact plain rfl
  rw [classifyWords, if_neg word, parseOptional_plain plain, bind_ok] at ok
  obtain ⟨others, -, ok⟩ := bind_eq_ok.mp ok
  cases ok
  exact ⟨others, rfl, (List.cons.inj texts).2⟩

theorem consumeWords_command {dest name : String} {names : List String}
    {runCommand : String → List String → Except ParserExit (Namespace × List String)}
    (known : names.contains name = true) {defaults : Namespace} {others : List ParsedWord}
    {rest : List String} (texts : others.map ParsedWord.text = rest) {fuel : Nat}
    {state : ParseState}
    (ok : consumeWords (.commands dest names) runCommand (fuel + 2) ⟨defaults, true, [], []⟩
      (.argument name :: others) = .ok state) :
    ∃ found extras, runCommand name rest = .ok (found, extras) ∧
      state.namespace_ = (fun key => (found key).or
        (Function.update defaults dest (some (.text name)) key)) ∧ state.extras = extras := by
  have inside : name ∈ names := List.contains_iff_mem.mp known
  have front : takenByArgument (.argument name :: others) = some (name, others) := rfl
  have positionals : consumePositionals (.commands dest names) runCommand
      ⟨defaults, true, [], []⟩ (.argument name :: others) = (runCommand name rest >>= fun ran =>
        .ok (⟨fun key => (ran.1 key).or (Function.update defaults dest (some (.text name)) key),
          false, [], ran.2⟩, [])) := by
    rw [consumePositionals, if_neg (by simp)]
    dsimp only
    rw [front]
    dsimp only
    rw [if_neg (by simp [inside]), texts]
    rfl
  unfold consumeWords at ok
  split at ok
  · rw [positionals] at ok
    obtain ⟨⟨next, left⟩, consumed, ok⟩ := bind_eq_ok.mp ok
    obtain ⟨⟨found, extras⟩, ran, consumed⟩ := bind_eq_ok.mp consumed
    cases consumed
    cases ok
    exact ⟨found, extras, ran, rfl, by simp⟩
  · dsimp only at ok
    rw [positionals] at ok
    obtain ⟨⟨next, left⟩, consumed, ok⟩ := bind_eq_ok.mp ok
    obtain ⟨⟨found, extras⟩, ran, consumed⟩ := bind_eq_ok.mp consumed
    cases consumed
    dsimp only at ok
    rw [if_pos (by simp)] at ok
    unfold consumeWords at ok
    rw [if_pos (by simp)] at ok
    obtain ⟨⟨last, left⟩, consumed, ok⟩ := bind_eq_ok.mp ok
    rw [consumePositionals, if_pos (by rfl)] at consumed
    cases consumed
    cases ok
    exact ⟨found, extras, ran, rfl, by simp⟩

theorem parseKnown_command {options : List OptionAction} {dest name : String}
    {choices : List (String × ArgParser)} {command : ArgParser}
    (known : choices.lookup name = some command) (plain : name.toList.head? ≠ some '-')
    {rest : List String} {fuel : Nat} {found : Namespace} {extras : List String}
    (ok : parseKnown looksNegative (fuel + 1) (.group options dest choices) (name :: rest) =
      .ok (found, extras)) :
    ∃ inner, parseKnown looksNegative fuel command rest = .ok (inner, extras) ∧
      found = fun key => (inner key).or (Function.update
        (defaultNamespace options (.commands dest (choices.map Prod.fst))) dest
        (some (.text name)) key) := by
  have listed : (choices.map Prod.fst).contains name = true :=
    List.contains_iff_mem.mpr (List.mem_map_of_mem (mem_of_lookup known))
  rw [parseKnown] at ok
  obtain ⟨parsed, classified, ok⟩ := bind_eq_ok.mp ok
  obtain ⟨state, consumed, ok⟩ := bind_eq_ok.mp ok
  obtain ⟨-, ok⟩ := raiseIf_bind_eq_ok.mp ok
  cases ok
  obtain ⟨others, rfl, texts⟩ := classifyWords_cons_plain plain classified
  have length : 2 * (name :: rest).length + 1 = 2 * rest.length + 1 + 2 := by simp; omega
  rw [length] at consumed
  obtain ⟨inner, left, ran, same, unknown⟩ := consumeWords_command listed texts consumed
  have chosen : (ArgParser.group options dest choices).choices.lookup name = some command := known
  rw [chosen] at ran
  rw [unknown]
  exact ⟨inner, ran, same⟩

/-! ## A parser without commands -/

section Leaf
variable {options : List OptionAction}

theorem classifyWords_cons {word : String} {rest : List String} {parsed : List ParsedWord}
    (ok : classifyWords looksNegative options (word :: rest) = .ok parsed) :
    (word = "--" ∧ parsed = .separator :: rest.map .argument) ∨
      ∃ others, classifyWords looksNegative options rest = .ok others ∧
        ((parseOptional looksNegative options word = .ok .argument ∧
            parsed = .argument word :: others) ∨
          ∃ found, parseOptional looksNegative options word = .ok (.option found) ∧
            parsed = .option word found :: others) := by
  rw [classifyWords] at ok
  by_cases dashes : word = "--"
  · rw [if_pos dashes] at ok
    cases ok
    exact .inl ⟨dashes, rfl⟩
  · rw [if_neg dashes] at ok
    obtain ⟨first, named, ok⟩ := bind_eq_ok.mp ok
    obtain ⟨others, later, ok⟩ := bind_eq_ok.mp ok
    right
    refine ⟨others, later, ?_⟩
    cases first with
    | argument =>
        cases ok
        exact .inl ⟨named, rfl⟩
    | option found =>
        cases ok
        exact .inr ⟨found, named, rfl⟩

variable {positional : Positional}
  {runCommand : String → List String → Except ParserExit (Namespace × List String)}
  {fuel : Nat} {state last : ParseState}

theorem consumeWords_option {word : String} {found : Option FoundOption} {rest : List ParsedWord}
    (ok : consumeWords positional runCommand (fuel + 1) state (.option word found :: rest) =
      .ok last) : ∃ next left, consumeOptional state word found rest = .ok (next, left) ∧
        consumeWords positional runCommand fuel next left = .ok last := by
  unfold consumeWords at ok
  rw [if_neg (by simp [ParsedWord.isOption])] at ok
  obtain ⟨⟨next, left⟩, consumed, ok⟩ := bind_eq_ok.mp ok
  exact ⟨next, left, consumed, ok⟩

/-- An option with a value takes the next word, which must be an argument. -/
theorem consumeOptional_store {word flag : String} {action : OptionAction}
    (kind : action.kind = .store) {rest left : List ParsedWord} {next : ParseState}
    (ok : consumeOptional state word (some ⟨action, flag, none⟩) rest = .ok (next, left)) :
    ∃ value, rest = .argument value :: left ∧ next = state.store action.dest (.text value) := by
  obtain ⟨flags, dest, kind, required, default⟩ := action
  cases kind
  cases rest with
  | nil => cases ok
  | cons first others =>
      cases first with
      | argument value =>
          cases ok
          exact ⟨value, rfl, rfl⟩
      | separator => cases ok
      | option word found => cases ok

theorem consumeOptional_help {word : String} {found : FoundOption}
    (kind : found.action.kind = .help) {rest : List ParsedWord}
    {result : ParseState × List ParsedWord} :
    consumeOptional state word (some found) rest ≠ .ok result := by
  obtain ⟨⟨flags, dest, kind, required, default⟩, flag, explicit⟩ := found
  cases kind
  intro ok
  cases explicit with
  | none => cases ok
  | some pair =>
      obtain ⟨behindEquals, value⟩ := pair
      simp only [consumeOptional] at ok
      split at ok <;> cases ok

/-- Without options the positional is consumed and the rest is left over. -/
theorem consumeWords_end {words : List ParsedWord}
    (none : words.any ParsedWord.isOption = false)
    (ok : consumeWords positional runCommand (fuel + 1) state words = .ok last) :
    ∃ next left, consumePositionals positional runCommand state words = .ok (next, left) ∧
      last = { next with extras := next.extras ++ left.map ParsedWord.text } := by
  unfold consumeWords at ok
  rw [if_pos (by rw [none]; rfl)] at ok
  obtain ⟨⟨next, left⟩, consumed, ok⟩ := bind_eq_ok.mp ok
  cases ok
  exact ⟨next, left, consumed, rfl⟩

theorem parseKnown_leaf {words : List String} {found : Namespace} {extras : List String}
    (ok : parseKnown looksNegative (fuel + 1) (.leaf options positional) words =
      .ok (found, extras)) :
    ∃ parsed state runCommand, classifyWords looksNegative options words = .ok parsed ∧
      consumeWords positional runCommand (2 * words.length + 1)
        ⟨defaultNamespace options positional, true, [], []⟩ parsed = .ok state ∧
      (positional.required && state.pending ||
        options.any fun action => action.required && !state.seen.contains action.dest) = false ∧
      found = state.namespace_ ∧ extras = state.extras := by
  rw [parseKnown] at ok
  obtain ⟨parsed, classified, ok⟩ := bind_eq_ok.mp ok
  obtain ⟨state, consumed, ok⟩ := bind_eq_ok.mp ok
  obtain ⟨required, ok⟩ := raiseIf_bind_eq_ok.mp ok
  cases ok
  exact ⟨parsed, state, _, classified, consumed, required, rfl, rfl⟩

theorem parseKnown_nothing {found : Namespace} {extras : List String}
    (ok : parseKnown looksNegative (fuel + 1) (.leaf options .nothing) [] = .ok (found, extras)) :
    found = defaultNamespace options .nothing := by
  obtain ⟨parsed, state, runCommand, classified, consumed, -, rfl, rfl⟩ := parseKnown_leaf ok
  cases classified
  obtain ⟨next, left, positionals, rfl⟩ := consumeWords_end rfl consumed
  cases positionals
  rfl

theorem parseKnown_one {dest word : String} {found : Namespace}
    (helps : ∀ named, parseOptional looksNegative options word = .ok (.option (some named)) →
      named.action.kind = .help)
    (ok : parseKnown looksNegative (fuel + 1) (.leaf options (.one dest)) [word] =
      .ok (found, [])) :
    found = Function.update (defaultNamespace options (.one dest)) dest (some (.text word)) := by
  obtain ⟨parsed, state, runCommand, classified, consumed, required, rfl, unknown⟩ :=
    parseKnown_leaf ok
  rcases classifyWords_cons classified with
    ⟨-, rfl⟩ | ⟨others, nothing, ⟨-, rfl⟩ | ⟨named, option, rfl⟩⟩
  · obtain ⟨next, left, positionals, rfl⟩ := consumeWords_end rfl consumed
    cases positionals
    cases unknown
  · cases nothing
    obtain ⟨next, left, positionals, rfl⟩ := consumeWords_end rfl consumed
    cases positionals
    rfl
  · cases nothing
    obtain ⟨next, left, consumed, later⟩ := consumeWords_option consumed
    cases named with
    | none =>
        cases consumed
        obtain ⟨next, left, positionals, rfl⟩ := consumeWords_end rfl later
        cases positionals
        cases unknown
    | some named =>
        exact absurd consumed (consumeOptional_help (helps named option))

theorem bare_helps (word : String) (named : FoundOption)
    (option : parseOptional looksNegative [helpOption] word = .ok (.option (some named))) :
    named.action.kind = .help := by
  have member : named.action ∈ [helpOption] := mem_of_optionStrings (parseOptional_found option).1
  rw [List.mem_singleton.mp member]
  rfl

/-- A word that is exactly the flag of an option with a value passes the next word to it. -/
theorem consumeWords_value {flag word : String} {action : OptionAction} {rest : List String}
    {parsed : List ParsedWord} (dash : flag.toList.head? = some '-') (other : flag ≠ "--")
    (known : (optionStrings options).lookup flag = some action) (kind : action.kind = .store)
    (classified : classifyWords looksNegative options (flag :: word :: rest) = .ok parsed)
    (ok : consumeWords positional runCommand (fuel + 1) state parsed = .ok last) :
    ∃ others, classifyWords looksNegative options rest = .ok others ∧
      consumeWords positional runCommand fuel (state.store action.dest (.text word)) others =
        .ok last := by
  have named : parseOptional looksNegative options flag = .ok (.option (some ⟨action, flag, none⟩)) := by
    rw [parseOptional, if_neg (by simp [dash]), known]
  rcases classifyWords_cons classified with
    ⟨same, -⟩ | ⟨parsed, later, ⟨argument, -⟩ | ⟨found, option, rfl⟩⟩
  · exact absurd same other
  · rw [named] at argument
    cases argument
  · rw [named] at option
    cases option
    obtain ⟨next, left, consumed, ran⟩ := consumeWords_option ok
    obtain ⟨value, rfl, rfl⟩ := consumeOptional_store kind consumed
    rcases classifyWords_cons later with
      ⟨-, same⟩ | ⟨others, behind, ⟨-, same⟩ | ⟨found, -, same⟩⟩
    · cases same
    · cases same
      exact ⟨_, behind, ran⟩
    · cases same

theorem parseKnown_value {flag word : String} {action : OptionAction}
    (dash : flag.toList.head? = some '-') (other : flag ≠ "--")
    (known : (optionStrings options).lookup flag = some action) (kind : action.kind = .store)
    {found : Namespace} {extras : List String}
    (ok : parseKnown looksNegative (fuel + 1) (.leaf options .nothing) [flag, word] =
      .ok (found, extras)) :
    found = Function.update (defaultNamespace options .nothing) action.dest (some (.text word)) := by
  obtain ⟨parsed, state, runCommand, classified, consumed, -, rfl, rfl⟩ := parseKnown_leaf ok
  obtain ⟨others, nothing, consumed⟩ := consumeWords_value dash other known kind classified consumed
  cases nothing
  obtain ⟨next, left, positionals, rfl⟩ := consumeWords_end rfl consumed
  cases positionals
  rfl

theorem parseKnown_two_values {flag other word text : String} {first second : OptionAction}
    (dash : flag.toList.head? = some '-') (separate : flag ≠ "--")
    (known : (optionStrings options).lookup flag = some first) (kind : first.kind = .store)
    (otherDash : other.toList.head? = some '-') (otherSeparate : other ≠ "--")
    (otherKnown : (optionStrings options).lookup other = some second)
    (otherKind : second.kind = .store) {found : Namespace} {extras : List String}
    (ok : parseKnown looksNegative (fuel + 1) (.leaf options .nothing)
      [flag, word, other, text] = .ok (found, extras)) :
    found = Function.update (Function.update (defaultNamespace options .nothing) first.dest
      (some (.text word))) second.dest (some (.text text)) := by
  obtain ⟨parsed, state, runCommand, classified, consumed, -, rfl, unknown⟩ :=
    parseKnown_leaf ok
  obtain ⟨others, later, consumed⟩ :=
    consumeWords_value dash separate known kind classified consumed
  obtain ⟨others, nothing, consumed⟩ :=
    consumeWords_value otherDash otherSeparate otherKnown otherKind later consumed
  cases nothing
  obtain ⟨next, left, positionals, rfl⟩ := consumeWords_end rfl consumed
  cases positionals
  rfl

end Leaf

end QuantFactory.Python
