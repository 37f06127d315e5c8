import QuantFactory.Gateway.Client
import QuantFactory.Python.ArgparseRules

/-!
# What a remote agent may ask for

Every accepted list of words goes through three parsers with commands at most, and a last one
without.  The words between are fixed by the allowlist, and an operand is read as itself or not
at all.  The one place where an option changes the request is the idea of `campaign retest`.
-/

set_option autoImplicit false

namespace QuantFactory.Gateway

open QuantFactory.Library QuantFactory.Python

variable {looksNegative : String → Bool}

/-! ## The idea of a retest -/

/-- The word is the flag for all settled ideas, or an abbreviation of it. -/
def AbbreviatesAllSettled (word : String) : Prop :=
  word.toList.isPrefixOf "--all-settled".toList = true

def reasonOption : OptionAction := storeOption "--reason" "reason" true .none

theorem retest_reason {runCommand : String → List String →
      Except ParserExit (Namespace × List String)} {fuel : Nat} {state last : ParseState}
    {reason : String} {others : List ParsedWord}
    (classified : classifyWords looksNegative retestOptions ["--reason", reason] = .ok others)
    (ok : consumeWords (.optional "candidate_id") runCommand (fuel + 2) state others = .ok last) :
    last.namespace_ = Function.update state.namespace_ "reason" (some (.text reason)) ∧
      last.extras = state.extras := by
  obtain ⟨others, nothing, consumed⟩ := consumeWords_value (by decide) (by decide)
    (show (optionStrings retestOptions).lookup "--reason" = some reasonOption by decide) rfl
    classified ok
  cases nothing
  obtain ⟨next, left, positionals, rfl⟩ := consumeWords_end rfl consumed
  rw [consumePositionals] at positionals
  split at positionals
  · cases positionals
    exact ⟨rfl, by simp [ParseState.store]⟩
  · cases positionals
    exact ⟨rfl, by simp [ParseState.store]⟩

structure RetestParsed (looksNegative : String → Bool) (idea reason : String) (found : Namespace)
    (candidateId : ArgValue) (allSettled : Bool) : Prop where
  named : found "candidate_id" = some candidateId
  given : found "reason" = some (.text reason)
  settled : found "all_settled" = some (.flag allSettled)
  others : ∀ key, key ≠ "candidate_id" → key ≠ "reason" → key ≠ "all_settled" → found key = none
  all : allSettled = true → AbbreviatesAllSettled idea ∧ candidateId = .none
  literal : parseOptional looksNegative retestOptions idea = .ok .argument →
    candidateId = .text idea ∧ allSettled = false

theorem retestDefaults (key : String) :
    defaultNamespace retestOptions (.optional "candidate_id") key =
      if key = "all_settled" then some (.flag false)
      else if key = "reason" then some .none
      else if key = "candidate_id" then some .none else none := by
  by_cases all : key = "all_settled"
  · subst all
    rfl
  · by_cases reason : key = "reason"
    · subst reason
      rfl
    · simp [defaultNamespace, retestOptions, helpOption, storeTrueOption, storeOption,
        Positional.defaults, all, reason, Ne.symm all, Ne.symm reason]

theorem consumeWords_idea {dest word : String} {others : List ParsedWord}
    {runCommand : String → List String → Except ParserExit (Namespace × List String)} {fuel : Nat}
    {defaults : Namespace} {last : ParseState} {first : String} {found : Option FoundOption}
    {rest : List ParsedWord} (front : others = .option first found :: rest)
    (ok : consumeWords (.optional dest) runCommand (fuel + 1) ⟨defaults, true, [], []⟩
      (.argument word :: others) = .ok last) :
    consumeWords (.optional dest) runCommand fuel
      ⟨Function.update defaults dest (some (.text word)), false, [], []⟩ others = .ok last := by
  subst front
  unfold consumeWords at ok
  rw [if_neg (by simp [ParsedWord.isOption])] at ok
  obtain ⟨⟨next, left⟩, consumed, ok⟩ := bind_eq_ok.mp ok
  cases consumed
  dsimp only at ok
  rw [if_pos (by simp)] at ok
  exact ok

theorem retestOption_cases {word : String} {found : FoundOption}
    (option : parseOptional looksNegative retestOptions word = .ok (.option (some found))) :
    found.action.kind = .help ∨
      (found.action = storeTrueOption "--all-settled" "all_settled" ∧
        (found.explicit = none → AbbreviatesAllSettled word)) ∨
      found.action = reasonOption := by
  obtain ⟨member, starts⟩ := parseOptional_found option
  obtain ⟨action, flag, explicit⟩ := found
  have listed : (flag, action) = ("-h", helpOption) ∨ (flag, action) = ("--help", helpOption) ∨
      (flag, action) = ("--all-settled", storeTrueOption "--all-settled" "all_settled") ∨
      (flag, action) = ("--reason", reasonOption) := by
    simpa [optionStrings, retestOptions, helpOption, storeTrueOption, storeOption, reasonOption]
      using member
  rcases listed with same | same | same | same
  · cases same
    exact .inl rfl
  · cases same
    exact .inl rfl
  · cases same
    exact .inr (.inl ⟨rfl, starts⟩)
  · cases same
    exact .inr (.inr rfl)

theorem classifyWords_reason {words : List String} {parsed : List ParsedWord}
    (ok : classifyWords looksNegative retestOptions ("--reason" :: words) = .ok parsed) :
    ∃ first found rest, parsed = .option first found :: rest := by
  have flag : parseOptional looksNegative retestOptions "--reason" =
      .ok (.option (some ⟨reasonOption, "--reason", none⟩)) := rfl
  rcases classifyWords_cons ok with ⟨same, -⟩ | ⟨rest, -, ⟨plain, -⟩ | ⟨found, -, same⟩⟩
  · exact absurd same (by decide)
  · rw [flag] at plain
    cases plain
  · exact ⟨_, _, _, same⟩

theorem parseKnown_retest {fuel : Nat} {idea reason : String} {found : Namespace}
    (ok : parseKnown looksNegative (fuel + 1) (.leaf retestOptions (.optional "candidate_id"))
      [idea, "--reason", reason] = .ok (found, [])) :
    ∃ candidateId allSettled,
      RetestParsed looksNegative idea reason found candidateId allSettled := by
  obtain ⟨parsed, state, runCommand, classified, consumed, required, rfl, unknown⟩ :=
    parseKnown_leaf ok
  rcases classifyWords_cons classified with
    ⟨rfl, rfl⟩ | ⟨others, later, ⟨argument, rfl⟩ | ⟨named, option, rfl⟩⟩
  · -- behind a separator there is no option, so the reason is missing
    obtain ⟨next, left, positionals, rfl⟩ := consumeWords_end rfl consumed
    cases positionals
    cases required
  · obtain ⟨first, found, rest, front⟩ := classifyWords_reason later
    obtain ⟨final, -⟩ := retest_reason later (consumeWords_idea front consumed)
    refine ⟨.text idea, false, ?_, ?_, ?_, ?_, by simp, fun _ => ⟨rfl, rfl⟩⟩
    · rw [final]
      simp [Function.update]
    · rw [final]
      simp
    · rw [final]
      simp [Function.update, retestDefaults]
    · intro key id given settled
      rw [final]
      simp [Function.update, retestDefaults, id, given, settled]
  · obtain ⟨next, left, consumed, ran⟩ := consumeWords_option consumed
    have read : parseOptional looksNegative retestOptions idea ≠ .ok .argument := by
      rw [option]
      simp
    cases named with
    | none =>
        cases consumed
        obtain ⟨-, extras⟩ := retest_reason later ran
        rw [extras] at unknown
        cases unknown
    | some named =>
        obtain ⟨action, flag, explicit⟩ := named
        rcases retestOption_cases option with help | ⟨settled, abbreviates⟩ | given
        · exact absurd consumed (consumeOptional_help help)
        · dsimp only at settled abbreviates
          subst settled
          cases explicit with
          | some pair => cases consumed
          | none =>
              cases consumed
              obtain ⟨final, -⟩ := retest_reason later ran
              refine ⟨.none, true, ?_, ?_, ?_, ?_, fun _ => ⟨abbreviates rfl, rfl⟩,
                fun plain => absurd plain read⟩
              · rw [final]
                simp [Function.update, ParseState.store, retestDefaults, storeTrueOption]
              · rw [final]
                simp
              · rw [final]
                simp [Function.update, ParseState.store, storeTrueOption]
              · intro key id given settled
                rw [final]
                simp [Function.update, ParseState.store, storeTrueOption, retestDefaults, id, given,
                  settled]
        · dsimp only at given
          subst given
          have stored : ∃ value, next = ParseState.store ⟨defaultNamespace retestOptions
              (.optional "candidate_id"), true, [], []⟩ "reason" (.text value) ∧ left = others := by
            cases explicit with
            | some pair =>
                cases consumed
                exact ⟨_, rfl, rfl⟩
            | none =>
                obtain ⟨value, same, -⟩ := consumeOptional_store rfl consumed
                obtain ⟨first, found, rest, front⟩ := classifyWords_reason later
                rw [front] at same
                cases same
          obtain ⟨value, rfl, rfl⟩ := stored
          obtain ⟨final, -⟩ := retest_reason later ran
          refine ⟨.none, false, ?_, ?_, ?_, ?_, by simp, fun plain => absurd plain read⟩
          · rw [final]
            simp [Function.update, ParseState.store, retestDefaults]
          · rw [final]
            simp
          · rw [final]
            simp [Function.update, ParseState.store, retestDefaults]
          · intro key id given settled
            rw [final]
            simp [Function.update, ParseState.store, retestDefaults, id, given, settled]

/-! ## What the accepted words ask for -/

/-- The attribute an operand of a command with one operand is sent under. -/
def operandName (group action : String) : String :=
  if group = "run" && action ≠ "request" then "run_id"
  else if group = "data" then "dataset_id" else "candidate_id"

/-- The operation an accepted list of words asks for, with its operands. -/
inductive Asks (looksNegative : String → Bool) : List String → Operation → Prop
  | bare {words : List String} (accepted : words ∈ bareCommands) :
      Asks looksNegative words ⟨".".intercalate words, [], none⟩
  | operand {group action : String} (id : String)
      (accepted : [group, action] ∈ ["run", "request"] :: ["campaign", "requeue"] :: readWithId) :
      Asks looksNegative [group, action, id]
        ⟨group ++ "." ++ action, [(operandName group action, .value (.text id))], none⟩
  | finishedSince (since : String) :
      Asks looksNegative ["candidate", "status", "--finished-since", since] ⟨"candidate.status",
        if since = "" then [] else [("finished_since", .value (.text since))], none⟩
  | query (text : String) :
      Asks looksNegative ["prior", "search", "--query", text]
        ⟨"prior.search", [("query", .value (.text text))], none⟩
  | packet {action : String} (accepted : action ∈ ["validate", "submit"]) :
      Asks looksNegative ["candidate", action, "-"]
        ⟨"candidate." ++ action, [], some .standardInput⟩
  | note (target : String) :
      Asks looksNegative ["research", "note", "add", "--candidate", target, "--file", "-"]
        ⟨"research.note.add", [("candidate_id", .value (.text target))], some .standardInput⟩
  | retest {idea : String} (reason : String) {candidateId : ArgValue} {allSettled : Bool}
      (all : allSettled = true → AbbreviatesAllSettled idea ∧ candidateId = .none)
      (literal : parseOptional looksNegative retestOptions idea = .ok .argument →
        candidateId = .text idea ∧ allSettled = false) :
      Asks looksNegative ["campaign", "retest", idea, "--reason", reason] ⟨"campaign.retest",
        [("candidate_id", .value candidateId), ("reason", .value (.text reason)),
          ("all_settled", .value (.flag allSettled))], none⟩

theorem words_eq {words front behind : List String} {count : Nat}
    (head : words.take count = front) (tail : words.drop count = behind) :
    words = front ++ behind := by
  rw [← head, ← tail, List.take_append_drop]

theorem isAllowed_cases {words : List String} (allowed : isAllowed words = true) :
    words ∈ bareCommands ∨
      (∃ since, words = ["candidate", "status", "--finished-since", since]) ∨
      (∃ text, words = ["prior", "search", "--query", text]) ∨
      (∃ group action id, words = [group, action, id] ∧
        [group, action] ∈ ["run", "request"] :: ["campaign", "requeue"] :: readWithId) ∨
      (∃ idea reason, words = ["campaign", "retest", idea, "--reason", reason]) ∨
      (∃ action ∈ ["validate", "submit"], words = ["candidate", action, "-"]) ∨
      ∃ target, words = ["research", "note", "add", "--candidate", target, "--file", "-"] := by
  simp only [isAllowed, Bool.or_eq_true, Bool.and_eq_true, beq_iff_eq] at allowed
  rcases allowed with
    (((((((bare | since) | query) | read) | requeue) | retest) | packet) | request) | note
  · exact .inl (List.contains_iff_mem.mp bare)
  · obtain ⟨length, head⟩ := since
    obtain ⟨since, tail⟩ := List.length_eq_one_iff.mp
      (show (words.drop 3).length = 1 by rw [List.length_drop, length])
    exact .inr (.inl ⟨since, words_eq head tail⟩)
  · obtain ⟨⟨length, head⟩, flag⟩ := query
    obtain ⟨flagWord, text, tail⟩ := List.length_eq_two.mp
      (show (words.drop 2).length = 2 by rw [List.length_drop, length])
    have same := words_eq head tail
    subst same
    cases flag
    exact .inr (.inr (.inl ⟨text, rfl⟩))
  · obtain ⟨length, head⟩ := read
    obtain ⟨group, action, id, rfl⟩ := List.length_eq_three.mp length
    have listed : [group, action] ∈ readWithId := List.contains_iff_mem.mp head
    exact .inr (.inr (.inr (.inl ⟨group, action, id, rfl,
      List.mem_cons_of_mem _ (List.mem_cons_of_mem _ listed)⟩)))
  · obtain ⟨length, head⟩ := requeue
    obtain ⟨group, action, id, rfl⟩ := List.length_eq_three.mp length
    have listed : [group, action] = ["campaign", "requeue"] := head
    exact .inr (.inr (.inr (.inl ⟨group, action, id, rfl, by simp [listed]⟩)))
  · obtain ⟨⟨length, head⟩, flag⟩ := retest
    obtain ⟨idea, flagWord, reason, tail⟩ := List.length_eq_three.mp
      (show (words.drop 2).length = 3 by rw [List.length_drop, length])
    have same := words_eq head tail
    subst same
    cases flag
    exact .inr (.inr (.inr (.inr (.inl ⟨idea, reason, rfl⟩))))
  · have listed := List.contains_iff_mem.mp packet
    refine .inr (.inr (.inr (.inr (.inr (.inl ?_)))))
    rcases List.mem_cons.mp listed with rfl | listed
    · exact ⟨"validate", by simp, rfl⟩
    · exact ⟨"submit", by simp, List.mem_singleton.mp listed⟩
  · obtain ⟨length, head⟩ := request
    obtain ⟨group, action, id, rfl⟩ := List.length_eq_three.mp length
    have listed : [group, action] = ["run", "request"] := head
    exact .inr (.inr (.inr (.inl ⟨group, action, id, rfl, by simp [listed]⟩)))
  · obtain ⟨⟨⟨length, head⟩, flag⟩, file⟩ := note
    obtain ⟨flagWord, target, fileFlag, path, tail⟩ := List.length_eq_four.mp
      (show (words.drop 3).length = 4 by rw [List.length_drop, length])
    have same := words_eq head tail
    subst same
    cases flag
    cases file
    exact .inr (.inr (.inr (.inr (.inr (.inr ⟨target, rfl⟩)))))

/-! ## The request of the accepted words -/

section Requests
variable {environment : ClientEnvironment} {group action : String} {request : ClientRequest}

/-- The attributes found behind a group, with those of the main parser. -/
def underGroup (environment : ClientEnvironment) (group : String) (inner : Namespace) :
    Namespace := fun key =>
  (inner key).or (Function.update
    (defaultNamespace (mainOptions environment) (.commands "group" [])) "group"
    (some (.text group)) key)

/-- The attributes found behind an action or a further command, with its name. -/
def underAction (dest action : String) (inner : Namespace) : Namespace := fun key =>
  (inner key).or (Function.update (defaultNamespace [helpOption] (.commands dest [])) dest
    (some (.text action)) key)

def requestOf (environment : ClientEnvironment) (operation : Operation) : ClientRequest :=
  ⟨operation, environment.credentialFile.filter (· ≠ ""), environment.socket.getD defaultSocket⟩

theorem requestDocument_eq {inner : Namespace} {operation : Operation}
    (named : Gateway.operation (underGroup environment group inner) = some operation)
    (credential : inner "credential_file" = none) (socket : inner "socket" = none)
    (built : requestDocument (underGroup environment group inner) = some request) :
    request = requestOf environment operation := by
  have file : underGroup environment group inner "credential_file" =
      some (textOrNone environment.credentialFile) := by
    rw [underGroup, credential]
    rfl
  have connected : textAttribute (underGroup environment group inner) "socket" =
      some (environment.socket.getD defaultSocket) := by
    rw [textAttribute, underGroup, socket]
    rfl
  have read : textAttribute (underGroup environment group inner) "credential_file" =
      environment.credentialFile := by
    rw [textAttribute, file]
    cases environment.credentialFile <;> rfl
  simp only [requestDocument, named, file, connected, read, Option.bind_eq_bind,
    Option.bind_some, Option.some.injEq] at built
  rw [← built, requestOf]
  cases environment.credentialFile with
  | none => rfl
  | some path => by_cases empty : path = "" <;> simp [textOrNone, isTruthy, Option.filter, empty]

theorem clientRequest_eq {words : List String}
    (built : clientRequest looksNegative environment words = some request) :
    ∃ args, parseArgs looksNegative (buildParser environment) words = .ok args ∧
      requestDocument args = some request := by
  rw [clientRequest] at built
  split at built
  · cases built
  · exact ⟨_, by assumption, built⟩

theorem parseArgs_group {command : ArgParser} {rest : List String} {args : Namespace}
    (known : (buildParser environment).choices.lookup group = some command)
    (plain : group.toList.head? ≠ some '-')
    (ok : parseArgs looksNegative (buildParser environment) (group :: rest) = .ok args) :
    ∃ inner, parseKnown looksNegative (rest.length + 1) command rest = .ok (inner, []) ∧
      args = underGroup environment group inner := by
  rw [parseArgs] at ok
  obtain ⟨⟨found, extras⟩, parsed, ok⟩ := bind_eq_ok.mp ok
  obtain ⟨clean, ok⟩ := raiseIf_bind_eq_ok.mp ok
  cases ok
  obtain ⟨inner, ran, same⟩ := parseKnown_command known plain parsed
  have nothing : extras = [] := by simpa using clean
  subst nothing
  exact ⟨inner, ran, same⟩

theorem parseArgs_action {actions : List (String × ArgParser)} {leaf : ArgParser}
    {rest : List String} {args : Namespace}
    (known : (buildParser environment).choices.lookup group =
      some (commandGroup "action" actions))
    (plain : group.toList.head? ≠ some '-') (named : actions.lookup action = some leaf)
    (plainAction : action.toList.head? ≠ some '-')
    (ok : parseArgs looksNegative (buildParser environment) (group :: action :: rest) =
      .ok args) :
    ∃ inner, parseKnown looksNegative (rest.length + 1) leaf rest = .ok (inner, []) ∧
      args = underGroup environment group (underAction "action" action inner) := by
  obtain ⟨found, ran, rfl⟩ := parseArgs_group known plain ok
  obtain ⟨inner, parsed, rfl⟩ := parseKnown_command named plainAction ran
  exact ⟨inner, parsed, rfl⟩

theorem request_of_operand {actions : List (String × ArgParser)} {dest id : String}
    {operation : Operation}
    (known : (buildParser environment).choices.lookup group =
      some (commandGroup "action" actions))
    (plain : group.toList.head? ≠ some '-')
    (named : actions.lookup action = some (bareParser (.one dest)))
    (plainAction : action.toList.head? ≠ some '-')
    (asked : Gateway.operation (underGroup environment group (underAction "action" action
      (Function.update (defaultNamespace [helpOption] (.one dest)) dest (some (.text id))))) =
        some operation)
    (credential : dest ≠ "credential_file") (socket : dest ≠ "socket")
    (built : clientRequest looksNegative environment [group, action, id] = some request) :
    request = requestOf environment operation := by
  obtain ⟨args, parsed, built⟩ := clientRequest_eq built
  obtain ⟨inner, ran, rfl⟩ := parseArgs_action known plain named plainAction parsed
  cases parseKnown_one (bare_helps id) ran
  refine requestDocument_eq asked ?_ ?_ built
  · simp [underAction, defaultNamespace, helpOption, Positional.defaults, credential.symm]
  · simp [underAction, defaultNamespace, helpOption, Positional.defaults, socket.symm]

theorem request_of_operands {id : String}
    (accepted : [group, action] ∈ ["run", "request"] :: ["campaign", "requeue"] :: readWithId)
    (built : clientRequest looksNegative environment [group, action, id] = some request) :
    request = requestOf environment
      ⟨group ++ "." ++ action, [(operandName group action, .value (.text id))], none⟩ := by
  simp only [readWithId, List.mem_cons, List.cons.injEq, and_true, List.not_mem_nil, or_false]
    at accepted
  rcases accepted with ⟨rfl, rfl⟩ | ⟨rfl, rfl⟩ | ⟨rfl, rfl⟩ | ⟨rfl, rfl⟩ | ⟨rfl, rfl⟩ |
    ⟨rfl, rfl⟩ | ⟨rfl, rfl⟩ | ⟨rfl, rfl⟩ | ⟨rfl, rfl⟩ | ⟨rfl, rfl⟩ <;>
  exact request_of_operand rfl (by decide) rfl (by decide) rfl (by decide) (by decide) built

theorem request_of_bare {words : List String} (accepted : words ∈ bareCommands)
    (built : clientRequest looksNegative environment words = some request) :
    request = requestOf environment ⟨".".intercalate words, [], none⟩ := by
  obtain ⟨args, parsed, built⟩ := clientRequest_eq built
  simp only [bareCommands, List.mem_cons, List.not_mem_nil, or_false] at accepted
  rcases accepted with rfl | rfl | rfl | rfl | rfl | rfl
  · have known : (buildParser environment).choices.lookup "bootstrap" =
        some (bareParser .nothing) := rfl
    obtain ⟨inner, ran, rfl⟩ := parseArgs_group known (by decide) parsed
    cases parseKnown_nothing ran
    exact requestDocument_eq rfl rfl rfl built
  all_goals
    obtain ⟨inner, ran, rfl⟩ := parseArgs_action rfl (by decide) rfl (by decide) parsed
    cases parseKnown_nothing ran
    exact requestDocument_eq rfl rfl rfl built

theorem request_of_value {actions : List (String × ArgParser)} {options : List OptionAction}
    {flag word : String} {option : OptionAction} {operation : Operation}
    (known : (buildParser environment).choices.lookup group =
      some (commandGroup "action" actions))
    (plain : group.toList.head? ≠ some '-')
    (named : actions.lookup action = some (.leaf options .nothing))
    (plainAction : action.toList.head? ≠ some '-')
    (listed : (optionStrings options).lookup flag = some option) (store : option.kind = .store)
    (dash : flag.toList.head? = some '-') (other : flag ≠ "--")
    (asked : Gateway.operation (underGroup environment group (underAction "action" action
      (Function.update (defaultNamespace options .nothing) option.dest (some (.text word))))) =
        some operation)
    (built : clientRequest looksNegative environment [group, action, flag, word] = some request)
    (credential : underAction "action" action (Function.update (defaultNamespace options .nothing)
      option.dest (some (.text word))) "credential_file" = none)
    (socket : underAction "action" action (Function.update (defaultNamespace options .nothing)
      option.dest (some (.text word))) "socket" = none) :
    request = requestOf environment operation := by
  obtain ⟨args, parsed, built⟩ := clientRequest_eq built
  obtain ⟨inner, ran, rfl⟩ := parseArgs_action known plain named plainAction parsed
  cases parseKnown_value dash other listed store ran
  exact requestDocument_eq asked credential socket built

theorem request_of_query {text : String}
    (built : clientRequest looksNegative environment ["prior", "search", "--query", text] =
      some request) :
    request = requestOf environment ⟨"prior.search", [("query", .value (.text text))], none⟩ :=
  request_of_value rfl (by decide) rfl (by decide)
    (show _ = some (storeOption "--query" "query" true .none) by decide) rfl (by decide)
    (by decide) rfl built rfl rfl

theorem request_of_finishedSince {since : String}
    (built : clientRequest looksNegative environment
      ["candidate", "status", "--finished-since", since] = some request) :
    request = requestOf environment ⟨"candidate.status",
      if since = "" then [] else [("finished_since", .value (.text since))], none⟩ := by
  refine request_of_value rfl (by decide) rfl (by decide)
    (show _ = some (storeOption "--finished-since" "finished_since" false .none) by decide) rfl
    (by decide) (by decide) ?_ built rfl rfl
  show some (Operation.mk "candidate.status" (if isTruthy (.text since) then
    [("finished_since", .value (.text since))] else []) none) = _
  by_cases empty : since = "" <;> simp [isTruthy, empty]

theorem request_of_packet {action : String} (accepted : action ∈ ["validate", "submit"])
    (built : clientRequest looksNegative environment ["candidate", action, "-"] = some request) :
    request = requestOf environment ⟨"candidate." ++ action, [], some .standardInput⟩ := by
  obtain ⟨args, parsed, built⟩ := clientRequest_eq built
  rcases List.mem_pair.mp accepted with rfl | rfl <;>
  · obtain ⟨inner, ran, rfl⟩ := parseArgs_action rfl (by decide) rfl (by decide) parsed
    cases parseKnown_one (fun named option => by cases option) ran
    exact requestDocument_eq rfl rfl rfl built

theorem request_of_note {target : String}
    (built : clientRequest looksNegative environment
      ["research", "note", "add", "--candidate", target, "--file", "-"] = some request) :
    request = requestOf environment ⟨"research.note.add",
      [("candidate_id", .value (.text target))], some .standardInput⟩ := by
  obtain ⟨args, parsed, built⟩ := clientRequest_eq built
  obtain ⟨found, ran, rfl⟩ := parseArgs_action rfl (by decide) rfl (by decide) parsed
  obtain ⟨inner, added, rfl⟩ := parseKnown_command rfl (by decide) ran
  cases parseKnown_two_values (by decide) (by decide)
    (show _ = some (storeOption "--candidate" "candidate_id" true .none) by decide) rfl
    (by decide) (by decide) (show _ = some (storeOption "--file" "file" true .none) by decide) rfl
    added
  exact requestDocument_eq rfl rfl rfl built

theorem request_of_retest {idea reason : String}
    (built : clientRequest looksNegative environment
      ["campaign", "retest", idea, "--reason", reason] = some request) :
    ∃ operation, Asks looksNegative ["campaign", "retest", idea, "--reason", reason] operation ∧
      request = requestOf environment operation := by
  obtain ⟨args, parsed, built⟩ := clientRequest_eq built
  obtain ⟨inner, ran, rfl⟩ := parseArgs_action rfl (by decide) rfl (by decide) parsed
  obtain ⟨candidateId, allSettled, retest⟩ := parseKnown_retest ran
  have others (key : String) (id : key ≠ "candidate_id") (given : key ≠ "reason")
      (settled : key ≠ "all_settled") : underAction "action" "retest" inner key =
        underAction "action" "retest" (fun _ => none) key := by
    rw [underAction, retest.others key id given settled]
    rfl
  have group : underGroup environment "campaign" (underAction "action" "retest" inner) "group" =
      some (.text "campaign") := by
    rw [underGroup, others _ (by decide) (by decide) (by decide)]
    rfl
  have action : underGroup environment "campaign" (underAction "action" "retest" inner) "action" =
      some (.text "retest") := by
    rw [underGroup, others _ (by decide) (by decide) (by decide)]
    rfl
  refine ⟨_, .retest reason retest.all retest.literal, requestDocument_eq ?_ ?_ ?_ built⟩
  · simp [Gateway.operation, textAttribute, group, campaignOperation, action]
    simp [underGroup, underAction, retest.named, retest.given, retest.settled]
  · exact others _ (by decide) (by decide) (by decide)
  · exact others _ (by decide) (by decide) (by decide)

theorem asks_of_clientRequest {words : List String} (allowed : isAllowed words = true)
    (built : clientRequest looksNegative environment words = some request) :
    ∃ operation, Asks looksNegative words operation ∧
      request = requestOf environment operation := by
  rcases isAllowed_cases allowed with bare | ⟨since, rfl⟩ | ⟨text, rfl⟩ |
    ⟨group, action, id, rfl, accepted⟩ | ⟨idea, reason, rfl⟩ | ⟨action, accepted, rfl⟩ |
    ⟨target, rfl⟩
  · exact ⟨_, .bare bare, request_of_bare bare built⟩
  · exact ⟨_, .finishedSince since, request_of_finishedSince built⟩
  · exact ⟨_, .query text, request_of_query built⟩
  · exact ⟨_, .operand id accepted, request_of_operands accepted built⟩
  · exact request_of_retest built
  · exact ⟨_, .packet accepted, request_of_packet accepted built⟩
  · exact ⟨_, .note target, request_of_note built⟩

end Requests

/-! ## Confinement -/

theorem allowedArguments_eq_ok {command : String} {words : List String}
    (allowed : allowedArguments command = .ok words) : isAllowed words = true := by
  rw [allowedArguments] at allowed
  split at allowed
  · cases allowed
  · cases allowed
  · split at allowed
    · cases allowed
    · split at allowed
      · cases allowed
        assumption
      · cases allowed

structure Confined (looksNegative : String → Bool) (environment : ClientEnvironment)
    (words : List String) (request : ClientRequest) : Prop where
  asks : Asks looksNegative words request.operation
  noFile : ∀ path, request.operation.payload ≠ some (.file path)
  socket : request.socket = environment.socket.getD defaultSocket
  credential : request.credentialFile = environment.credentialFile.filter (· ≠ "")
  allIdeas : ("all_settled", .value (.flag true)) ∈ request.operation.arguments →
    ∃ flag reason, words = ["campaign", "retest", flag, "--reason", reason] ∧
      AbbreviatesAllSettled flag ∧
      ("candidate_id", .value .none) ∈ request.operation.arguments

theorem Asks.noFile {words : List String} {operation : Operation}
    (asks : Asks looksNegative words operation) (path : String) :
    operation.payload ≠ some (.file path) := by
  cases asks <;> simp

theorem Asks.allIdeas {words : List String} {operation : Operation}
    (asks : Asks looksNegative words operation)
    (all : ("all_settled", .value (.flag true)) ∈ operation.arguments) :
    ∃ flag reason, words = ["campaign", "retest", flag, "--reason", reason] ∧
      AbbreviatesAllSettled flag ∧ ("candidate_id", .value .none) ∈ operation.arguments := by
  cases asks with
  | bare | packet => cases all
  | operand | query | note => simp at all
  | finishedSince since => by_cases empty : since = "" <;> simp [empty] at all
  | retest reason settled literal =>
      obtain ⟨abbreviates, rfl⟩ := settled (by simpa using all)
      exact ⟨_, _, rfl, abbreviates, by simp⟩

/-- **Confinement.** Whatever command the allowlist accepts, the request built of it asks for
the operation of its words with their operands, reads no file but the standard input, and goes
to the socket of the environment; all ideas at once are asked for only by the flag. -/
theorem ssh_requests_are_confined {looksNegative : String → Bool}
    {environment : ClientEnvironment} {command : String} {words : List String}
    {request : ClientRequest} (allowed : allowedArguments command = .ok words)
    (built : clientRequest looksNegative environment words = some request) :
    Confined looksNegative environment words request := by
  obtain ⟨operation, asks, rfl⟩ := asks_of_clientRequest (allowedArguments_eq_ok allowed) built
  exact ⟨asks, asks.noFile, rfl, rfl, asks.allIdeas⟩

theorem ssh_candidate_get_is_confined :
    Confined (fun _ => false) ⟨none, none⟩ ["candidate", "get", "qfc_1"]
      ⟨⟨"candidate.get", [("candidate_id", .value (.text "qfc_1"))], none⟩, none,
        defaultSocket⟩ := by
  have allowed : allowedArguments "qf-agent candidate get qfc_1" =
      .ok ["candidate", "get", "qfc_1"] := by decide +kernel
  exact ssh_requests_are_confined allowed (by decide +kernel)

/-- The accepted flag of `campaign retest` asks for every settled idea. -/
theorem ssh_retest_of_all_ideas :
    ∃ words request,
      allowedArguments "qf-agent campaign retest --all-settled --reason x" = .ok words ∧
      clientRequest (fun _ => false) ⟨none, none⟩ words = some request ∧
      ("candidate_id", .value .none) ∈ request.operation.arguments ∧
      ("all_settled", .value (.flag true)) ∈ request.operation.arguments := by
  refine ⟨["campaign", "retest", "--all-settled", "--reason", "x"],
    ⟨⟨"campaign.retest", [("candidate_id", .value .none), ("reason", .value (.text "x")),
      ("all_settled", .value (.flag true))], none⟩, none, defaultSocket⟩, ?_, ?_, ?_, ?_⟩
  · decide +kernel
  · decide +kernel
  · simp
  · simp

end QuantFactory.Gateway
