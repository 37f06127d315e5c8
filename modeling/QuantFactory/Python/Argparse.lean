import Mathlib.Data.List.Infix
import Mathlib.Logic.Function.Basic
import QuantFactory.Library.Outcome

/-!
# Command-line parsers

`argparse` for parsers with long options, `-h`, and at most one positional, which may be the
choice of a further parser.  Every word is first taken for an option or an argument; a word
that begins with a dash is an option unless it is the dash alone, looks like a negative number
or has a blank and names no option.  Options may be abbreviated.
-/

set_option autoImplicit false

namespace QuantFactory.Python

open QuantFactory.Library

inductive ArgValue where
  | none
  | flag (value : Bool)
  | text (value : String)
  deriving DecidableEq, Repr

/-- How a parser ends the program: with a usage error, or having shown its help. -/
inductive ParserExit where
  | usageError
  | helpShown
  deriving DecidableEq, Repr

inductive OptionKind where
  | store
  | storeTrue
  | help
  deriving DecidableEq, Repr

structure OptionAction where
  flags : List String
  dest : String
  kind : OptionKind
  required : Bool
  default : ArgValue
  deriving DecidableEq, Repr

def helpOption : OptionAction := ⟨["-h", "--help"], "help", .help, false, .none⟩

def storeOption (flag dest : String) (required : Bool) (default : ArgValue) : OptionAction :=
  ⟨[flag], dest, .store, required, default⟩

def storeTrueOption (flag dest : String) : OptionAction :=
  ⟨[flag], dest, .storeTrue, false, .flag false⟩

inductive Positional where
  | nothing
  | one (dest : String)
  | optional (dest : String)
  /-- `add_subparsers(dest=..., required=True)`. -/
  | commands (dest : String) (names : List String)

inductive ArgParser where
  | leaf (options : List OptionAction) (positional : Positional)
  | group (options : List OptionAction) (dest : String) (choices : List (String × ArgParser))

def ArgParser.options : ArgParser → List OptionAction
  | .leaf options _ => options
  | .group options _ _ => options

def ArgParser.positional : ArgParser → Positional
  | .leaf _ positional => positional
  | .group _ dest choices => .commands dest (choices.map Prod.fst)

def ArgParser.choices : ArgParser → List (String × ArgParser)
  | .leaf _ _ => []
  | .group _ _ choices => choices

abbrev Namespace : Type := String → Option ArgValue

/-- An option found for a word, and what the word has behind it: behind `=` or glued on. -/
structure FoundOption where
  action : OptionAction
  flag : String
  explicit : Option (Bool × String)
  deriving DecidableEq, Repr

inductive WordClass where
  | argument
  /-- A word that looks like an option, the option it names if there is one. -/
  | option (found : Option FoundOption)
  deriving DecidableEq, Repr

/-- `_option_string_actions`. -/
def optionStrings (options : List OptionAction) : List (String × OptionAction) :=
  options.flatMap fun action => action.flags.map fun flag => (flag, action)

/-- What is before the first `=`, and what is behind it if there is one. -/
def partitionEquals (word : List Char) : List Char × Option (List Char) :=
  (word.takeWhile (· ≠ '='), match word.dropWhile (· ≠ '=') with
    | [] => none
    | _ :: rest => some rest)

/-- `_get_option_tuples`: the options that a word beginning with a dash may abbreviate. -/
def optionTuples (options : List OptionAction) (word : String) : List FoundOption :=
  let (before, behind) := partitionEquals word.toList
  if word.toList.take 2 = ['-', '-'] then
    (optionStrings options).filterMap fun (flag, action) =>
      if before.isPrefixOf flag.toList then
        some ⟨action, flag, behind.map fun rest => (true, String.ofList rest)⟩
      else none
  else
    (optionStrings options).filterMap fun (flag, action) =>
      if flag.toList = word.toList.take 2 then
        some ⟨action, flag, some (false, String.ofList (word.toList.drop 2))⟩
      else if word.toList.isPrefixOf flag.toList then some ⟨action, flag, none⟩
      else none

section Parsing
variable (looksNegative : String → Bool)

def looseOption (options : List OptionAction) (word : String) : Except ParserExit WordClass :=
  match optionTuples options word with
  | [found] => .ok (.option (some found))
  | _ :: _ :: _ => .error .usageError
  | [] =>
      if looksNegative word || word.toList.contains ' ' then .ok .argument else .ok (.option none)

/-- `_parse_optional`; `looksNegative` is the pattern of negative numbers. -/
def parseOptional (options : List OptionAction) (word : String) : Except ParserExit WordClass :=
  if word.toList.head? ≠ some '-' then .ok .argument
  else match (optionStrings options).lookup word with
  | some action => .ok (.option (some ⟨action, word, none⟩))
  | none =>
      if word.toList.length = 1 then .ok .argument
      else match partitionEquals word.toList with
      | (_, none) => looseOption looksNegative options word
      | (before, some behind) =>
          match (optionStrings options).lookup (String.ofList before) with
          | some action => .ok (.option (some
              ⟨action, String.ofList before, some (true, String.ofList behind)⟩))
          | none => looseOption looksNegative options word

inductive ParsedWord where
  | argument (word : String)
  | separator
  | option (word : String) (found : Option FoundOption)
  deriving DecidableEq, Repr

def ParsedWord.text : ParsedWord → String
  | .argument word => word
  | .separator => "--"
  | .option word _ => word

def ParsedWord.isOption : ParsedWord → Bool
  | .option _ _ => true
  | _ => false

/-- The pattern of the words: behind `--` all are arguments. -/
def classifyWords (options : List OptionAction) : List String → Except ParserExit (List ParsedWord)
  | [] => .ok []
  | word :: rest =>
      if word = "--" then .ok (.separator :: rest.map .argument)
      else do
        let first ← parseOptional looksNegative options word
        let others ← classifyWords options rest
        match first with
        | .argument => .ok (.argument word :: others)
        | .option found => .ok (.option word found :: others)

/-- The variables of `_parse_known_args`. -/
structure ParseState where
  namespace_ : Namespace
  pending : Bool
  seen : List String
  extras : List String

def ParseState.store (state : ParseState) (dest : String) (value : ArgValue) : ParseState :=
  { state with
    namespace_ := Function.update state.namespace_ dest (some value), seen := dest :: state.seen }

/-- `consume_optional`, with the words behind the option. -/
def consumeOptional (state : ParseState) (word : String) (found : Option FoundOption)
    (rest : List ParsedWord) : Except ParserExit (ParseState × List ParsedWord) :=
  match found with
  | none => .ok ({ state with extras := state.extras ++ [word] }, rest)
  | some ⟨action, flag, explicit⟩ =>
      match action.kind, explicit with
      | .store, some (_, value) => .ok (state.store action.dest (.text value), rest)
      | .store, none =>
          match rest with
          | .argument value :: rest => .ok (state.store action.dest (.text value), rest)
          | _ => .error .usageError
      | .storeTrue, some _ => .error .usageError
      | .storeTrue, none => .ok (state.store action.dest (.flag true), rest)
      | .help, none => .error .helpShown
      | .help, some (behindEquals, value) =>
          -- `-hx` shows the help, `-h=x`, `-h-` and `--help=x` are errors
          if flag.toList.length = 2 && !behindEquals && !value.isEmpty &&
              value.toList.head? ≠ some '-' then .error .helpShown
          else .error .usageError

/-- The words that one positional takes from the front of the pattern: separators around an
argument, or the argument and all behind it. -/
def takenByArgument (words : List ParsedWord) : Option (String × List ParsedWord) :=
  match words.dropWhile (· = .separator) with
  | .argument word :: rest => some (word, rest)
  | _ => none

/-- `consume_positionals`.  `runCommand` parses the words behind the name of a command. -/
def consumePositionals (positional : Positional)
    (runCommand : String → List String → Except ParserExit (Namespace × List String))
    (state : ParseState) (words : List ParsedWord) :
    Except ParserExit (ParseState × List ParsedWord) :=
  if !state.pending then .ok (state, words)
  else match positional with
  | .nothing => .ok (state, words)
  | .one dest =>
      match takenByArgument words with
      | none => .ok (state, words)
      | some (word, rest) => .ok
          ({ state with
              namespace_ := Function.update state.namespace_ dest (some (.text word)),
              pending := false },
            rest.dropWhile (· = .separator))
  | .optional dest =>
      match takenByArgument words with
      | none => .ok ({ state with pending := false }, words.dropWhile (· = .separator))
      | some (word, rest) => .ok
          ({ state with
              namespace_ := Function.update state.namespace_ dest (some (.text word)),
              pending := false },
            rest.dropWhile (· = .separator))
  | .commands dest names =>
      match takenByArgument words with
      | none => .ok (state, words)
      | some (word, rest) =>
          -- a separator before the name is itself taken for the name
          if words.head? = some .separator || !names.contains word then .error .usageError
          else do
            let (found, extras) ← runCommand word (rest.map ParsedWord.text)
            let named := Function.update state.namespace_ dest (some (.text word))
            .ok ({ state with
                    namespace_ := fun key => (found key).or (named key),
                    pending := false,
                    extras := state.extras ++ extras }, [])

/-- The loop of `_parse_known_args`: positionals before the next option, then the option. -/
def consumeWords (positional : Positional)
    (runCommand : String → List String → Except ParserExit (Namespace × List String)) :
    Nat → ParseState → List ParsedWord → Except ParserExit ParseState
  | 0, _, _ => .error .usageError
  | fuel + 1, state, words =>
      if !words.any ParsedWord.isOption then do
        let (state, rest) ← consumePositionals positional runCommand state words
        .ok { state with extras := state.extras ++ rest.map ParsedWord.text }
      else match words with
      | .option word found :: rest => do
          let (state, rest) ← consumeOptional state word found rest
          consumeWords positional runCommand fuel state rest
      | words => do
          let (next, rest) ← consumePositionals positional runCommand state words
          if rest.length < words.length then consumeWords positional runCommand fuel next rest
          else
            -- no positional wants them
            let skipped := words.takeWhile fun word => !word.isOption
            consumeWords positional runCommand fuel
              { next with extras := next.extras ++ skipped.map ParsedWord.text }
              (words.drop skipped.length)

def Positional.required : Positional → Bool
  | .one _ => true
  | .commands _ _ => true
  | _ => false

def Positional.defaults : Positional → Namespace
  | .nothing => fun _ => none
  | .one dest | .optional dest | .commands dest _ => fun key => if key = dest then some .none else none

def defaultNamespace (options : List OptionAction) (positional : Positional) : Namespace :=
  fun key => ((options.find? fun action => action.kind ≠ .help && action.dest == key).map
    OptionAction.default).or (positional.defaults key)

/-- `parse_known_args`: the namespace and the words nobody wanted. -/
def parseKnown : Nat → ArgParser → List String → Except ParserExit (Namespace × List String)
  | 0, _, _ => .error .usageError
  | fuel + 1, parser, words => do
      let parsed ← classifyWords looksNegative parser.options words
      let state ← consumeWords parser.positional
        (fun name rest => match parser.choices.lookup name with
          | none => .error .usageError
          | some command => parseKnown fuel command rest)
        (2 * words.length + 1)
        ⟨defaultNamespace parser.options parser.positional, true, [], []⟩ parsed
      raiseIf (parser.positional.required && state.pending ||
        parser.options.any fun action => action.required && !state.seen.contains action.dest)
          .usageError
      .ok (state.namespace_, state.extras)

def parseArgs (parser : ArgParser) (words : List String) : Except ParserExit Namespace := do
  let (found, extras) ← parseKnown looksNegative (words.length + 1) parser words
  raiseIf (!extras.isEmpty) .usageError
  .ok found

end Parsing

end QuantFactory.Python
