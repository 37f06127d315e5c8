import QuantFactory.Python.Argparse
import QuantFactory.Python.Shlex

/-!
# The command-line client and the forced SSH command

`agent_gateway/cli.py` and `agent_gateway/ssh_command.py`: the words a remote agent may send,
the parsers they go through and the request that is built of what these found.
-/

set_option autoImplicit false

namespace QuantFactory.Gateway

open QuantFactory.Library QuantFactory.Python

/-! ## The allowlist -/

def readWithId : List (List String) :=
  [["candidate", "get"], ["run", "status"], ["run", "results"], ["run", "evidence"],
    ["lineage", "get"], ["campaign", "status"], ["run", "trades"], ["data", "download"]]

def bareCommands : List (List String) :=
  [["bootstrap"], ["context", "get"], ["candidate", "list"], ["candidate", "status"],
    ["data", "files"], ["campaign", "control_status"]]

/-- The word lists behind `qf-agent` that `allowed_arguments` returns. -/
def isAllowed (args : List String) : Bool :=
  bareCommands.contains args ||
  (args.length == 4 && args.take 3 == ["candidate", "status", "--finished-since"]) ||
  (args.length == 4 && args.take 2 == ["prior", "search"] && args[2]? == some "--query") ||
  (args.length == 3 && readWithId.contains (args.take 2)) ||
  (args.length == 3 && args.take 2 == ["campaign", "requeue"]) ||
  (args.length == 5 && args.take 2 == ["campaign", "retest"] && args[3]? == some "--reason") ||
  [["candidate", "validate", "-"], ["candidate", "submit", "-"]].contains args ||
  (args.length == 3 && args.take 2 == ["run", "request"]) ||
  (args.length == 7 && args.take 3 == ["research", "note", "add"] &&
    args[3]? == some "--candidate" && args.drop 5 == ["--file", "-"])

/-- `allowed_arguments`; the error is the message of its `ValueError`. -/
def allowedArguments (command : String) : Except String (List String) :=
  match shlexSplit command with
  | none => .error "remote command is not valid"
  | some [] => .error "only qf-agent commands are allowed"
  | some (program :: args) =>
      if program ≠ "qf-agent" then .error "only qf-agent commands are allowed"
      else if isAllowed args then .ok args
      else .error "remote qf-agent command is not in the allowlist"

/-! ## The parsers -/

structure ClientEnvironment where
  socket : Option String
  credentialFile : Option String

def defaultSocket : String := "/run/quant-factory/agent-gateway.sock"

def bareParser (positional : Positional) : ArgParser := .leaf [helpOption] positional

def commandGroup (dest : String) (choices : List (String × ArgParser)) : ArgParser :=
  .group [helpOption] dest choices

def lineageOptions : List OptionAction :=
  [storeOption "--parent-candidate" "parent_candidate" false .none,
    storeOption "--parent-run" "parent_run" false .none,
    storeOption "--change-reason" "change_reason" false .none,
    storeOption "--evidence-cited" "evidence_cited" false .none,
    storeOption "--rule-changed" "rule_changed" false .none,
    storeOption "--material-difference" "material_difference" false .none,
    storeOption "--falsification" "falsification" false .none,
    storeOption "--bounded-search-space" "bounded_search_space" false .none]

def contextParser : ArgParser := commandGroup "action" [("get", bareParser .nothing)]

def priorParser : ArgParser := commandGroup "action"
  [("search", .leaf [helpOption, storeOption "--query" "query" true .none] .nothing)]

def candidateParser : ArgParser := commandGroup "action"
  [("validate", bareParser (.one "file")),
    ("submit", .leaf (helpOption :: lineageOptions) (.one "file")),
    ("list", bareParser .nothing),
    ("status",
      .leaf [helpOption, storeOption "--finished-since" "finished_since" false .none] .nothing),
    ("get", bareParser (.one "candidate_id"))]

def runParser : ArgParser := commandGroup "action"
  [("request", bareParser (.one "candidate_id")), ("status", bareParser (.one "run_id")),
    ("results", bareParser (.one "run_id")), ("evidence", bareParser (.one "run_id")),
    ("trades", bareParser (.one "run_id"))]

def researchParser : ArgParser := commandGroup "action"
  [("note", commandGroup "note_action"
    [("add", .leaf [helpOption, storeOption "--candidate" "candidate_id" true .none,
      storeOption "--file" "file" true .none] .nothing)])]

def lineageParser : ArgParser :=
  commandGroup "action" [("get", bareParser (.one "candidate_id"))]

def retestOptions : List OptionAction :=
  [helpOption, storeTrueOption "--all-settled" "all_settled",
    storeOption "--reason" "reason" true .none]

def campaignParser : ArgParser := commandGroup "action"
  [("status", bareParser (.one "candidate_id")), ("requeue", bareParser (.one "candidate_id")),
    ("control_status", bareParser .nothing),
    ("retest", .leaf retestOptions (.optional "candidate_id"))]

def dataParser : ArgParser := commandGroup "action"
  [("files", bareParser .nothing), ("download", bareParser (.one "dataset_id"))]

def textOrNone : Option String → ArgValue
  | none => .none
  | some text => .text text

def mainOptions (environment : ClientEnvironment) : List OptionAction :=
  [helpOption, storeOption "--socket" "socket" false (.text (environment.socket.getD defaultSocket)),
    storeOption "--credential-file" "credential_file" false (textOrNone environment.credentialFile),
    storeTrueOption "--pretty" "pretty"]

def buildParser (environment : ClientEnvironment) : ArgParser :=
  .group (mainOptions environment) "group"
    [("bootstrap", bareParser .nothing), ("context", contextParser), ("prior", priorParser),
      ("candidate", candidateParser), ("run", runParser), ("research", researchParser),
      ("lineage", lineageParser), ("campaign", campaignParser), ("data", dataParser)]

/-! ## The request -/

inductive PayloadSource where
  | standardInput
  | file (path : String)
  deriving DecidableEq, Repr

/-- `_read_payload`: a dash stands for the standard input. -/
def readPayload (path : String) : PayloadSource :=
  if path = "-" then .standardInput else .file path

inductive RequestArgument where
  | value (value : ArgValue)
  | lineage (fields : List (String × ArgValue))
  deriving DecidableEq, Repr

structure Operation where
  name : String
  arguments : List (String × RequestArgument)
  payload : Option PayloadSource
  deriving DecidableEq, Repr

def textAttribute (args : Namespace) (name : String) : Option String :=
  match args name with
  | some (.text text) => some text
  | _ => none

def isTruthy : ArgValue → Bool
  | .none => false
  | .flag value => value
  | .text text => text ≠ ""

/-- The lineage of `candidate submit`, when one of its options was given. -/
def lineageArguments (args : Namespace) : Option (List (String × RequestArgument)) := do
  let fields ← [("parent_candidate_id", "parent_candidate"), ("parent_run_id", "parent_run"),
    ("change_reason", "change_reason"), ("evidence_cited", "evidence_cited"),
    ("rule_changed", "rule_changed"), ("material_difference", "material_difference"),
    ("falsification", "falsification"), ("bounded_search_space", "bounded_search_space")].mapM
      fun (field, option) => (args option).map fun value => (field, value)
  some (if fields.any fun field => field.2 ≠ .none then [("lineage", .lineage fields)] else [])

def candidateOperation (args : Namespace) (action : String) : Option Operation := do
  if action = "validate" || action = "submit" then
    let file ← textAttribute args "file"
    let arguments ← if action = "submit" then lineageArguments args else some []
    some ⟨"candidate." ++ action, arguments, some (readPayload file)⟩
  else if action = "get" then
    let candidateId ← args "candidate_id"
    some ⟨"candidate." ++ action, [("candidate_id", .value candidateId)], none⟩
  else if action = "status" then
    let finishedSince ← args "finished_since"
    some ⟨"candidate." ++ action,
      if isTruthy finishedSince then [("finished_since", .value finishedSince)] else [], none⟩
  else some ⟨"candidate." ++ action, [], none⟩

def campaignOperation (args : Namespace) (action : String) : Option Operation := do
  if action = "control_status" then some ⟨"campaign.control_status", [], none⟩
  else
    let candidateId ← args "candidate_id"
    if action = "retest" then
      let reason ← args "reason"
      let allSettled ← args "all_settled"
      some ⟨"campaign." ++ action, [("candidate_id", .value candidateId), ("reason", .value reason),
        ("all_settled", .value allSettled)], none⟩
    else some ⟨"campaign." ++ action, [("candidate_id", .value candidateId)], none⟩

def operation (args : Namespace) : Option Operation := do
  let group ← textAttribute args "group"
  if group = "bootstrap" then some ⟨"bootstrap", [], none⟩
  else if group = "context" then some ⟨"context.get", [], none⟩
  else if group = "prior" then
    let query ← args "query"
    some ⟨"prior.search", [("query", .value query)], none⟩
  else if group = "candidate" then candidateOperation args (← textAttribute args "action")
  else if group = "run" then
    let action ← textAttribute args "action"
    if action = "request" then
      let candidateId ← args "candidate_id"
      some ⟨"run." ++ action, [("candidate_id", .value candidateId)], none⟩
    else
      let runId ← args "run_id"
      some ⟨"run." ++ action, [("run_id", .value runId)], none⟩
  else if group = "research" then
    let candidateId ← args "candidate_id"
    let file ← textAttribute args "file"
    some ⟨"research.note.add", [("candidate_id", .value candidateId)], some (readPayload file)⟩
  else if group = "lineage" then
    let candidateId ← args "candidate_id"
    some ⟨"lineage.get", [("candidate_id", .value candidateId)], none⟩
  else if group = "campaign" then campaignOperation args (← textAttribute args "action")
  else if group = "data" then
    let action ← textAttribute args "action"
    if action = "download" then
      let datasetId ← args "dataset_id"
      some ⟨"data." ++ action, [("dataset_id", .value datasetId)], none⟩
    else some ⟨"data." ++ action, [], none⟩
  else none

/-- The request, the file its credential is read from, and the socket it is sent to. -/
structure ClientRequest where
  operation : Operation
  credentialFile : Option String
  socket : String
  deriving DecidableEq, Repr

/-- `request_document` of the parsed words, and the socket `main` connects to. -/
def requestDocument (args : Namespace) : Option ClientRequest := do
  let operation ← operation args
  let credentialFile ← args "credential_file"
  let socket ← textAttribute args "socket"
  some ⟨operation, if isTruthy credentialFile then textAttribute args "credential_file" else none,
    socket⟩

/-- What the client builds for a list of words; with `none` it has exited before. -/
def clientRequest (looksNegative : String → Bool) (environment : ClientEnvironment)
    (words : List String) : Option ClientRequest :=
  match parseArgs looksNegative (buildParser environment) words with
  | .error _ => none
  | .ok args => requestDocument args

end QuantFactory.Gateway
