import AgentFlow.Emit.Flow

/-!
# Emitting guardrails

A guardrail loads its policies, checks a text against them, and gates the rest of its path on the
outcome.  The text is given by an expression, or it is the text that the guardrail before has
checked, or the text of the input.
-/

namespace AgentFlow.Emit

open Workflow

/-! ## Emitting file searches

A search in a store of files through the shared client.
-/

def clientImports : List Module.Import :=
  [⟨"openai", "AsyncOpenAI"⟩, ⟨"types", "SimpleNamespace"⟩]

def clientDeclaration : Module.Declaration where
  key := "shared_client"
  group := .clients
  lines :=
    [client ++ " = AsyncOpenAI()",
      guardrailContext ++ " = SimpleNamespace(guardrail_llm=" ++ client ++ ")"]

def emitFileSearch (context : Context) (config : FileSearch) : Build Emission := do
  let unit := context.unit
  let limit := config.maxResults.getD context.settings.fileSearchMaxResults
  let result ← allocate "filesearch_result"
  let search : Text := "(await " ++ client ++ ".vector_stores.search(" ++
    "vector_store_id=" ++ config.storeId.doubleQuoted ++ ", " ++
    "query=" ++ config.query.doubleQuoted ++ ", " ++
    "max_num_results=" ++ Text.ofInt limit ++ ")).data"
  return { statements :=
             [.raw [result ++ " = \x7b\"results\": [",
               unit ++ "\x7b",
               unit ++ unit ++ "\"id\": result.file_id,",
               unit ++ unit ++ "\"filename\": result.filename,",
               unit ++ unit ++ "\"score\": result.score,",
               unit ++ "\x7d for result in " ++ search,
               "]\x7d"]]
           result := some result
           imports := clientImports
           declarations := [clientDeclaration] }

/-! ## Guardrails -/

def defaultConfidence : Json := .float (Binary64.ofDecimal false 7 (-1))

def policyEntry (policy : Policy) : Except Error Json :=
  let entry (name : Text) (config : Entries) : Json :=
    .obj [("name", .str name), ("config", .obj config)]
  if policy.kind = "moderation" then do
    let categories ← liftShape (policy.config.getOr "categories" (.arr [])).items
    return entry "Moderation" [("categories", .arr categories)]
  else if policy.kind = "pii" then do
    let entities ← liftShape (policy.config.getOr "entities" (.arr [])).items
    return entry "Contains PII"
      [("block", .bool (policy.config.get? "block" = some (.bool true))),
        ("entities", .arr entities)]
  else if policy.kind = "jailbreak" then
    return entry "Jailbreak"
      [("model", policy.config.getOr "model" (.str "gpt-4o-mini")),
        ("confidence_threshold", policy.config.getOr "confidence_threshold" defaultConfidence)]
  else return entry policy.kind policy.config

/-- The keys of a failure that are copied to the output. -/
def failureKeys : List Text :=
  ["flagged", "confidence", "threshold", "hallucination_type", "hallucinated_statements",
    "verified_statements"]

def tripwireHelper (unit : Text) : List Text :=
  ["def guardrails_has_tripwire(results):",
    unit ++
      "return any(getattr(r, \"tripwire_triggered\", False) is True for r in (results or []))"]

def checkedTextHelper (unit : Text) : List Text :=
  let deeper (depth : Nat) (line : Text) : Text := Text.repeated depth unit ++ line
  ["def get_guardrail_checked_text(results, fallback_text):",
    deeper 1 "for r in (results or []):",
    deeper 2 "info = getattr(r, \"info\", None) or \x7b\x7d",
    deeper 2 "if isinstance(info, dict) and (\"checked_text\" in info):",
    deeper 3 "return info.get(\"checked_text\") or fallback_text",
    deeper 1 "return fallback_text"]

def failureHelper (unit : Text) : List Text :=
  let deeper (depth : Nat) (line : Text) : Text := Text.repeated depth unit ++ line
  let keys := Text.join ", " (failureKeys.map Text.doubleQuoted)
  ["def build_guardrail_fail_output(results):",
    deeper 1 "failures = []",
    deeper 1 "for r in (results or []):",
    deeper 2 "if getattr(r, \"tripwire_triggered\", False):",
    deeper 3 "info = getattr(r, \"info\", None) or \x7b\x7d",
    deeper 3 "failure = \x7b",
    deeper 4 "\"guardrail_name\": info.get(\"guardrail_name\"),",
    deeper 3 "\x7d",
    deeper 3 ("for key in (" ++ keys ++ "):"),
    deeper 4 "if key in (info or \x7b\x7d):",
    deeper 5 "failure[key] = info.get(key)",
    deeper 3 "failures.append(failure)",
    deeper 1 "return \x7b\"failed\": len(failures) > 0, \"failures\": failures\x7d"]

def helperDeclaration (unit : Text) : Module.Declaration where
  key := "guardrail_helpers"
  group := .guardrailHelpers
  lines :=
    ([] : Text) :: tripwireHelper unit ++ ([] : Text) :: checkedTextHelper unit ++
      ([] : Text) :: failureHelper unit

structure GuardrailNames where
  bundle : Text
  input : Text
  result : Text
  tripwire : Text
  checked : Text
  output : Text

def guardrailNames : Build GuardrailNames := do
  let bundle ← allocate "guardrails_config"
  let input ← allocate "guardrails_inputtext"
  let result ← allocate "guardrails_result"
  let tripwire ← allocate "guardrails_hastripwire"
  let checked ← allocate "guardrails_anonymizedtext"
  let output ← allocate "guardrails_output"
  return { bundle, input, result, tripwire, checked, output }

def guardrailStage (names : GuardrailNames) : Statement :=
  .raw
    [names.result ++ " = await run_guardrails(" ++ guardrailContext ++ ", " ++ names.input ++
        ", \"text/plain\", " ++ "instantiate_guardrails(load_config_bundle(" ++ names.bundle ++
        ")), suppress_tripwire=True)",
      names.tripwire ++ " = guardrails_has_tripwire(" ++ names.result ++ ")",
      names.checked ++ " = get_guardrail_checked_text(" ++ names.result ++ ", " ++ names.input ++
        ")",
      names.output ++ " = (" ++ names.tripwire ++ " and build_guardrail_fail_output(" ++
        names.result ++ " or [])) " ++ "or (" ++ names.checked ++ " or " ++ names.input ++ ")"]

/-- The statement that runs the checks and goes on with the unchecked text when they break. -/
def guardedStage (context : Context) (names : GuardrailNames) : Build Statement := do
  let failure ← allocate "guardrails_error"
  let record ← allocate "guardrails_errorresult"
  let description ← liftError (layout context
    (.dict [("message", .code ("getattr(" ++ failure ++ ", \"message\", \"Unknown error\")"))]))
  return .attempt [guardrailStage names] failure
    [.raw (assignmentLines record description),
      .raw [names.result ++ " = []", names.tripwire ++ " = False",
        names.checked ++ " = " ++ names.input, names.output ++ " = " ++ names.input]]

def guardrailSource (context : Context) (path : Path) (id : Text) (config : GuardrailConfig) :
    Except Error Text :=
  match config.input with
  | some source =>
    if source.isBlank then .ok (path.guardrailText.getD (inputText context))
    else expression context source path id
  | none => .ok (path.guardrailText.getD (inputText context))

def emitGuardrail (context : Context) (path : Path) (id : Text) (config : GuardrailConfig) :
    Build Emission := do
  let names ← guardrailNames
  let source ← liftError (guardrailSource context path id config)
  let entries ← liftError (config.policies.mapM policyEntry)
  let bundle ← liftError (layout context
    (.dict [("guardrails", .list (entries.map Literal.ofJson))]))
  let stage ←
    if config.continueOnError then guardedStage context names else pure (guardrailStage names)
  return { statements := [.raw [names.input ++ " = " ++ source], stage]
           result := some names.output
           imports := clientImports ++
             [⟨"guardrails.runtime", "load_config_bundle"⟩,
              ⟨"guardrails.runtime", "instantiate_guardrails"⟩,
              ⟨"guardrails.runtime", "run_guardrails"⟩]
           declarations :=
             [clientDeclaration,
              { key := "guardrails_bundle:" ++ names.bundle
                group := .guardrailBundles
                lines := assignmentLines names.bundle bundle },
              helperDeclaration context.unit]
           gate := some { condition := names.tripwire, continueWhen := false
                          fallback := some names.output }
           checkedText := some names.checked }

end AgentFlow.Emit
