import LogPipeline.Config.Readable
import LogPipeline.Filter.Date
import LogPipeline.Filter.Grok
import LogPipeline.Filter.Mutate

/-!
# Options of filters

How the options of each filter are read off a configuration.
-/

namespace LogPipeline.Filter

open Config Config.Readable

variable {α : Type} [Readable α]

def FailurePolicy.read? (doc : α) : Option FailurePolicy :=
  (choice? doc).bind FailurePolicy.ofName?

def GrokConfig.read? (doc : α) : Option GrokConfig := do
  let options ← Record.read? ["pattern", "on_failure", "source", "tag"] doc
  return {
    pattern := ← options.required? "pattern" text?
    onFailure := ← options.required? "on_failure" FailurePolicy.read?
    source := ← options.optional? "source" text?
    tag := ← options.optional? "tag" text? }

def DateConfig.read? (doc : α) : Option DateConfig := do
  let options ← Record.read? ["field", "patterns", "timezone", "target", "on_failure", "tag"] doc
  return {
    field := ← options.required? "field" text?
    patterns := ← options.required? "patterns" (list? text?)
    timezone := ← options.default? "timezone" "UTC" text?
    target := ← options.optional? "target" text?
    onFailure := ← options.required? "on_failure" FailurePolicy.read?
    tag := ← options.optional? "tag" text? }

def MutateConfig.read? (doc : α) : Option MutateConfig := do
  let options ← Record.read? ["action", "fields", "values", "rename", "tags", "convert"] doc
  return {
    action := ← options.required? "action" text?
    fields := ← options.default? "fields" [] (list? text?)
    values := ← options.default? "values" [] (table? value?)
    rename := ← options.default? "rename" [] (table? text?)
    tags := ← options.default? "tags" [] (list? text?)
    convert := ← options.default? "convert" [] (table? text?) }

end LogPipeline.Filter
