import LogPipeline.Filter.Options

/-!
# Filters

The three kinds of filters, their configurations, and the chain of stages that a list of configurations
describes. A filter needs the current year for timestamps that have none.
-/

namespace LogPipeline

inductive FilterConfig where
  | grok (config : Filter.GrokConfig)
  | date (config : Filter.DateConfig)
  | mutate (config : Filter.MutateConfig)
  deriving Repr

inductive Filter where
  | grok (filter : Filter.Grok)
  | date (filter : Filter.Date)
  | mutate (mutation : Filter.Mutation)
  deriving Repr

namespace Filter

def name : Filter → String
  | .grok _ => Grok.name
  | .date filter => filter.name
  | .mutate mutation => mutation.stageName

def process (filter : Filter) (currentYear : Int) (event : Event) : Flow :=
  match filter with
  | .grok filter => filter.process event
  | .date filter => filter.process currentYear event
  | .mutate mutation => .continue (mutation.apply event)

def stage (filter : Filter) (currentYear : Int) : Stage where
  name := filter.name
  process event := (filter.process currentYear event).effect

/-- The filter of a configuration, and the compiler with the matcher it needs. -/
def build (config : FilterConfig) (compiler : LogPipeline.Grok.Compiler) :
    Except ConfigError Filter × LogPipeline.Grok.Compiler :=
  match config with
  | .grok config =>
    let (filter, compiler) := Grok.build config compiler
    (filter.map .grok, compiler)
  | .date config => ((Date.build config).map .date, compiler)
  | .mutate config => ((Mutation.build config).map .mutate, compiler)

/-- The filters of a list of configurations, or the first error. -/
def buildAll : List FilterConfig → LogPipeline.Grok.Compiler →
    Except ConfigError (List Filter) × LogPipeline.Grok.Compiler
  | [], compiler => (.ok [], compiler)
  | config :: rest, compiler =>
    match build config compiler with
    | (.error e, compiler) => (.error e, compiler)
    | (.ok filter, compiler) =>
      let (filters, compiler) := buildAll rest compiler
      (filters.map (filter :: ·), compiler)

/-- The stages of filters. -/
def chain (filters : List Filter) (currentYear : Int) : Chain :=
  ⟨filters.map fun filter => filter.stage currentYear⟩

end Filter

namespace FilterConfig

open Config Config.Readable

variable {α : Type} [Readable α]

/-- A filter is written as a table with the kind of the filter for its only key. -/
def read? (doc : α) : Option FilterConfig := do
  let (kind, options) ← single? doc
  if kind = "grok" then (Filter.GrokConfig.read? options).map .grok
  else if kind = "date" then (Filter.DateConfig.read? options).map .date
  else if kind = "mutate" then (Filter.MutateConfig.read? options).map .mutate
  else none

end FilterConfig

end LogPipeline
