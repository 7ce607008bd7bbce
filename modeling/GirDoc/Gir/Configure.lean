import GirDoc.Gir.Hierarchy
import GirDoc.Gir.Reading
import GirDoc.Session

/-!
# Configuring introspection

The languages to document, and the introspection files of the project.
-/

namespace GirDoc.Gir

open Session

/-- The languages asked for: C comes first, and without any all three are documented. -/
def chosenLanguages (asked : List String) : List String :=
  let lowered := asked.map Text.lower
  let ordered := if "c" ∈ lowered then "c" :: lowered.erase "c" else lowered
  if ordered.isEmpty then ["c", "python", "javascript"] else ordered

/-- The languages that a configuration asks for. -/
def askedLanguages (config : List (String × Value)) : Except Fault (List String) := do
  let listed ← (Options.itemsOf ((config.lookup "languages").getD (.list []))).mapError
    Fault.ofOptions
  listed.mapM fun
    | .text s => .ok s
    | _ => .error .noSuchPart

/-- Where the introspection files of a session are found. -/
def sourcesOf (env : Environment) : Sources :=
  { files := env.files, listed := env.girSources
    dataDirs := env.dataDirs ++ [env.project.dataDir] }

/-- Reads the introspection files of the project into the index. -/
def readProject : Doc Unit := do
  let s ← get
  match (readSources (sourcesOf s.environment)).run { index := s.index } with
  | none => throw .tooDeep
  | some (result, r) =>
    set { s with index := r.index }
    r.missing.forM fun file => warn "missing-gir-include" ("Couldn't find a gir for " ++ file)
    Attempt.ofExcept result

/-- Configures introspection: the languages, the index and the hierarchies of classes. -/
def configure (config : List (String × Value)) : Doc (List String) := do
  let languages := chosenLanguages (← Attempt.ofExcept (askedLanguages config))
  modify fun s => { s with languages := some languages }
  if !(← given).girSources.isEmpty then modify fun s => { s with owner := .introspection }
  readProject
  Attempt.onPart Session.index (fun index s => { s with index }) createHierarchies
  return languages

/-- The headers among the C sources of the project. -/
def headers (env : Environment) : List String :=
  env.cSources.filter (·.endsWith ".h")

end GirDoc.Gir
