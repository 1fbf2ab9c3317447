import CollectionArchive.Registry.Error
import CollectionArchive.Schema.Error

/-!
# Failures of commands

* `Cause`: what has gone wrong.
* `CommandError`: the cause, and what was being done, from the outside in.
* `CommandError.message`: its wording.
-/

namespace CollectionArchive

/-- What has gone wrong. -/
inductive Cause where
  /-- A file cannot be read. -/
  | file
  /-- A manifest is no TOML, or has not the members of a manifest. -/
  | manifest
  | json (fault : Json.Fault)
  | schema (e : SchemaError)
  | registry (e : RegistryError)
  | pack (e : PackError)

/-- The wording of a cause. -/
def Cause.message : Cause → String
  | file => "I/O error"
  | manifest => "TOML error"
  | json _ => "JSON error"
  | schema e => e.message
  | registry e => e.message
  | pack e => e.message

/-- Why a command fails: what was being done, from the outside in, and the cause if it is not said
there. -/
structure CommandError where
  contexts : List String
  cause : Option Cause

namespace CommandError

/-- The wording of a failure, from the outside in. -/
def message (e : CommandError) : String :=
  ": ".intercalate (e.contexts ++ (e.cause.map Cause.message).toList)

/-- A failure that is a cause alone. -/
def of (cause : Cause) : CommandError :=
  ⟨[], some cause⟩

/-- A failure, and what was being done. -/
def during (context : String) (e : CommandError) : CommandError :=
  { e with contexts := context :: e.contexts }

/-- An outcome whose failure is a cause, and what was being done. -/
def causedBy {ε α : Type} (cause : ε → Cause) (context : String) (x : Except ε α) :
    Except CommandError α :=
  x.mapError fun e => (of (cause e)).during context

/-- An outcome, and what was being done. -/
def within {α : Type} (context : String) (x : Except CommandError α) : Except CommandError α :=
  x.mapError (during context)

/-- What there is, or the failure of a file. -/
def orNoFile {α : Type} (x : Option α) : Except CommandError α :=
  x.elim (.error (of .file)) .ok

end CommandError

end CollectionArchive
