import KeyedRecords.Model.Context

/-!
# Migration

A stored record is classified by its fingerprint. When that is neither of the
current nor of the old keys, the record is probed with the old keys: success or
a missing key means that it still needs migrating, any other error that it is
current (§ 10.6 of the specification).

* `RecordSchema.assess`: the classification.
* `Context.shouldMigrate`: whether the stored record uses the old keys; never writes.
* `Context.migrate`: rewrites such a record under the current keys. A panic on the way poisons
  the gate.
-/

namespace KeyedRecords

open Codec

/-- Which keys a stored record was written with (`RecordAssessment`). -/
inductive Assessment
  | current
  | legacy
  deriving DecidableEq, Repr

def Assessment.name : Assessment → String
  | current => "Current"
  | legacy => "Legacy"

/-- What a migration did. -/
inductive MigrationOutcome
  | noRecord
  | alreadyCurrent
  | migrated
  deriving DecidableEq, Repr

def MigrationOutcome.name : MigrationOutcome → String
  | noRecord => "NoRecord"
  | alreadyCurrent => "AlreadyCurrent"
  | migrated => "Migrated"

namespace RecordSchema

/-- What keeps a record with an unknown fingerprint from counting as legacy. -/
def probe (s : RecordSchema) (c : Container) : Option (Stop DecodeError) :=
  match s.ofMigrated .strict c with
  | .ok _ => none
  | .error (.fail e) => if e.isMissingKey then none else some (.fail e)
  | .error .panic => some .panic

/-- Which keys a container was written with (`assess`). A probe that panics gives no
    answer. -/
def assess (s : RecordSchema) (c : Container) : Option Assessment :=
  if c.isWrittenWith s.keys then some .current
  else if c.isWrittenWith s.oldKeys then some .legacy
  else
    match s.probe c with
    | none => some .legacy
    | some (.fail _) => some .current
    | some .panic => none

/-- The line that is logged when an unknown fingerprint counts as current. -/
def assessLog (model : String) (s : RecordSchema) (c : Container) : List LogLine :=
  if c.isWrittenWith s.keys || c.isWrittenWith s.oldKeys then []
  else
    match s.probe c with
    | some (.fail e) =>
      [⟨.debug, model ++ ": unknown key schema and old keys do not decode (" ++ e.message
        ++ "), treating as current"⟩]
    | _ => []

end RecordSchema

namespace Context

variable {σ : Type}

/-- Classifies a container and logs what is noteworthy. -/
def assess (model : String) (s : RecordSchema) (c : Container) : Action σ Assessment := do
  modify fun rt => { rt with log := rt.log ++ s.assessLog model c }
  match s.assess c with
  | some assessment => pure assessment
  | none => throw .panicked

/-- Whether the stored record still uses the old keys (`should_migrate`). A missing record
    needs no migration; an unreadable one is an error. -/
def shouldMigrate (ctx : Context σ) (model : String) (s : RecordSchema) : Action σ Bool := do
  let stored ← ctx.readContainer
  match stored with
  | none => pure false
  | some c =>
    let assessment ← assess model s c
    Action.log .debug
      (model ++ " record at " ++ ctx.location ++ " is " ++ assessment.name)
    pure (assessment = .legacy)

/-- Writes the values of a container that uses the old keys under the current ones. -/
def rewrite (ctx : Context σ) (model : String) (s : RecordSchema) (c : Container) :
    Action σ MigrationOutcome := do
  let assessment ← assess model s c
  match assessment with
  | .current =>
    Action.log .debug (model ++ ": record at " ++ ctx.location ++ " is already current")
    pure .alreadyCurrent
  | .legacy =>
    let r ← Action.ofDecode (s.ofMigrated .lenient c)
    let bytes ← Action.ofEncode (s.toBytes r)
    let result ← Action.perform (ctx.store.write bytes)
    Action.ofStore result
    Action.log .info (model ++ ": migrated record at " ++ ctx.location)
    pure .migrated

/-- Rewrites the stored record. The gate is held exclusively from the reading to the writing. -/
def migrate (ctx : Context σ) (model : String) (s : RecordSchema) :
    Action σ MigrationOutcome := Action.exclusively do
  let result ← Action.perform ctx.store.read
  match result with
  | .error e =>
    if e.isNotFound then
      Action.log .debug (model ++ ": nothing to migrate at " ++ ctx.location)
      pure .noRecord
    else
      Action.log .warn
        (model ++ ": migration could not read " ++ ctx.location ++ ": " ++ e.message)
      throw (.store e)
  | .ok bytes =>
    let c ← Action.ofDecode (Container.ofBytes bytes)
    ctx.rewrite model s c

end Context

end KeyedRecords
