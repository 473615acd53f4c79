import KeyedRecords.Model.Observation
import KeyedRecords.Record.Schema
import KeyedRecords.Store.RecordStore

/-!
# Contexts

A context ties a record store to its gate and to a sink. All contexts of one
handle share one `Runtime`. A panic while the gate is held exclusively poisons
it, and every operation that goes through a poisoned gate fails.

* `Context.load`, `Context.save`, `Context.delete`: the record of the store.
* `Context.replace`: an assignment inside the sink's window, done exactly once.
* `Context.commit`: an assignment that is written back, or undone.
-/

namespace KeyedRecords

open Codec

/-- What keeps an operation on a model from succeeding. A panic is no error that is given back,
    but unwinds past the caller. -/
inductive Failure
  | decode (error : DecodeError)
  | encode (error : EncodeError)
  | store (error : StoreError)
  | poisoned
  | panicked
  deriving DecidableEq, Repr

/-- How an operation ends when reading does without a value. -/
def Failure.ofStop : Stop DecodeError → Failure
  | .fail e => decode e
  | .panic => panicked

def Failure.kind : Failure → String
  | decode e => e.kind
  | encode _ => "EncodeField"
  | store e => e.kind
  | poisoned => "Poisoned"
  | panicked => "Panic"

def Failure.message : Failure → String
  | decode e => e.message
  | encode e => e.message
  | store e => e.message
  | poisoned => "The record gate was poisoned by a panicking writer"
  | panicked => "capacity overflow"

/-- The state that the contexts of one handle share. -/
structure Runtime (σ : Type) where
  store : σ
  poisoned : Bool
  registrar : Registrar
  log : List LogLine

/-- Operations on the shared state that may fail. -/
abbrev Action (σ : Type) := ExceptT Failure (StateM (Runtime σ))

namespace Action

variable {σ : Type}

def log (level : LogLevel) (text : String) : Action σ Unit :=
  modify fun rt => { rt with log := rt.log ++ [⟨level, text⟩] }

/-- Fails when the gate is poisoned (`RecordHandle::shared`). -/
def passGate : Action σ Unit := do
  let rt ← get
  if rt.poisoned then throw .poisoned

def panics {α : Type} : Except Failure α → Bool
  | .error .panicked => true
  | _ => false

/-- Runs an action with the gate held exclusively (`RecordHandle::exclusive`). -/
def exclusively {α : Type} (a : Action σ α) : Action σ α := do
  passGate
  fun rt =>
    let (result, rt) := a rt
    (result, { rt with poisoned := rt.poisoned || panics result })

/-- Runs an operation of the store. -/
def perform {α : Type} (op : σ → StoreReply σ α) : Action σ (Except StoreError α) := do
  let rt ← get
  let reply := op rt.store
  set { rt with store := reply.state, log := rt.log ++ reply.log }
  pure reply.result

def ofStore {α : Type} (r : Except StoreError α) : Action σ α :=
  match r with
  | .ok a => pure a
  | .error e => throw (.store e)

def ofDecode {α : Type} (r : Except (Stop DecodeError) α) : Action σ α :=
  match r with
  | .ok a => pure a
  | .error stop => throw (.ofStop stop)

def ofEncode {α : Type} (r : Except EncodeError α) : Action σ α :=
  match r with
  | .ok a => pure a
  | .error e => throw (.encode e)

/-- The failure of an action as a value. -/
def attempt {α : Type} (a : Action σ α) : Action σ (Except Failure α) := fun rt =>
  let (result, rt) := a rt
  (.ok result, rt)

end Action

/-- A record store with a sink. -/
structure Context (σ : Type) where
  store : RecordStore σ
  sink : Sink

namespace Context

variable {σ : Type}

def location (ctx : Context σ) : String := ctx.store.location

def describe (ctx : Context σ) (r : Registrar) : String :=
  "ModelContext \x7b location: " ++ Text.debugQuote ctx.location ++ ", sink: "
    ++ ctx.sink.describe r ++ " \x7d"

/-! ## The record of the store -/

def isPersisted (ctx : Context σ) : Action σ Bool := do
  Action.passGate
  let result ← Action.perform ctx.store.contains
  Action.ofStore result

/-- The stored container, or none when nothing was written yet
    (`ModelContext::read_container`). -/
def readContainer (ctx : Context σ) : Action σ (Option Container) := do
  Action.passGate
  let result ← Action.perform ctx.store.read
  match result with
  | .ok bytes => some <$> Action.ofDecode (Container.ofBytes bytes)
  | .error e => if e.isNotFound then pure none else throw (.store e)

def load (ctx : Context σ) (s : RecordSchema) : Action σ s.Record := do
  Action.passGate
  let result ← Action.perform ctx.store.read
  let bytes ← Action.ofStore result
  Action.log .debug ("loading record from " ++ ctx.location)
  Action.ofDecode (s.ofBytes bytes)

/-- Writes a whole record (`ModelContext::save`). It is encoded before the gate is
    passed. -/
def save (ctx : Context σ) (s : RecordSchema) (r : s.Record) : Action σ Unit := do
  let bytes ← Action.ofEncode (s.toBytes r)
  Action.passGate
  let result ← Action.perform (ctx.store.write bytes)
  Action.ofStore result
  Action.log .debug ("saved record to " ++ ctx.location)

def delete (ctx : Context σ) : Action σ Unit := do
  Action.passGate
  let result ← Action.perform ctx.store.delete
  Action.ofStore result
  Action.log .debug ("deleted record at " ++ ctx.location)

/-! ## Observed reads and writes -/

/-- Emits an event when the sink forwards events. -/
def notify (ctx : Context σ) (kind : EventKind) (field : FieldId) : Action σ Unit :=
  if ctx.sink.forwards then
    modify fun rt => { rt with registrar := rt.registrar.emit ⟨kind, field⟩ }
  else pure ()

def access (ctx : Context σ) (field : FieldId) : Action σ Unit := do
  Action.log .trace ("access " ++ field.display)
  ctx.notify .access field

/-- A slot, the value it is to be exchanged with, and whether that was done. -/
structure Exchange (α : Type) where
  slot : α
  value : α
  done : Bool

/-- Exchanges slot and value the first time it runs. -/
def Exchange.run {α : Type} (x : Exchange α) : Exchange α :=
  if x.done then x else ⟨x.value, x.slot, true⟩

/-- Replaces the value of a slot inside the sink's window and gives the slot and the
    previous value (`ModelContext::replace`). A sink that skips the mutation does not
    prevent it, and one that repeats it does not undo it. -/
def replace {α : Type} (ctx : Context σ) (field : FieldId) (slot value : α) :
    Action σ (α × α) := do
  Action.log .trace ("mutate " ++ field.display)
  ctx.notify .willMutate field
  let rt ← get
  let exchanged := Nat.repeat Exchange.run (ctx.sink.runs rt.log field) ⟨slot, value, false⟩
  ctx.notify .didMutate field
  let settled := exchanged.run
  pure (settled.slot, settled.value)

/-- Assigns a value to a field of a record and writes the record back
    (`ModelContext::commit`); gives the record and what became of the write. When the write
    fails the previous value is put back. -/
def commit (ctx : Context σ) (s : RecordSchema) (field : FieldId) (r : s.Record)
    (i : Fin s.fields.length) (value : (s.fields.get i).type.Value) :
    Action σ (s.Record × Except Failure Unit) := do
  let (slot, previous) ← ctx.replace field (r.get i) value
  let r := r.set i slot
  let outcome ← (ctx.save s r).attempt
  match outcome with
  | .ok () => pure (r, .ok ())
  | .error e =>
    Action.log .warn
      ("write back of " ++ field.display ++ " to " ++ ctx.location ++ " failed: " ++ e.message)
    let (slot, _) ← ctx.replace field (r.get i) previous
    pure (r.set i slot, .error e)

end Context

end KeyedRecords
