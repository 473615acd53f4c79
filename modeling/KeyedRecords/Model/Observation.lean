import KeyedRecords.Store.RecordStore
import KeyedRecords.Text.Escape

/-!
# Observation of reads and writes

Accessors report every read and write of a field to a sink (§ 10.8 of the
specification). A registrar passes the events on to its observers and, up to a
limit, keeps the latest of them.
-/

namespace KeyedRecords

/-- One field of one model. -/
structure FieldId where
  model : String
  field : String
  deriving DecidableEq, Repr

def FieldId.display (f : FieldId) : String := f.model ++ "." ++ f.field

/-- What happened to a field. -/
inductive EventKind
  | access
  | willMutate
  | didMutate
  deriving DecidableEq, Repr

def EventKind.name : EventKind → String
  | access => "Access"
  | willMutate => "WillMutate"
  | didMutate => "DidMutate"

def EventKind.ofName (name : String) : Option EventKind :=
  [access, willMutate, didMutate].find? fun k => k.name == name

structure Event where
  kind : EventKind
  field : FieldId
  deriving DecidableEq, Repr

/-- A registrar (`ObservationRegistrar`). `history` holds the latest events, oldest first,
    and `calls` every call of an observer, by number and in order. -/
structure Registrar where
  limit : Nat
  history : List Event
  observers : Nat
  calls : List (Nat × Event)
  deriving Repr

namespace Registrar

/-- A registrar that keeps up to `limit` events (`with_history`). -/
def withHistory (limit : Nat) : Registrar := ⟨limit, [], 0, []⟩

/-- Records an event: at the limit the oldest one makes room. -/
def record (limit : Nat) (history : List Event) (e : Event) : List Event :=
  if 0 < limit then
    (if history.length = limit then history.drop 1 else history) ++ [e]
  else history

/-- Records an event and passes it to every observer (`emit`). -/
def emit (r : Registrar) (e : Event) : Registrar :=
  { r with
    history := record r.limit r.history e
    calls := r.calls ++ (List.range r.observers).map fun n => (n, e) }

def observe (r : Registrar) : Registrar := { r with observers := r.observers + 1 }

/-- The kept events, oldest first. -/
def events (r : Registrar) : List Event := r.history

/-- The kept events; they are forgotten. -/
def drain (r : Registrar) : List Event × Registrar := (r.history, { r with history := [] })

def count (r : Registrar) (e : Event) : Nat := r.history.count e

/-- The calls of observers; they are forgotten. -/
def takeCalls (r : Registrar) : List (Nat × Event) × Registrar := (r.calls, { r with calls := [] })

def describe (r : Registrar) : String :=
  "ObservationRegistrar \x7b events: " ++ toString r.history.length ++ ", limit: "
    ++ toString r.limit ++ ", observers: " ++ toString r.observers ++ " \x7d"

end Registrar

/-- A sink (`ObservationSink`): whether it forwards events to the registrar, and how often
    it runs the mutation it is handed, which should be once. It need not do so equally often
    each time: it may go by what was logged before. -/
structure Sink where
  forwards : Bool
  runs : List LogLine → FieldId → Nat
  label : String

namespace Sink

/-- The sink that does nothing but run the mutation. -/
def noop : Sink := ⟨false, fun _ _ => 1, "NoopSink"⟩

def registrar : Sink := ⟨true, fun _ _ => 1, "ObservationRegistrar"⟩

/-- A sink that never runs the mutation. -/
def skip : Sink := ⟨false, fun _ _ => 0, "SkipSink"⟩

def twice : Sink := ⟨false, fun _ _ => 2, "TwiceSink"⟩

def describe (s : Sink) (r : Registrar) : String := if s.forwards then r.describe else s.label

end Sink

end KeyedRecords
