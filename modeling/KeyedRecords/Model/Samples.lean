import KeyedRecords.Model.Instance

/-!
# Sample models

Small models that show, one by one, what a model may have: ignored and constant
fields, declared keys, integer keys, keys that a migration reads, and no
persisted field at all.
-/

namespace KeyedRecords.Samples

open Codec

def textKey (name literal : String) : KeyCase := ⟨name, .text literal⟩

def intKey (name : String) (literal : Int) : KeyCase := ⟨name, .int (Int64.ofInt literal)⟩

/-- A field under one text. -/
def field (label : String) (type : FieldType) (key : String) : KeyedField :=
  ⟨label, type, .text key, .text key⟩

/-- A field under a new and an old text. -/
def movedField (label : String) (type : FieldType) (key oldKey : String) : KeyedField :=
  ⟨label, type, .text key, .text oldKey⟩

def renumberedField (label : String) (type : FieldType) (key oldKey : Int) : KeyedField :=
  ⟨label, type, .int (Int64.ofInt key), .int (Int64.ofInt oldKey)⟩

def int64 : FieldType := .int true .w64

def nat64 : FieldType := .int false .w64

/-- The keys `number` and `text` of the fields that bear these names. -/
def plainKeys : KeySchema := ⟨.text, [textKey "_number" "number", textKey "_text" "text"]⟩

/-- The same keys under one-letter literals. -/
def shortKeys : KeySchema := ⟨.text, [textKey "Number" "N", textKey "Text" "S"]⟩

def draft : TransientField := ⟨"draft", .string, false⟩

/-- Settings with an ignored field of either sort. -/
def settings : Model where
  name := "Settings"
  storageName := "Default"
  schema :=
    ⟨plainKeys, plainKeys,
      [field "number" int64 "number", field "text" .string "text"]⟩
  ignored := [draft, ⟨"session", .int false .w32, true⟩]

def shortSettings : Model where
  name := "Settings"
  storageName := "Default"
  schema :=
    ⟨shortKeys, shortKeys,
      [field "number" int64 "N", field "text" .string "S"]⟩
  ignored := []

/-- Settings that migrate from the short keys. -/
def migratingSettings : Model where
  name := "Settings"
  storageName := "Default"
  schema :=
    ⟨plainKeys, shortKeys,
      [movedField "number" int64 "number" "N",
        movedField "text" .string "text" "S"]⟩
  ignored := [draft]

/-- A counter under integer keys that migrates from other integer keys. -/
def counter : Model where
  name := "Counter"
  storageName := "Counter"
  schema :=
    ⟨⟨.integer, [intKey "History" (-1), intKey "Count" 0, intKey "Label" 7]⟩,
      ⟨.integer, [intKey "Count" 10, intKey "Label" 20, intKey "History" 30]⟩,
      [renumberedField "count" nat64 0 10,
        renumberedField "label" (.option .string) 7 20,
        renumberedField "history" (.list nat64 8) (-1) 30]⟩
  ignored := []

/-- A ledger with one persisted field and three ignored ones. -/
def ledger : Model where
  name := "Ledger"
  storageName := "Ledger"
  schema :=
    ⟨⟨.text, [textKey "Balance" "b"]⟩, ⟨.text, [textKey "Balance" "b"]⟩,
      [field "balance" int64 "b"]⟩
  ignored :=
    [⟨"record", .int false .w32, true⟩, ⟨"container", .string, true⟩,
      ⟨"note", .option nat64, false⟩]

def profileKeys : KeySchema := ⟨.text, [textKey "_name" "name", textKey "_type" "type"]⟩

/-- A profile whose keys follow its fields. -/
def profile : Model where
  name := "Profile"
  storageName := "Profile"
  schema :=
    ⟨profileKeys, profileKeys,
      [field "name" .string "name", field "type" (.int false .w8) "type"]⟩
  ignored := []

/-- A model whose old and new keys exchange literals. -/
def swapped : Model where
  name := "Swapped"
  storageName := "sw/apped"
  schema :=
    ⟨⟨.text, [textKey "LastSeen" "last_seen", textKey "Value2" "a", textKey "First" "b"]⟩,
      ⟨.text, [textKey "First" "a", textKey "Value2" "b", textKey "LastSeen" "seen"]⟩,
      [movedField "first" .string "b" "a",
        movedField "value_2" .string "a" "b",
        movedField "last_seen" (.int false .w8) "last_seen" "seen"]⟩
  ignored := []

def empty : Model where
  name := "Empty"
  storageName := "Empty"
  schema := ⟨⟨.text, []⟩, ⟨.text, []⟩, []⟩
  ignored := [⟨"scratch", .list nat64 8, false⟩]

end KeyedRecords.Samples
