import KeyedRecords.Store.Config
import KeyedRecords.Text.Escape
import KeyedRecords.Text.Shortest
import KeyedRecords.Text.Utf8

/-!
# Configurations as JSON

`StorageConfig.toJson` writes a configuration as an object. `StorageConfig.ofJson`
reads one from an object, where only the directory is required and unknown keys
are skipped, or from a list of the values in order. A refusal names the place as
line and column, counted in bytes.
-/

namespace KeyedRecords.Json

/-! ## Faults -/

inductive Fault
  | eofList
  | eofObject
  | eofString
  | eofValue
  | expectedColon
  | expectedListCommaOrEnd
  | expectedObjectCommaOrEnd
  | expectedIdent
  | expectedValue
  | invalidEscape
  | invalidNumber
  | numberOutOfRange
  | controlCharacter
  | keyMustBeString
  | loneSurrogate
  | trailingComma
  | trailingCharacters
  | unexpectedEndOfEscape
  | invalidType (found expected : String)
  | missingField (name : String)
  | duplicateField (name : String)
  | invalidLength (length : Nat) (expected : String)
  deriving DecidableEq, Repr

/-- The text of a fault without its place. -/
def Fault.description : Fault → String
  | eofList => "EOF while parsing a list"
  | eofObject => "EOF while parsing an object"
  | eofString => "EOF while parsing a string"
  | eofValue => "EOF while parsing a value"
  | expectedColon => "expected `:`"
  | expectedListCommaOrEnd => "expected `,` or `]`"
  | expectedObjectCommaOrEnd => "expected `,` or `\x7d`"
  | expectedIdent => "expected ident"
  | expectedValue => "expected value"
  | invalidEscape => "invalid escape"
  | invalidNumber => "invalid number"
  | numberOutOfRange => "number out of range"
  | controlCharacter => "control character (\\u0000-\\u001F) found while parsing a string"
  | keyMustBeString => "key must be a string"
  | loneSurrogate => "lone leading surrogate in hex escape"
  | trailingComma => "trailing comma"
  | trailingCharacters => "trailing characters"
  | unexpectedEndOfEscape => "unexpected end of hex escape"
  | invalidType found expected => "invalid type: " ++ found ++ ", expected " ++ expected
  | missingField name => "missing field `" ++ name ++ "`"
  | duplicateField name => "duplicate field `" ++ name ++ "`"
  | invalidLength length expected =>
    "invalid length " ++ toString length ++ ", expected " ++ expected

/-- A fault and the number of bytes before its place. -/
structure Refusal where
  fault : Fault
  index : Nat
  deriving DecidableEq, Repr

def Refusal.message (r : Refusal) (bytes : List UInt8) : String :=
  let before := bytes.take r.index
  let line := 1 + before.count 10
  let column := (before.reverse.takeWhile fun b => b != 10).length
  r.fault.description ++ " at line " ++ toString line ++ " column " ++ toString column

/-! ## Reading -/

structure Cursor where
  index : Nat
  rest : List UInt8

abbrev Reader := StateT Cursor (Except Refusal)

namespace Reader

/-- The next byte, which is not taken. -/
def peek : Reader (Option UInt8) := do
  let c ← get
  pure c.rest.head?

def next : Reader (Option UInt8) := do
  let c ← get
  match c.rest with
  | [] => pure none
  | b :: rest =>
    set (⟨c.index + 1, rest⟩ : Cursor)
    pure (some b)

/-- Takes a byte that was looked at. -/
def eat : Reader Unit := do
  let _ ← next

/-- Refuses at the bytes read so far. -/
def fail {α : Type} (fault : Fault) : Reader α := do
  let c ← get
  throw ⟨fault, c.index⟩

/-- Refuses at the byte that comes next. -/
def failAtNext {α : Type} (fault : Fault) : Reader α := do
  let c ← get
  throw ⟨fault, c.index + (if c.rest.isEmpty then 0 else 1)⟩

def takeWhile (test : UInt8 → Bool) : Reader (List UInt8) := do
  let c ← get
  let taken := c.rest.takeWhile test
  set (⟨c.index + taken.length, c.rest.dropWhile test⟩ : Cursor)
  pure taken

/-- Skips blanks, tabs and line ends; gives the next byte, which is not taken. -/
def skipSpace : Reader (Option UInt8) := do
  let _ ← takeWhile fun b => b == 32 || b == 9 || b == 10 || b == 13
  peek

def isDigit (b : UInt8) : Bool := 48 ≤ b && b ≤ 57

def nextIs (test : UInt8 → Bool) : Reader Bool := do
  let b ← peek
  pure (b.any test)

def isExponentMark (b : UInt8) : Bool := b == 101 || b == 69

/-- Takes the rest of a keyword. -/
def keyword : List UInt8 → Reader Unit
  | [] => pure ()
  | expected :: rest => do
    let b ← next
    match b with
    | none => fail .eofValue
    | some b => if b = expected then keyword rest else fail .expectedIdent

/-! ### Strings -/

def hexDigit? (b : UInt8) : Option Nat :=
  if isDigit b then some (b.toNat - 48)
  else if 97 ≤ b ∧ b ≤ 102 then some (b.toNat - 87)
  else if 65 ≤ b ∧ b ≤ 70 then some (b.toNat - 55)
  else none

def hexEscape : Reader Nat := do
  let c ← get
  match c.rest with
  | a :: b :: d :: e :: rest =>
    set (⟨c.index + 4, rest⟩ : Cursor)
    match hexDigit? a, hexDigit? b, hexDigit? d, hexDigit? e with
    | some a, some b, some d, some e => pure (((a * 16 + b) * 16 + d) * 16 + e)
    | _, _, _, _ => fail .invalidEscape
  | rest =>
    set (⟨c.index + rest.length, []⟩ : Cursor)
    fail .eofString

/-- Takes an expected byte of the second half of a surrogate pair. -/
def surrogateMark (mark : UInt8) : Reader Unit := do
  let b ← next
  match b with
  | none => fail .eofString
  | some b => if b = mark then pure () else fail .unexpectedEndOfEscape

def unicodeEscape : Reader Char := do
  let n ← hexEscape
  if 0xDC00 ≤ n ∧ n ≤ 0xDFFF then fail .loneSurrogate
  else if 0xD800 ≤ n ∧ n ≤ 0xDBFF then
    surrogateMark 92
    surrogateMark 117
    let m ← hexEscape
    if 0xDC00 ≤ m ∧ m ≤ 0xDFFF then
      pure (Char.ofNat ((n - 0xD800) * 1024 + (m - 0xDC00) + 0x10000))
    else fail .loneSurrogate
  else pure (Char.ofNat n)

/-- The byte that a one-letter escape stands for. -/
def simpleEscape? (b : UInt8) : Option UInt8 :=
  match b with
  | 34 => some 34
  | 92 => some 92
  | 47 => some 47
  | 98 => some 8
  | 102 => some 12
  | 110 => some 10
  | 114 => some 13
  | 116 => some 9
  | _ => none

/-- The bytes of an escape, after its backslash. -/
def escape : Reader (List UInt8) := do
  let b ← next
  match b with
  | none => fail .eofString
  | some 117 => String.utf8EncodeChar <$> unicodeEscape
  | some b =>
    match simpleEscape? b with
    | some b => pure [b]
    | none => fail .invalidEscape

/-- Takes an escape, after its backslash, without regard for surrogates. -/
def skipEscape : Reader Unit := do
  let b ← next
  match b with
  | none => fail .eofString
  | some 117 => let _ ← hexEscape
  | some b => if (simpleEscape? b).isSome then pure () else fail .invalidEscape

/-- Whether a byte of a string stands for itself. -/
def isPlain (b : UInt8) : Bool := 32 ≤ b && b != 34 && b != 92

/-- The bytes of a string, after its opening quote. -/
def stringBytes : Nat → Reader (List UInt8)
  | 0 => fail .eofString
  | fuel + 1 => do
    let plain ← takeWhile isPlain
    let b ← next
    match b with
    | none => fail .eofString
    | some 34 => pure plain
    | some 92 =>
      let escaped ← escape
      let more ← stringBytes fuel
      pure (plain ++ escaped ++ more)
    | some _ => fail .controlCharacter

def skipString : Nat → Reader Unit
  | 0 => fail .eofString
  | fuel + 1 => do
    let _ ← takeWhile isPlain
    let b ← peek
    match b with
    | none => fail .eofString
    | some 34 => eat
    | some 92 =>
      eat
      skipEscape
      skipString fuel
    | some _ => fail .controlCharacter

/-- A bound on the number of steps that the rest of the text can take. -/
def fuel : Reader Nat := do
  let c ← get
  pure (3 * c.rest.length + 8)

def string : Reader String := do
  let n ← fuel
  let bytes ← stringBytes n
  match Text.Utf8.decode bytes with
  | .ok s => pure s
  | .error _ => fail .invalidEscape

/-! ### Numbers -/

/-- A number as a reader of other types reports it. -/
inductive Number
  | natural (n : Nat)
  | negative (n : Nat)
  | float (x : Float)

def Number.display : Number → String
  | natural n => "integer `" ++ toString n ++ "`"
  | negative n => "integer `-" ++ toString n ++ "`"
  | float x => "floating point `" ++ Text.displayFloat x ++ "`"

/-- The greatest significand that is kept exactly. -/
def maxSignificand : Nat := 0xFFFFFFFFFFFFFFFF

/-- `significand · 10 ^ exponent`, scaled in steps of at most 308 places; `none` when
    it is out of range. -/
def scale (x : Float) (exponent : Int) : Nat → Option Float
  | 0 => some x
  | steps + 1 =>
    let power (n : Nat) : Float := Float.ofScientific 1 false n
    if exponent.natAbs ≤ 308 then
      if 0 ≤ exponent then
        let y := x * power exponent.natAbs
        if y.isInf then none else some y
      else some (x / power exponent.natAbs)
    else if x == 0.0 then some x
    else if 0 ≤ exponent then none
    else scale (x / power 308) (exponent + 308) steps

/-- The floating-point number of a sign, digits and a power of ten. -/
def float (positive : Bool) (significand : Nat) (exponent : Int) : Reader Float :=
  match scale significand.toUInt64.toFloat exponent 8 with
  | some x => pure (if positive then x else -x)
  | none => fail .numberOutOfRange

/-- The digits that still fit into a significand, added to it; gives how many, and
    whether one more did not fit. -/
def fitDigits (significand : Nat) (count : Nat) : List UInt8 → Nat × Nat × Bool
  | [] => (significand, count, false)
  | b :: bs =>
    let n := significand * 10 + (b.toNat - 48)
    if maxSignificand < n then (significand, count, true) else fitDigits n (count + 1) bs

def maxExponent : Nat := 0x7FFFFFFF

/-- The exponent that digits write; `none` when it is too large. -/
def exponentOf (n : Nat) : List UInt8 → Option Nat
  | [] => some n
  | b :: bs =>
    let m := n * 10 + (b.toNat - 48)
    if maxExponent < m then none else exponentOf m bs

def afterMark (positive : Bool) (significand : Nat) (exponent : Int) : Reader Float := do
  eat
  let sign ← peek
  if sign == some 43 || sign == some 45 then eat
  let b ← next
  match b with
  | none => fail .eofValue
  | some b =>
    if isDigit b then
      let c ← get
      let digits ← takeWhile isDigit
      match exponentOf (b.toNat - 48) digits with
      | some n =>
        let n : Int := if sign == some 45 then -(n : Int) else n
        float positive significand (exponent + n)
      | none =>
        if significand ≠ 0 ∧ sign ≠ some 45 then
          let excess := (List.range (digits.length + 1)).find? fun k =>
            (exponentOf (b.toNat - 48) (digits.take k)).isNone
          throw ⟨.numberOutOfRange, c.index + excess.getD digits.length⟩
        else pure (if positive then 0.0 else -0.0)
    else fail .invalidNumber

/-- A number from its decimal point on. -/
def afterPoint (positive : Bool) (significand : Nat) (exponent : Int) : Reader Float := do
  eat
  let digits ← takeWhile isDigit
  if digits.isEmpty then
    let b ← peek
    match b with
    | some _ => failAtNext .invalidNumber
    | none => failAtNext .eofValue
  else
    let (significand, count, _) := fitDigits significand 0 digits
    let exponent := exponent - count
    if ← nextIs isExponentMark then afterMark positive significand exponent
    else float positive significand exponent

/-- A number, after its sign. -/
def number (positive : Bool) : Reader Number := do
  let b ← next
  match b with
  | none => fail .eofValue
  | some b =>
    if ¬ isDigit b then fail .invalidNumber
    else
      let digits ←
        if b = 48 then
          if ← nextIs isDigit then failAtNext .invalidNumber else pure []
        else takeWhile isDigit
      let (significand, count, long) := fitDigits (b.toNat - 48) 0 digits
      let exponent : Int := (digits.length - count : Nat)
      let mark ← peek
      if mark == some 46 then .float <$> afterPoint positive significand exponent
      else if mark.any isExponentMark then .float <$> afterMark positive significand exponent
      else if long then .float <$> float positive significand exponent
      else if positive then pure (.natural significand)
      else if significand = 0 ∨ 0x8000000000000000 < significand then
        pure (.float (-significand.toUInt64.toFloat))
      else pure (.negative significand)

/-- Takes a number, after its sign, without regard for its size. -/
def skipNumber : Reader Unit := do
  let b ← next
  match b with
  | none => fail .invalidNumber
  | some b =>
    if ¬ isDigit b then fail .invalidNumber
    if b = 48 then
      if ← nextIs isDigit then failAtNext .invalidNumber
    else
      let _ ← takeWhile isDigit
    if (← peek) == some 46 then
      eat
      let digits ← takeWhile isDigit
      if digits.isEmpty then failAtNext .invalidNumber
    if ← nextIs isExponentMark then
      eat
      if ← nextIs (fun b => b == 43 || b == 45) then eat
      let b ← next
      if ¬ b.any isDigit then fail .invalidNumber
      let _ ← takeWhile isDigit

/-! ### Values of the wrong type -/

/-- Refuses the next value, of whatever type it is, where another was expected. -/
def wrongType {α : Type} (expected : String) : Reader α := do
  let b ← peek
  match b with
  | some 110 => eat; keyword [117, 108, 108]; fail (.invalidType "null" expected)
  | some 116 => eat; keyword [114, 117, 101]; fail (.invalidType "boolean `true`" expected)
  | some 102 => eat; keyword [97, 108, 115, 101]; fail (.invalidType "boolean `false`" expected)
  | some 45 => do
    eat
    let n ← number false
    fail (.invalidType n.display expected)
  | some 34 => do
    eat
    let s ← string
    fail (.invalidType ("string " ++ Text.debugQuote s) expected)
  | some 91 => fail (.invalidType "sequence" expected)
  | some 123 => fail (.invalidType "map" expected)
  | some b =>
    if isDigit b then do
      let n ← number true
      fail (.invalidType n.display expected)
    else failAtNext .expectedValue
  | none => failAtNext .expectedValue

def text (expected : String) : Reader String := do
  let b ← skipSpace
  match b with
  | none => failAtNext .eofValue
  | some 34 => eat; string
  | some _ => wrongType expected

def truth : Reader Bool := do
  let b ← skipSpace
  match b with
  | none => failAtNext .eofValue
  | some 116 => eat; keyword [114, 117, 101]; pure true
  | some 102 => eat; keyword [97, 108, 115, 101]; pure false
  | some _ => wrongType "a boolean"

/-! ### Values that are skipped -/

/-- What is expected while a value is skipped. `frames` are the open brackets, innermost
    first. -/
inductive SkipStep
  | value
  | close (afterValue : Bool)
  | item

/-- Takes the key of a member of an object and its colon. -/
def skipKey : Reader Unit := do
  let b ← skipSpace
  match b with
  | some 34 =>
    eat
    skipString (← fuel)
    let b ← skipSpace
    match b with
    | some 58 => eat
    | some _ => failAtNext .expectedColon
    | none => failAtNext .eofObject
  | some _ => failAtNext .keyMustBeString
  | none => failAtNext .eofObject

/-- Takes a value of any type, step by step. -/
def skip : Nat → List UInt8 → SkipStep → Reader Unit
  | 0, _, _ => failAtNext .eofValue
  | n + 1, frames, .value => do
    let b ← skipSpace
    match b with
    | none => failAtNext .eofValue
    | some b =>
      if b == 91 || b == 123 then
        eat
        skip n (b :: frames) (.close false)
      else
        if b == 110 then eat; keyword [117, 108, 108]
        else if b == 116 then eat; keyword [114, 117, 101]
        else if b == 102 then eat; keyword [97, 108, 115, 101]
        else if b == 45 then eat; skipNumber
        else if isDigit b then skipNumber
        else if b == 34 then eat; skipString (← fuel)
        else failAtNext .expectedValue
        if frames.isEmpty then pure () else skip n frames (.close true)
  | _ + 1, [], .close _ => pure ()
  | n + 1, frame :: frames, .close afterValue => do
    let list := frame == 91
    let b ← skipSpace
    match b with
    | none => failAtNext (if list then .eofList else .eofObject)
    | some b =>
      if afterValue && b == 44 then
        eat
        skip n (frame :: frames) .item
      else if b == (if list then 93 else 125) then
        eat
        if frames.isEmpty then pure () else skip n frames (.close true)
      else if afterValue then
        failAtNext (if list then .expectedListCommaOrEnd else .expectedObjectCommaOrEnd)
      else skip n (frame :: frames) .item
  | n + 1, frames, .item => do
    if frames.head? == some 123 then skipKey
    skip n frames .value

/-! ### Objects and lists -/

/-- Whether an object has another member. `first` says that none was read yet. -/
def moreMembers (first : Bool) : Reader Bool := do
  let b ← skipSpace
  match b with
  | some 125 => pure false
  | some b =>
    if b == 44 && !first then
      eat
      let b ← skipSpace
      match b with
      | some 34 => pure true
      | some 125 => failAtNext .trailingComma
      | some _ => failAtNext .keyMustBeString
      | none => failAtNext .eofValue
    else if first then
      if b == 34 then pure true else failAtNext .keyMustBeString
    else failAtNext .expectedObjectCommaOrEnd
  | none => failAtNext .eofObject

def moreElements (first : Bool) : Reader Bool := do
  let b ← skipSpace
  match b with
  | some 93 => pure false
  | some b =>
    if b == 44 && !first then
      eat
      let b ← skipSpace
      match b with
      | some 93 => failAtNext .trailingComma
      | some _ => pure true
      | none => failAtNext .eofValue
    else if first then pure true
    else failAtNext .expectedListCommaOrEnd
  | none => failAtNext .eofList

def colon : Reader Unit := do
  let b ← skipSpace
  match b with
  | some 58 => eat
  | some _ => failAtNext .expectedColon
  | none => failAtNext .eofObject

def endObject : Reader Unit := do
  let b ← skipSpace
  match b with
  | some 125 => eat
  | some 44 => failAtNext .trailingComma
  | some _ => failAtNext .trailingCharacters
  | none => failAtNext .eofObject

def endList : Reader Unit := do
  let b ← skipSpace
  match b with
  | some 93 => eat
  | some 44 =>
    eat
    let b ← skipSpace
    match b with
    | some 93 => failAtNext .trailingComma
    | _ => failAtNext .trailingCharacters
  | some _ => failAtNext .trailingCharacters
  | none => failAtNext .eofList

/-- Ends a composite value. A fault that was found in its content is reported where the
    end was looked for; the end's own fault counts only where there was none. -/
def settle {α : Type} (finish : Reader Unit) (content : Except Fault α) : Reader α := do
  match content with
  | .ok a =>
    finish
    pure a
  | .error fault =>
    let c ← get
    match finish c with
    | .ok ((), c) => throw ⟨fault, c.index⟩
    | .error _ =>
      let _ ← skipSpace
      if (← peek) == some 44 && fault matches .invalidLength _ _ then eat
      fail fault

end Reader

end KeyedRecords.Json

namespace KeyedRecords.StorageConfig

open Json

/-- The members of an object that were read so far. -/
structure Members where
  directory : Option String
  extension : Option String
  createDirectories : Option Bool

/-- The members of an object; a key may be given once. -/
def readMembers : Nat → Bool → Members → Reader (Except Fault Members)
  | 0, _, m => pure (.ok m)
  | n + 1, first, m => do
    if ← Reader.moreMembers first then
      Reader.eat
      let key ← Reader.string
      if key = "directory" then
        if m.directory.isSome then pure (.error (.duplicateField key))
        else
          Reader.colon
          let v ← Reader.text "path string"
          readMembers n false { m with directory := some v }
      else if key = "extension" then
        if m.extension.isSome then pure (.error (.duplicateField key))
        else
          Reader.colon
          let v ← Reader.text "a string"
          readMembers n false { m with extension := some v }
      else if key = "create_directories" then
        if m.createDirectories.isSome then pure (.error (.duplicateField key))
        else
          Reader.colon
          let v ← Reader.truth
          readMembers n false { m with createDirectories := some v }
      else
        Reader.colon
        Reader.skip (← Reader.fuel) [] .value
        readMembers n false m
    else pure (.ok m)

/-- The configuration of the members; the directory must be among them. -/
def ofMembers (m : Members) : Except Fault StorageConfig :=
  match m.directory with
  | some directory =>
    .ok ⟨directory, m.extension.getD defaultExtension, m.createDirectories.getD true⟩
  | none => .error (.missingField "directory")

/-- The configuration of the elements of a list, in the order of the fields. -/
def readElements : Reader (Except Fault StorageConfig) := do
  if ← Reader.moreElements true then
    let directory ← Reader.text "path string"
    if ← Reader.moreElements false then
      let extension ← Reader.text "a string"
      if ← Reader.moreElements false then
        let create ← Reader.truth
        pure (.ok ⟨directory, extension, create⟩)
      else pure (.ok ⟨directory, extension, true⟩)
    else pure (.ok (ofDirectory directory))
  else pure (.error (.invalidLength 0 "struct StorageConfig with 3 elements"))

def reader : Reader StorageConfig := do
  let b ← Reader.skipSpace
  let config ←
    match b with
    | none => Reader.failAtNext .eofValue
    | some 91 => do
      Reader.eat
      let content ← readElements
      Reader.settle Reader.endList content
    | some 123 => do
      Reader.eat
      let members ← readMembers (← Reader.fuel) true ⟨none, none, none⟩
      Reader.settle Reader.endObject (members.bind ofMembers)
    | some _ => Reader.wrongType "struct StorageConfig"
  let b ← Reader.skipSpace
  if b.isSome then Reader.failAtNext .trailingCharacters else pure config

/-- The configuration that a JSON text writes, or the text of its refusal. -/
def ofJson (json : String) : Except String StorageConfig :=
  let bytes := Text.Utf8.encode json
  match reader ⟨0, bytes⟩ with
  | .ok (config, _) => .ok config
  | .error r => .error (r.message bytes)

/-! ## Writing -/

def jsonChar (c : Char) : List Char :=
  if c = '"' then ['\\', '"']
  else if c = '\\' then ['\\', '\\']
  else if c = '\n' then ['\\', 'n']
  else if c = '\r' then ['\\', 'r']
  else if c = '\t' then ['\\', 't']
  else if c.toNat = 8 then ['\\', 'b']
  else if c.toNat = 12 then ['\\', 'f']
  else if c.toNat < 32 then
    ['\\', 'u', '0', '0', if c.toNat < 16 then '0' else '1'] ++ Text.hexText (c.toNat % 16)
  else [c]

def jsonText (s : String) : String := String.ofList ('"' :: s.toList.flatMap jsonChar ++ ['"'])

def toJson (c : StorageConfig) : String :=
  "\x7b\"directory\":" ++ jsonText c.directory ++ ",\"extension\":" ++ jsonText c.extension
    ++ ",\"create_directories\":" ++ (if c.createDirectories then "true" else "false") ++ "\x7d"

end KeyedRecords.StorageConfig
