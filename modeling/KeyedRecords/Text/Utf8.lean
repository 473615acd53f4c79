/-!
# UTF-8

`encode` writes a string as bytes and `decode` reads bytes back. A refusal says
how many bytes form valid text and how long the offending sequence is; the
length is absent when the bytes end inside a sequence that could still become
valid.
-/

namespace KeyedRecords.Text.Utf8

structure Fault where
  validUpTo : Nat
  errorLength : Option Nat
  deriving DecidableEq, Repr

def encode (s : String) : List UInt8 := s.toList.flatMap String.utf8EncodeChar

/-- The length of a character's encoding, from its first byte; zero for a byte that
    begins none. -/
def width (b : UInt8) : Nat :=
  if b < 0x80 then 1
  else if b < 0xC2 then 0
  else if b < 0xE0 then 2
  else if b < 0xF0 then 3
  else if b < 0xF5 then 4
  else 0

/-- The byte that the second place of a sequence must not be below. -/
def secondLow (b : UInt8) : UInt8 :=
  if b = 0xE0 then 0xA0 else if b = 0xF0 then 0x90 else 0x80

def secondHigh (b : UInt8) : UInt8 :=
  if b = 0xED then 0x9F else if b = 0xF4 then 0x8F else 0xBF

def isContinuation (b : UInt8) : Bool := 0x80 ≤ b && b ≤ 0xBF

/-- Whether `b` may follow the first byte `a`. -/
def isSecond (a b : UInt8) : Bool := secondLow a ≤ b && b ≤ secondHigh a

/-- The six payload bits of a continuation byte. -/
def payload (b : UInt8) : Nat := b.toNat % 64

/-- Reads one character, or gives the length of the offending sequence. -/
def decodeChar : List UInt8 → Except (Option Nat) (Char × List UInt8)
  | [] => .error none
  | a :: rest =>
    match width a with
    | 1 => .ok (Char.ofNat a.toNat, rest)
    | 2 =>
      match rest with
      | [] => .error none
      | b :: rest =>
        if isContinuation b then .ok (Char.ofNat (a.toNat % 32 * 64 + payload b), rest)
        else .error (some 1)
    | 3 =>
      match rest with
      | [] => .error none
      | b :: rest =>
        if isSecond a b then
          match rest with
          | [] => .error none
          | c :: rest =>
            if isContinuation c then
              .ok (Char.ofNat (a.toNat % 16 * 4096 + payload b * 64 + payload c), rest)
            else .error (some 2)
        else .error (some 1)
    | 4 =>
      match rest with
      | [] => .error none
      | b :: rest =>
        if isSecond a b then
          match rest with
          | [] => .error none
          | c :: rest =>
            if isContinuation c then
              match rest with
              | [] => .error none
              | d :: rest =>
                if isContinuation d then
                  .ok (Char.ofNat (a.toNat % 8 * 262144 + payload b * 4096 + payload c * 64
                    + payload d), rest)
                else .error (some 3)
            else .error (some 2)
        else .error (some 1)
    | _ => .error (some 1)

theorem length_lt_of_decodeChar {bytes rest : List UInt8} {c : Char}
    (h : decodeChar bytes = .ok (c, rest)) : rest.length < bytes.length := by
  unfold decodeChar at h
  repeat' split at h
  all_goals simp_all
  all_goals (obtain ⟨_, rfl⟩ := h; simp +arith)

/-- The characters of valid UTF-8. `valid` counts the bytes read before. -/
def decodeFrom (valid : Nat) (bytes : List UInt8) : Except Fault (List Char) :=
  if bytes.isEmpty then .ok []
  else
    match h : decodeChar bytes with
    | .error n => .error ⟨valid, n⟩
    | .ok (c, rest) =>
      have := length_lt_of_decodeChar h
      match decodeFrom (valid + (bytes.length - rest.length)) rest with
      | .ok cs => .ok (c :: cs)
      | .error e => .error e
termination_by bytes.length

def decode (bytes : List UInt8) : Except Fault String :=
  (decodeFrom 0 bytes).map String.ofList

def isValid (bytes : List UInt8) : Bool :=
  match decode bytes with
  | .ok _ => true
  | .error _ => false

end KeyedRecords.Text.Utf8
