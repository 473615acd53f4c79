/-!
# BLAKE3

The unkeyed hash with 32 bytes of output. Input is cut into chunks of 1024
bytes and each chunk into blocks of 64; the chunk values are joined by a binary
tree whose left part holds the largest power of two of chunks that leaves
something to the right.
-/

namespace KeyedRecords.Hash.Blake3

/-- Eight words: the state passed from block to block. -/
abbrev ChainingValue := List UInt32

def initial : ChainingValue :=
  [0x6A09E667, 0xBB67AE85, 0x3C6EF372, 0xA54FF53A, 0x510E527F, 0x9B05688C, 0x1F83D9AB, 0x5BE0CD19]

/-- The order in which a round takes the words of the round before. -/
def permutation : List Nat := [2, 6, 3, 10, 7, 0, 4, 13, 1, 11, 12, 5, 9, 14, 15, 8]

/-! ## Flags -/

/-- Marks the first block of a chunk. -/
def chunkStart : UInt32 := 1

/-- Marks the last block of a chunk. -/
def chunkEnd : UInt32 := 2

/-- Marks a block that joins two chaining values. -/
def parentBlock : UInt32 := 4

/-- Marks the block that yields the output. -/
def rootBlock : UInt32 := 8

/-! ## Compression -/

def rotateRight (x : UInt32) (n : UInt32) : UInt32 := (x >>> n) ||| (x <<< (32 - n))

/-- Mixes two message words into four words of the state. -/
def mix (v : Array UInt32) (a b c d : Nat) (x y : UInt32) : Array UInt32 :=
  let va := v.getD a 0 + v.getD b 0 + x
  let vd := rotateRight (v.getD d 0 ^^^ va) 16
  let vc := v.getD c 0 + vd
  let vb := rotateRight (v.getD b 0 ^^^ vc) 12
  let va := va + vb + y
  let vd := rotateRight (vd ^^^ va) 8
  let vc := vc + vd
  let vb := rotateRight (vb ^^^ vc) 7
  (((v.setIfInBounds a va).setIfInBounds b vb).setIfInBounds c vc).setIfInBounds d vd

/-- The columns and diagonals of the state that one round mixes, in order. -/
def roundLanes : List (Nat × Nat × Nat × Nat) :=
  [(0, 4, 8, 12), (1, 5, 9, 13), (2, 6, 10, 14), (3, 7, 11, 15),
   (0, 5, 10, 15), (1, 6, 11, 12), (2, 7, 8, 13), (3, 4, 9, 14)]

/-- One round over sixteen message words. -/
def round (v : Array UInt32) (m : List UInt32) : Array UInt32 :=
  (roundLanes.zipIdx).foldl
    (fun v (lane, i) =>
      mix v lane.1 lane.2.1 lane.2.2.1 lane.2.2.2 (m.getD (2 * i) 0) (m.getD (2 * i + 1) 0)) v

def permute (m : List UInt32) : List UInt32 := permutation.map fun i => m.getD i 0

/-- `n` rounds, the message words permuted after each. -/
def rounds : Nat → Array UInt32 → List UInt32 → Array UInt32
  | 0, v, _ => v
  | n + 1, v, m => rounds n (round v m) (permute m)

/-- The first eight words that a block yields. -/
def compress (cv : ChainingValue) (block : List UInt32) (counter : Nat) (length flags : UInt32) :
    ChainingValue :=
  let start := cv ++ initial.take 4 ++
    [UInt32.ofNat counter, UInt32.ofNat (counter / 0x100000000), length, flags]
  let v := rounds 7 start.toArray block
  (List.range 8).map fun i => v.getD i 0 ^^^ v.getD (i + 8) 0

/-! ## Blocks, chunks and the tree -/

/-- The words of at most 64 bytes, little-endian, padded with zeros. -/
def blockWords (bytes : List UInt8) : List UInt32 :=
  (List.range 16).map fun i =>
    (List.range 4).foldr
      (fun j w => w <<< 8 ||| (bytes.getD (4 * i + j) 0).toUInt32) 0

/-- A block that is ready to be compressed; whether it is the root is settled last. -/
structure Pending where
  cv : ChainingValue
  block : List UInt32
  counter : Nat
  length : UInt32
  flags : UInt32

def Pending.chain (p : Pending) : ChainingValue :=
  compress p.cv p.block p.counter p.length p.flags

def Pending.root (p : Pending) : ChainingValue :=
  compress p.cv p.block 0 p.length (p.flags ||| rootBlock)

/-- The last block of a chunk, the blocks before it compressed into `cv`. -/
def chunkFrom (counter : Nat) (cv : ChainingValue) (start : UInt32) (bytes : List UInt8) : Pending :=
  if bytes.length ≤ 64 then
    ⟨cv, blockWords bytes, counter, UInt32.ofNat bytes.length, start ||| chunkEnd⟩
  else
    chunkFrom counter (compress cv (blockWords (bytes.take 64)) counter 64 start) 0 (bytes.drop 64)
termination_by bytes.length
decreasing_by simp only [List.length_drop]; omega

def chunk (counter : Nat) (bytes : List UInt8) : Pending :=
  chunkFrom counter initial chunkStart bytes

def parent (left right : ChainingValue) : Pending :=
  ⟨initial, left ++ right, 0, 64, parentBlock⟩

/-- Joins the last pending chunk with the finished subtrees to its left, newest
    first. -/
def joinAll (stack : List (Nat × ChainingValue)) (last : Pending) : Pending :=
  match stack with
  | [] => last
  | (_, left) :: stack => joinAll stack (parent left last.chain)

/-- Adds a finished chunk to the stack of subtrees: two subtrees of one height are
    joined into one of the next. -/
def pushChunk (stack : List (Nat × ChainingValue)) (height : Nat) (cv : ChainingValue) :
    List (Nat × ChainingValue) :=
  match stack with
  | (h, left) :: rest =>
    if h = height then pushChunk rest (height + 1) (parent left cv).chain
    else (height, cv) :: (h, left) :: rest
  | [] => [(height, cv)]

/-- The root block of a text, from the chunk with the given number on. -/
def treeFrom (counter : Nat) (stack : List (Nat × ChainingValue)) (bytes : List UInt8) : Pending :=
  if bytes.length ≤ 1024 then joinAll stack (chunk counter bytes)
  else
    treeFrom (counter + 1) (pushChunk stack 0 (chunk counter (bytes.take 1024)).chain)
      (bytes.drop 1024)
termination_by bytes.length
decreasing_by simp only [List.length_drop]; omega

def wordBytes (w : UInt32) : List UInt8 :=
  [w.toUInt8, (w >>> 8).toUInt8, (w >>> 16).toUInt8, (w >>> 24).toUInt8]

/-- The 32 bytes of the hash. -/
def hash (bytes : List UInt8) : List UInt8 := (treeFrom 0 [] bytes).root.flatMap wordBytes

end KeyedRecords.Hash.Blake3
