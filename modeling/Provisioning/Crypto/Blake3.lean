import Provisioning.Bytes

/-!
# BLAKE3

The input is cut into chunks of 1024 bytes, which are the leaves of a binary tree;
every left subtree is the largest complete one that leaves something for the
right. Each chunk is compressed block by block, each inner node from the two
chaining values below it. `Blake3.hash` gives the first bytes of the root's output.
-/

namespace Provisioning.Blake3

/-- The initial chaining value. -/
def initial : List UInt32 :=
  [0x6a09e667, 0xbb67ae85, 0x3c6ef372, 0xa54ff53a, 0x510e527f, 0x9b05688c, 0x1f83d9ab,
    0x5be0cd19]

/-- Where each message word moves to between rounds. -/
def permutation : List Nat :=
  [2, 6, 3, 10, 7, 0, 4, 13, 1, 11, 12, 5, 9, 14, 15, 8]

def chunkStart : UInt32 := 1
def chunkEnd : UInt32 := 2
def parent : UInt32 := 4
def root : UInt32 := 8

def rotr (x n : UInt32) : UInt32 :=
  (x >>> n) ||| (x <<< (32 - n))

/-- Mixes two message words into four words of the state. -/
def quarter (s : Array UInt32) (a b c d : Nat) (x y : UInt32) : Array UInt32 :=
  let va := s[a]! + s[b]! + x
  let vd := rotr (s[d]! ^^^ va) 16
  let vc := s[c]! + vd
  let vb := rotr (s[b]! ^^^ vc) 12
  let va := va + vb + y
  let vd := rotr (vd ^^^ va) 8
  let vc := vc + vd
  let vb := rotr (vb ^^^ vc) 7
  (((s.set! a va).set! b vb).set! c vc).set! d vd

/-- Mixes the columns, then the diagonals. -/
def round (s m : Array UInt32) : Array UInt32 :=
  let s := quarter s 0 4 8 12 m[0]! m[1]!
  let s := quarter s 1 5 9 13 m[2]! m[3]!
  let s := quarter s 2 6 10 14 m[4]! m[5]!
  let s := quarter s 3 7 11 15 m[6]! m[7]!
  let s := quarter s 0 5 10 15 m[8]! m[9]!
  let s := quarter s 1 6 11 12 m[10]! m[11]!
  let s := quarter s 2 7 8 13 m[12]! m[13]!
  quarter s 3 4 9 14 m[14]! m[15]!

def rounds : (count : Nat) → (s m : Array UInt32) → Array UInt32
  | 0, s, _ => s
  | count + 1, s, m => rounds count (round s m) (permutation.map (m[·]!)).toArray

/-- Compresses one block into a chaining value: eight words. -/
def compress (chaining : List UInt32) (block : List UInt32) (counter : Nat)
    (size : Nat) (flags : UInt32) : List UInt32 :=
  let low := UInt32.ofNat counter
  let high := UInt32.ofNat (counter / 4294967296)
  let start := (chaining ++ initial.take 4 ++ [low, high, UInt32.ofNat size, flags]).toArray
  let s := rounds 7 start block.toArray
  (List.range 8).map fun i => s[i]! ^^^ s[i + 8]!

/-- The sixteen words of a block, padded with zeros. -/
def words : (count : Nat) → Bytes → List UInt32
  | 0, _ => []
  | count + 1, bytes =>
    UInt32.ofNat (Bytes.ofLittleEndian (bytes.take 4)) :: words count (bytes.drop 4)

/-- The chaining value of a chunk from its blocks on; `steps` bounds them, and
`last` is added to the flags of the final block. -/
def chunkFrom (counter : Nat) (last : UInt32) :
    (steps : Nat) → (flags : UInt32) → List UInt32 → Bytes → List UInt32
  | 0, _, chaining, _ => chaining
  | steps + 1, flags, chaining, bytes =>
    if bytes.length ≤ 64 then
      compress chaining (words 16 bytes) counter bytes.length (flags ||| chunkEnd ||| last)
    else
      let next := compress chaining (words 16 (bytes.take 64)) counter 64 flags
      chunkFrom counter last steps 0 next (bytes.drop 64)

/-- The chaining value of a chunk. -/
def chunk (counter : Nat) (last : UInt32) (bytes : Bytes) : List UInt32 :=
  chunkFrom counter last 16 chunkStart initial bytes

/-- How many chunks go left in a tree of `count`, more than one. -/
def leftChunks (count : Nat) : Nat :=
  2 ^ (count - 1).log2

/-- The chaining value of the tree over `bytes`, whose first chunk has the number
`counter`; `depth` bounds the height. -/
def tree (last : UInt32) : (depth counter : Nat) → Bytes → List UInt32
  | 0, counter, bytes => chunk counter last bytes
  | depth + 1, counter, bytes =>
    if bytes.length ≤ 1024 then chunk counter last bytes
    else
      let left := leftChunks ((bytes.length + 1023) / 1024)
      let a := tree 0 depth counter (bytes.take (1024 * left))
      let b := tree 0 depth (counter + left) (bytes.drop (1024 * left))
      compress initial (a ++ b) 0 64 (parent ||| last)

/-- The first `size` bytes of the hash, at most 32. -/
def hash (size : Nat) (message : Bytes) : Bytes :=
  let words := tree root (message.length.log2 + 1) 0 message
  (words.flatMap fun word => Bytes.littleEndian 4 word.toNat).take size

end Provisioning.Blake3
