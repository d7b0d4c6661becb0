import Provisioning.Bytes

/-!
# Keccak-256

A sponge over twenty-five lanes of sixty-four bits: blocks of 136 bytes are
exclusive-ored into the state and permuted, and the first 32 bytes of the state
are the hash. The padding is the one of the first submission, a one byte and a
final top bit.
-/

namespace Provisioning.Keccak

/-- The constant that each round adds to the first lane. -/
def roundConstants : List UInt64 :=
  [
    0x0000000000000001, 0x0000000000008082, 0x800000000000808a, 0x8000000080008000,
    0x000000000000808b, 0x0000000080000001, 0x8000000080008081, 0x8000000000008009,
    0x000000000000008a, 0x0000000000000088, 0x0000000080008009, 0x000000008000000a,
    0x000000008000808b, 0x800000000000008b, 0x8000000000008089, 0x8000000000008003,
    0x8000000000008002, 0x8000000000000080, 0x000000000000800a, 0x800000008000000a,
    0x8000000080008081, 0x8000000000008080, 0x0000000080000001, 0x8000000080008008 ]

/-- For each lane after moving and turning: the lane it came from, and by how many
bits it was turned. -/
def moves : List (Nat × UInt64) :=
  [
    (0, 0), (6, 44), (12, 43), (18, 21), (24, 14), (3, 28), (9, 20), (10, 3), (16, 45),
    (22, 61), (1, 1), (7, 6), (13, 25), (19, 8), (20, 18), (4, 27), (5, 36), (11, 10),
    (17, 15), (23, 56), (2, 62), (8, 55), (14, 39), (15, 41), (21, 2) ]

def rotl (x n : UInt64) : UInt64 :=
  (x <<< n) ||| (x >>> (64 - n))

/-- The lanes by rows of five. -/
def rows : (count : Nat) → List UInt64 → List (List UInt64)
  | 0, _ => []
  | count + 1, state => state.take 5 :: rows count (state.drop 5)

/-- A row from a place on, and behind it what stands before that place. -/
def turned (place : Nat) (row : List UInt64) : List UInt64 :=
  row.drop place ++ row.take place

/-- The parity of each column of lanes. -/
def columns (state : List UInt64) : List UInt64 :=
  (rows 5 state).foldl (List.zipWith (· ^^^ ·)) (List.replicate 5 0)

/-- Adds to each lane the parities of two neighbouring columns. -/
def diffuse (state : List UInt64) : List UInt64 :=
  let parities := columns state
  let shared := List.zipWith (fun left right => left ^^^ rotl right 1)
    (turned 4 parities) (turned 1 parities)
  (rows 5 state).flatMap (List.zipWith (· ^^^ ·) shared)

/-- Moves and turns the lanes. -/
def scatter (state : List UInt64) : List UInt64 :=
  moves.map fun move => rotl ((state.drop move.1).headD 0) move.2

/-- Combines each lane of a row with the next two. -/
def mixRow (row : List UInt64) : List UInt64 :=
  List.zipWith (· ^^^ ·) row
    (List.zipWith (fun next second => ~~~next &&& second) (turned 1 row) (turned 2 row))

def mix (state : List UInt64) : List UInt64 :=
  (rows 5 state).flatMap mixRow

def round (state : List UInt64) (constant : UInt64) : List UInt64 :=
  (mix (scatter (diffuse state))).modifyHead (· ^^^ constant)

def permute (state : List UInt64) : List UInt64 :=
  roundConstants.foldl round state

/-- The lanes of a block, least significant byte first. -/
def lanes : (count : Nat) → Bytes → List UInt64
  | 0, _ => []
  | count + 1, bytes =>
    UInt64.ofNat (Bytes.ofLittleEndian (bytes.take 8)) :: lanes count (bytes.drop 8)

def absorbBlock (state : List UInt64) (block : Bytes) : List UInt64 :=
  permute (List.zipWith (· ^^^ ·) state (lanes 17 block ++ List.replicate 8 0))

def absorb : (blocks : Nat) → List UInt64 → Bytes → List UInt64
  | 0, state, _ => state
  | blocks + 1, state, bytes =>
    absorb blocks (absorbBlock state (bytes.take 136)) (bytes.drop 136)

/-- The padding behind an input of a length: at least one byte. -/
def padding (length : Nat) : Bytes :=
  match 136 - length % 136 with
  | 1 => [0x81]
  | n => 0x01 :: List.replicate (n - 2) 0 ++ [0x80]

/-- The Keccak-256 hash, 32 bytes. -/
def hash (message : Bytes) : Bytes :=
  let padded := message ++ padding message.length
  let state := absorb (padded.length / 136) (List.replicate 25 0) padded
  (state.take 4).flatMap fun lane => Bytes.littleEndian 8 lane.toNat

end Provisioning.Keccak
