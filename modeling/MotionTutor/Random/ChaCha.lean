import MotionTutor.Random.Words

/-!
# Words from a seed

The key stream of the ChaCha cipher with twelve rounds is a source of random words: the blocks for
the counters 0, 1, 2, …, each of sixteen words of 32 bits, two of which make up a word of 64 bits.
The key comes from the seed through a linear congruential generator whose output is permuted.
-/

namespace MotionTutor.ChaCha

/-! ## 1. Blocks -/

/-- The sixteen words of a block, four rows of four. -/
abbrev State := Vector UInt32 16

/-- Turns the bits of a word to the left. -/
def rotateLeft (x : UInt32) (n : UInt32) : UInt32 := (x <<< n) ||| (x >>> (32 - n))

/-- The quarter round on four words of the state. -/
def quarterRound (s : State) (a b c d : Fin 16) : State :=
  let s := s.set a (s[a] + s[b])
  let s := s.set d (rotateLeft (s[d] ^^^ s[a]) 16)
  let s := s.set c (s[c] + s[d])
  let s := s.set b (rotateLeft (s[b] ^^^ s[c]) 12)
  let s := s.set a (s[a] + s[b])
  let s := s.set d (rotateLeft (s[d] ^^^ s[a]) 8)
  let s := s.set c (s[c] + s[d])
  s.set b (rotateLeft (s[b] ^^^ s[c]) 7)

/-- A round on the columns and a round on the diagonals. -/
def doubleRound (s : State) : State :=
  let s := quarterRound s 0 4 8 12
  let s := quarterRound s 1 5 9 13
  let s := quarterRound s 2 6 10 14
  let s := quarterRound s 3 7 11 15
  let s := quarterRound s 0 5 10 15
  let s := quarterRound s 1 6 11 12
  let s := quarterRound s 2 7 8 13
  quarterRound s 3 4 9 14

/-- The state before the rounds: four constants, the key, the counter and an empty nonce. -/
def start (key : Vector UInt32 8) (counter : UInt64) : State :=
  let constants : Vector UInt32 4 := #v[0x61707865, 0x3320646e, 0x79622d32, 0x6b206574]
  let position : Vector UInt32 4 := #v[counter.toUInt32, (counter >>> 32).toUInt32, 0, 0]
  constants ++ key ++ position

/-- The block of a counter: twelve rounds, and the state before them added. -/
def block (key : Vector UInt32 8) (counter : UInt64) : State :=
  let s := start key counter
  (Nat.repeat doubleRound 6 s).zipWith (· + ·) s

/-! ## 2. Keys -/

/-- The next state of the linear congruential generator. -/
def advance (state : UInt64) : UInt64 := state * 6364136223846793005 + 11634580027462260723

/-- The output for a state: its high bits, turned by as much as the highest five say. -/
def permuted (state : UInt64) : UInt32 :=
  let x := (((state >>> 18) ^^^ state) >>> 27).toUInt32
  let n := (state >>> 59).toUInt32
  (x >>> n) ||| (x <<< ((32 - n) % 32))

/-- The state after some steps. -/
def stateAfter (seed : UInt64) : Nat → UInt64
  | 0 => seed
  | n + 1 => advance (stateAfter seed n)

/-- The key of a seed. -/
def keyOf (seed : UInt64) : Vector UInt32 8 :=
  .ofFn fun i => permuted (stateAfter seed (i.val + 1))

end ChaCha

/-- The random words of a seed. -/
def Words.ofSeed (seed : UInt64) : Words :=
  let key := ChaCha.keyOf seed
  ⟨fun n =>
    let block := ChaCha.block key (UInt64.ofNat (n / 8))
    let low := block[2 * (n % 8)]
    let high := block[2 * (n % 8) + 1]
    low.toUInt64 + (high.toUInt64 <<< 32), 0⟩

end MotionTutor
