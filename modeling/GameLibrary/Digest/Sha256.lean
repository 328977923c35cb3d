/-!
# SHA-256

The digest of a byte string, as the eight words of the chaining state. The message is followed by a
one bit, zeros up to the last eight bytes of a block of sixty-four, and its length in bits.
-/

namespace GameLibrary.Digest.Sha256

/-- The chaining state. -/
abbrev State := Vector UInt32 8

/-- The state before the first block. -/
def start : State :=
  #v[0x6a09e667, 0xbb67ae85, 0x3c6ef372, 0xa54ff53a, 0x510e527f, 0x9b05688c, 0x1f83d9ab, 0x5be0cd19]

/-- The constants of the sixty-four rounds. -/
def roundConstants : List UInt32 := [
  0x428a2f98, 0x71374491, 0xb5c0fbcf, 0xe9b5dba5, 0x3956c25b, 0x59f111f1, 0x923f82a4, 0xab1c5ed5,
  0xd807aa98, 0x12835b01, 0x243185be, 0x550c7dc3, 0x72be5d74, 0x80deb1fe, 0x9bdc06a7, 0xc19bf174,
  0xe49b69c1, 0xefbe4786, 0x0fc19dc6, 0x240ca1cc, 0x2de92c6f, 0x4a7484aa, 0x5cb0a9dc, 0x76f988da,
  0x983e5152, 0xa831c66d, 0xb00327c8, 0xbf597fc7, 0xc6e00bf3, 0xd5a79147, 0x06ca6351, 0x14292967,
  0x27b70a85, 0x2e1b2138, 0x4d2c6dfc, 0x53380d13, 0x650a7354, 0x766a0abb, 0x81c2c92e, 0x92722c85,
  0xa2bfe8a1, 0xa81a664b, 0xc24b8b70, 0xc76c51a3, 0xd192e819, 0xd6990624, 0xf40e3585, 0x106aa070,
  0x19a4c116, 0x1e376c08, 0x2748774c, 0x34b0bcb5, 0x391c0cb3, 0x4ed8aa4a, 0x5b9cca4f, 0x682e6ff3,
  0x748f82ee, 0x78a5636f, 0x84c87814, 0x8cc70208, 0x90befffa, 0xa4506ceb, 0xbef9a3f7, 0xc67178f2]

/-- A word turned to the right. -/
def rotate (x : UInt32) (n : UInt32) : UInt32 := (x >>> n) ||| (x <<< (32 - n))

/-- The byte of a number that stands `position` bytes above its lowest one. -/
def byteAt (n position : Nat) : UInt8 := UInt8.ofNat (n / Nat.pow 256 position)

/-- The message with its padding. -/
def pad (message : List UInt8) : List UInt8 :=
  let length := message.length
  let zeros := (119 - length % 64) % 64
  message ++ 0x80 :: List.replicate zeros 0 ++
    [7, 6, 5, 4, 3, 2, 1, 0].map (byteAt (8 * length))

/-- Bytes taken four at a time as words, the first byte highest. -/
def words : List UInt8 → List UInt32
  | a :: b :: c :: d :: rest =>
      (a.toUInt32 <<< 24 ||| b.toUInt32 <<< 16 ||| c.toUInt32 <<< 8 ||| d.toUInt32) :: words rest
  | _ => []

/-- The schedule of a block, one word a round: the last sixteen words, oldest first, make the one
that is sixteen rounds later. -/
def schedule : Nat → List UInt32 → List UInt32
  | 0, _ => []
  | rounds + 1, recent =>
      match recent with
      | w0 :: rest =>
          let w1 := rest.getD 0 0
          let w9 := rest.getD 8 0
          let w14 := rest.getD 13 0
          let s0 := rotate w1 7 ^^^ rotate w1 18 ^^^ (w1 >>> 3)
          let s1 := rotate w14 17 ^^^ rotate w14 19 ^^^ (w14 >>> 10)
          w0 :: schedule rounds (rest ++ [w0 + s0 + w9 + s1])
      | [] => []

/-- One round. -/
def round (s : State) (constant word : UInt32) : State :=
  let a := s[0]
  let e := s[4]
  let choice := (e &&& s[5]) ^^^ (~~~e &&& s[6])
  let majority := (a &&& s[1]) ^^^ (a &&& s[2]) ^^^ (s[1] &&& s[2])
  let t1 := s[7] + (rotate e 6 ^^^ rotate e 11 ^^^ rotate e 25) + choice + constant + word
  let t2 := (rotate a 2 ^^^ rotate a 13 ^^^ rotate a 22) + majority
  #v[t1 + t2, a, s[1], s[2], s[3] + t1, e, s[5], s[6]]

/-- The state behind one more block of sixteen words. -/
def compress (state : State) (block : List UInt32) : State :=
  let mixed := (roundConstants.zip (schedule 64 block)).foldl
    (fun s (constant, word) => round s constant word) state
  Vector.zipWith (· + ·) state mixed

/-- The state behind so many blocks of sixteen words. -/
def absorb : Nat → State → List UInt32 → State
  | 0, state, _ => state
  | blocks + 1, state, ws => absorb blocks (compress state (ws.take 16)) (ws.drop 16)

/-- The digest of a message. -/
def digest (message : List UInt8) : State :=
  let ws := words (pad message)
  absorb (ws.length / 16) start ws

end GameLibrary.Digest.Sha256
