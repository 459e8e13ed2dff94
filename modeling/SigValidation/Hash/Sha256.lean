import SigValidation.Bytes.Basic
/-!
# SHA-256

The message is padded to whole blocks of 64 bytes; each block is expanded to 64 words and mixed into
eight words of state. The digest is the last state, 32 bytes.
-/
namespace SigValidation.Sha256

structure State where
  a : UInt32
  b : UInt32
  c : UInt32
  d : UInt32
  e : UInt32
  f : UInt32
  g : UInt32
  h : UInt32
  deriving DecidableEq

/-- The first 32 bits of the fractional parts of the square roots of the first eight primes. -/
def initial : State :=
  ⟨0x6a09e667, 0xbb67ae85, 0x3c6ef372, 0xa54ff53a, 0x510e527f, 0x9b05688c, 0x1f83d9ab, 0x5be0cd19⟩

/-- The first 32 bits of the fractional parts of the cube roots of the first 64 primes. -/
def roundConstants : List UInt32 :=
  [0x428a2f98, 0x71374491, 0xb5c0fbcf, 0xe9b5dba5, 0x3956c25b, 0x59f111f1, 0x923f82a4, 0xab1c5ed5,
   0xd807aa98, 0x12835b01, 0x243185be, 0x550c7dc3, 0x72be5d74, 0x80deb1fe, 0x9bdc06a7, 0xc19bf174,
   0xe49b69c1, 0xefbe4786, 0x0fc19dc6, 0x240ca1cc, 0x2de92c6f, 0x4a7484aa, 0x5cb0a9dc, 0x76f988da,
   0x983e5152, 0xa831c66d, 0xb00327c8, 0xbf597fc7, 0xc6e00bf3, 0xd5a79147, 0x06ca6351, 0x14292967,
   0x27b70a85, 0x2e1b2138, 0x4d2c6dfc, 0x53380d13, 0x650a7354, 0x766a0abb, 0x81c2c92e, 0x92722c85,
   0xa2bfe8a1, 0xa81a664b, 0xc24b8b70, 0xc76c51a3, 0xd192e819, 0xd6990624, 0xf40e3585, 0x106aa070,
   0x19a4c116, 0x1e376c08, 0x2748774c, 0x34b0bcb5, 0x391c0cb3, 0x4ed8aa4a, 0x5b9cca4f, 0x682e6ff3,
   0x748f82ee, 0x78a5636f, 0x84c87814, 0x8cc70208, 0x90befffa, 0xa4506ceb, 0xbef9a3f7, 0xc67178f2]

/-- Rotation to the right, for amounts strictly between 0 and 32. -/
def rotateRight (x amount : UInt32) : UInt32 := (x >>> amount) ||| (x <<< (32 - amount))

def choose (x y z : UInt32) : UInt32 := (x &&& y) ^^^ (~~~x &&& z)

def majority (x y z : UInt32) : UInt32 := (x &&& y) ^^^ (x &&& z) ^^^ (y &&& z)

def bigSigma0 (x : UInt32) : UInt32 := rotateRight x 2 ^^^ rotateRight x 13 ^^^ rotateRight x 22

def bigSigma1 (x : UInt32) : UInt32 := rotateRight x 6 ^^^ rotateRight x 11 ^^^ rotateRight x 25

def smallSigma0 (x : UInt32) : UInt32 := rotateRight x 7 ^^^ rotateRight x 18 ^^^ (x >>> 3)

def smallSigma1 (x : UInt32) : UInt32 := rotateRight x 17 ^^^ rotateRight x 19 ^^^ (x >>> 10)

/-- The next word of the schedule, from the words so far. -/
def nextWord (words : Array UInt32) : UInt32 :=
  let back (n : Nat) := words.getD (words.size - n) 0
  smallSigma1 (back 2) + back 7 + smallSigma0 (back 15) + back 16

/-- The 64 words of a block: its own sixteen, then 48 more. -/
def schedule (block : Bytes) : List UInt32 :=
  let own := (Bytes.pieces 4 16 block).map fun word => UInt32.ofNat (Bytes.toNatBE word)
  (Nat.repeat (fun words => words.push (nextWord words)) 48 own.toArray).toList

/-- One round: mix a constant and a word into the state. -/
def round (s : State) (constantAndWord : UInt32 × UInt32) : State :=
  let t1 := s.h + bigSigma1 s.e + choose s.e s.f s.g + constantAndWord.1 + constantAndWord.2
  let t2 := bigSigma0 s.a + majority s.a s.b s.c
  ⟨t1 + t2, s.a, s.b, s.c, s.d + t1, s.e, s.f, s.g⟩

def compress (s : State) (block : Bytes) : State :=
  let t := (roundConstants.zip (schedule block)).foldl round s
  ⟨s.a + t.a, s.b + t.b, s.c + t.c, s.d + t.d, s.e + t.e, s.f + t.f, s.g + t.g, s.h + t.h⟩

/-- A one bit, zeros to eight bytes short of a whole block, then the length in bits. -/
def padding (length : Nat) : Bytes :=
  0x80 :: List.replicate ((119 - length % 64) % 64) 0 ++ Bytes.ofNatBE 8 (8 * length)

/-- The 32 bytes of a state, word by word. -/
def State.toBytes (s : State) : Bytes32 where
  toList := [s.a, s.b, s.c, s.d, s.e, s.f, s.g, s.h].flatMap fun word => Bytes.ofNatBE 4 word.toNat
  length_toList := by simp [List.flatMap_cons]

def digest (message : Bytes) : Bytes32 :=
  let padded := message ++ padding message.length
  ((Bytes.pieces 64 (padded.length / 64) padded).foldl compress initial).toBytes

/-- The digest under a tag: the tag's own digest twice, in front of the message. -/
def tagged (tag : String) (message : Bytes) : Bytes32 :=
  let t := (digest (Bytes.ofText tag)).toList
  digest (t ++ t ++ message)

/-- The keyed digest (HMAC) of a message. A key longer than a block is hashed first. -/
def keyed (key message : Bytes) : Bytes32 :=
  let short := if key.length > 64 then (digest key).toList else key
  let block := short ++ List.replicate (64 - short.length) 0
  let inner := digest (block.map (· ^^^ 0x36) ++ message)
  digest (block.map (· ^^^ 0x5c) ++ inner.toList)

end SigValidation.Sha256
