/-! # SHA-256

A message of bytes is padded to blocks of 64, and the blocks are folded into a state of eight words.
-/

namespace AwaitLint.Sha256

abbrev Word := UInt32

def rotate (n : Word) (x : Word) : Word := (x >>> n) ||| (x <<< (32 - n))

def scheduleNear (x : Word) : Word := rotate 17 x ^^^ rotate 19 x ^^^ (x >>> 10)
def scheduleFar (x : Word) : Word := rotate 7 x ^^^ rotate 18 x ^^^ (x >>> 3)
def mixFirst (x : Word) : Word := rotate 2 x ^^^ rotate 13 x ^^^ rotate 22 x
def mixFifth (x : Word) : Word := rotate 6 x ^^^ rotate 11 x ^^^ rotate 25 x
def choose (x y z : Word) : Word := (x &&& y) ^^^ (~~~x &&& z)
def majority (x y z : Word) : Word := (x &&& y) ^^^ (x &&& z) ^^^ (y &&& z)

/-- One word per round: fractions of the cube roots of the first 64 primes. -/
def roundWords : List Word := [
  0x428a2f98, 0x71374491, 0xb5c0fbcf, 0xe9b5dba5, 0x3956c25b, 0x59f111f1, 0x923f82a4, 0xab1c5ed5,
  0xd807aa98, 0x12835b01, 0x243185be, 0x550c7dc3, 0x72be5d74, 0x80deb1fe, 0x9bdc06a7, 0xc19bf174,
  0xe49b69c1, 0xefbe4786, 0x0fc19dc6, 0x240ca1cc, 0x2de92c6f, 0x4a7484aa, 0x5cb0a9dc, 0x76f988da,
  0x983e5152, 0xa831c66d, 0xb00327c8, 0xbf597fc7, 0xc6e00bf3, 0xd5a79147, 0x06ca6351, 0x14292967,
  0x27b70a85, 0x2e1b2138, 0x4d2c6dfc, 0x53380d13, 0x650a7354, 0x766a0abb, 0x81c2c92e, 0x92722c85,
  0xa2bfe8a1, 0xa81a664b, 0xc24b8b70, 0xc76c51a3, 0xd192e819, 0xd6990624, 0xf40e3585, 0x106aa070,
  0x19a4c116, 0x1e376c08, 0x2748774c, 0x34b0bcb5, 0x391c0cb3, 0x4ed8aa4a, 0x5b9cca4f, 0x682e6ff3,
  0x748f82ee, 0x78a5636f, 0x84c87814, 0x8cc70208, 0x90befffa, 0xa4506ceb, 0xbef9a3f7, 0xc67178f2]

/-- The eight words between blocks. -/
structure State where
  a : Word
  b : Word
  c : Word
  d : Word
  e : Word
  f : Word
  g : Word
  h : Word
  deriving DecidableEq, Repr

def State.initial : State :=
  ⟨0x6a09e667, 0xbb67ae85, 0x3c6ef372, 0xa54ff53a, 0x510e527f, 0x9b05688c, 0x1f83d9ab, 0x5be0cd19⟩

def State.add (s t : State) : State :=
  ⟨s.a + t.a, s.b + t.b, s.c + t.c, s.d + t.d, s.e + t.e, s.f + t.f, s.g + t.g, s.h + t.h⟩

/-- One round, with the word of the round and the word of the schedule. -/
def State.round (s : State) (k w : Word) : State :=
  let near := s.h + mixFifth s.e + choose s.e s.f s.g + k + w
  let far := mixFirst s.a + majority s.a s.b s.c
  ⟨near + far, s.a, s.b, s.c, s.d + near, s.e, s.f, s.g⟩

def wordOf (bytes : List Nat) : Word := UInt32.ofNat (bytes.foldl (fun n b => n * 256 + b) 0)

/-- Cuts a list into pieces of `size`; `fuel` bounds their number. -/
def pieces (size : Nat) : Nat → List Nat → List (List Nat)
  | 0, _ => []
  | _, [] => []
  | fuel + 1, xs => xs.take size :: pieces size fuel (xs.drop size)

/-- Adds words to a schedule that is held last word first. -/
def extend : Nat → List Word → List Word
  | 0, ws => ws
  | n + 1, ws =>
    let w := scheduleNear (ws.getD 1 0) + ws.getD 6 0 + scheduleFar (ws.getD 14 0) + ws.getD 15 0
    extend n (w :: ws)

/-- The 64 words of a block. -/
def schedule (block : List Nat) : List Word :=
  (extend 48 ((pieces 4 16 block).map wordOf).reverse).reverse

def State.absorb (s : State) (block : List Nat) : State :=
  s.add ((roundWords.zip (schedule block)).foldl (fun t (k, w) => t.round k w) s)

/-- The last `count` bytes of a number, highest first. -/
def bytesOf : Nat → Nat → List Nat
  | 0, _ => []
  | count + 1, n => bytesOf count (n / 256) ++ [n % 256]

/-- The message, a one bit, zeros, and the length in bits; together whole blocks. -/
def padded (message : List Nat) : List Nat :=
  message ++ 0x80 :: List.replicate ((119 - message.length % 64) % 64) 0
    ++ bytesOf 8 (8 * message.length)

def State.bytes (s : State) : List Nat :=
  [s.a, s.b, s.c, s.d, s.e, s.f, s.g, s.h].flatMap fun w => bytesOf 4 w.toNat

/-- The 32 bytes of the digest. -/
def digest (message : List Nat) : List Nat :=
  let text := padded message
  ((pieces 64 text.length text).foldl State.absorb .initial).bytes

end AwaitLint.Sha256
