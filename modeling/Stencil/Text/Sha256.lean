/-!
# SHA-256

The digest of a byte string as eight words, and its text of 64 lower-case hexadecimal digits. Every
digest has that length and consists of such digits (`length_hex`, `hex_digits`).
-/

namespace Stencil.Text.Sha256

/-- The chaining value. -/
structure State where
  a : UInt32
  b : UInt32
  c : UInt32
  d : UInt32
  e : UInt32
  f : UInt32
  g : UInt32
  h : UInt32

def start : State :=
  ⟨0x6a09e667, 0xbb67ae85, 0x3c6ef372, 0xa54ff53a, 0x510e527f, 0x9b05688c, 0x1f83d9ab, 0x5be0cd19⟩

def roundConstants : List UInt32 := [
  0x428a2f98, 0x71374491, 0xb5c0fbcf, 0xe9b5dba5, 0x3956c25b, 0x59f111f1, 0x923f82a4, 0xab1c5ed5,
  0xd807aa98, 0x12835b01, 0x243185be, 0x550c7dc3, 0x72be5d74, 0x80deb1fe, 0x9bdc06a7, 0xc19bf174,
  0xe49b69c1, 0xefbe4786, 0x0fc19dc6, 0x240ca1cc, 0x2de92c6f, 0x4a7484aa, 0x5cb0a9dc, 0x76f988da,
  0x983e5152, 0xa831c66d, 0xb00327c8, 0xbf597fc7, 0xc6e00bf3, 0xd5a79147, 0x06ca6351, 0x14292967,
  0x27b70a85, 0x2e1b2138, 0x4d2c6dfc, 0x53380d13, 0x650a7354, 0x766a0abb, 0x81c2c92e, 0x92722c85,
  0xa2bfe8a1, 0xa81a664b, 0xc24b8b70, 0xc76c51a3, 0xd192e819, 0xd6990624, 0xf40e3585, 0x106aa070,
  0x19a4c116, 0x1e376c08, 0x2748774c, 0x34b0bcb5, 0x391c0cb3, 0x4ed8aa4a, 0x5b9cca4f, 0x682e6ff3,
  0x748f82ee, 0x78a5636f, 0x84c87814, 0x8cc70208, 0x90befffa, 0xa4506ceb, 0xbef9a3f7, 0xc67178f2]

def rotate (x : UInt32) (n : UInt32) : UInt32 := (x >>> n) ||| (x <<< (32 - n))

/-- Big-endian words of a byte string whose length is a multiple of four. -/
def words : List UInt8 → List UInt32
  | a :: b :: c :: d :: rest =>
    (a.toUInt32 <<< 24 ||| b.toUInt32 <<< 16 ||| c.toUInt32 <<< 8 ||| d.toUInt32) :: words rest
  | _ => []

/-- The message, a one bit, zeros, and the length in bits, filling whole blocks of 64 bytes. -/
def pad (message : List UInt8) : List UInt8 :=
  let zeros := (119 - message.length % 64) % 64
  let bits := message.length * 8
  message ++ 0x80 :: List.replicate zeros 0
    ++ (List.range 8).map fun i => UInt8.ofNat (bits / Nat.pow 256 (7 - i))

/-- The next word of a message schedule, of which the words so far are given with the last one first. -/
def nextWord (recent : List UInt32) : UInt32 :=
  let x := recent.getD 14 0
  let y := recent.getD 1 0
  recent.getD 15 0 + (rotate x 7 ^^^ rotate x 18 ^^^ (x >>> 3))
    + recent.getD 6 0 + (rotate y 17 ^^^ rotate y 19 ^^^ (y >>> 10))

/-- The 64 words that a block of 16 words is spread over. -/
def schedule (block : List UInt32) : List UInt32 :=
  ((List.range 48).foldl (fun recent _ => nextWord recent :: recent) block.reverse).reverse

def round (s : State) (constant word : UInt32) : State :=
  let choice := (s.e &&& s.f) ^^^ ((s.e ^^^ 0xffffffff) &&& s.g)
  let majority := (s.a &&& s.b) ^^^ (s.a &&& s.c) ^^^ (s.b &&& s.c)
  let first := s.h + (rotate s.e 6 ^^^ rotate s.e 11 ^^^ rotate s.e 25) + choice + constant + word
  let second := (rotate s.a 2 ^^^ rotate s.a 13 ^^^ rotate s.a 22) + majority
  ⟨first + second, s.a, s.b, s.c, s.d + first, s.e, s.f, s.g⟩

def compress (s : State) (block : List UInt32) : State :=
  let t := (roundConstants.zip (schedule block)).foldl (fun t step => round t step.1 step.2) s
  ⟨s.a + t.a, s.b + t.b, s.c + t.c, s.d + t.d, s.e + t.e, s.f + t.f, s.g + t.g, s.h + t.h⟩

/-- The digest of a byte string. -/
def digest (message : List UInt8) : State :=
  let all := words (pad message)
  (List.range (all.length / 16)).foldl (fun s i => compress s ((all.drop (16 * i)).take 16)) start

/-- The eight hexadecimal digits of a word. -/
def wordChars (word : UInt32) : List Char :=
  [28, 24, 20, 16, 12, 8, 4, 0].map fun shift => Nat.digitChar (word.toNat / Nat.pow 2 shift % 16)

def State.chars (s : State) : List Char :=
  [s.a, s.b, s.c, s.d, s.e, s.f, s.g, s.h].flatMap wordChars

/-- The digest of a text's UTF-8 bytes in hexadecimal digits. -/
def hex (text : String) : List Char := (digest text.toUTF8.toList).chars

theorem length_hex (text : String) : (hex text).length = 64 := by
  simp [hex, State.chars, wordChars]

theorem digitChar_mem {n : Nat} (small : n < 16) : Nat.digitChar n ∈ "0123456789abcdef".toList := by
  have all : ∀ m ∈ List.range 16, Nat.digitChar m ∈ "0123456789abcdef".toList := by decide
  exact all n (List.mem_range.2 small)

theorem hex_digits (text : String) : ∀ c ∈ hex text, c ∈ "0123456789abcdef".toList := by
  intro c member
  simp only [hex, State.chars, List.mem_flatMap, wordChars, List.mem_map] at member
  obtain ⟨word, _, shift, _, rfl⟩ := member
  exact digitChar_mem (Nat.mod_lt _ (by decide))

end Stencil.Text.Sha256
