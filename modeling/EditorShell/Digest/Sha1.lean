import EditorShell.Text.Hex

/-!
# The SHA-1 digest

A message is padded to whole blocks of sixteen 32-bit words, and each block stirs a state of five
words in eighty rounds. All arithmetic is modulo 2 ^ 32.
-/

namespace EditorShell
namespace Digest

/-- The five words of the state. -/
structure Sha1State where
  a : UInt32
  b : UInt32
  c : UInt32
  d : UInt32
  e : UInt32

/-- The state before the first block. -/
def Sha1State.start : Sha1State := ⟨0x67452301, 0xEFCDAB89, 0x98BADCFE, 0x10325476, 0xC3D2E1F0⟩

/-- The bits of a word moved to the left, those that leave coming back on the right. -/
def rotateLeft (w n : UInt32) : UInt32 := (w <<< n) ||| (w >>> (32 - n))

/-- The `n` bytes of a number, the most significant first. -/
def bigEndian : Nat → Nat → List UInt8
  | 0, _ => []
  | n + 1, value => bigEndian n (value / 256) ++ [UInt8.ofNat (value % 256)]

/-- A message followed by a one bit, zeros up to eight bytes before a block's end, and its length
in bits. -/
def pad (message : List UInt8) : List UInt8 :=
  let n := message.length
  message ++ 0x80 :: List.replicate ((119 - n % 64) % 64) 0 ++ bigEndian 8 (8 * n)

/-- Bytes put together to words; fewer than four bytes at the end are dropped. -/
def words : List UInt8 → List UInt32
  | w :: x :: y :: z :: rest =>
    (w.toUInt32 <<< 24 ||| x.toUInt32 <<< 16 ||| y.toUInt32 <<< 8 ||| z.toUInt32) :: words rest
  | _ => []

/-- The sixteen words of a block followed by the words that rounds 16 to 79 use. -/
def schedule (block : List UInt32) : Array UInt32 :=
  (List.range 64).foldl (fun ws i =>
    ws.push (rotateLeft (ws.getD (i + 13) 0 ^^^ ws.getD (i + 8) 0 ^^^ ws.getD (i + 2) 0 ^^^
      ws.getD i 0) 1)) block.toArray

/-- One round. -/
def round (ws : Array UInt32) (s : Sha1State) (t : Nat) : Sha1State :=
  let (f, k) : UInt32 × UInt32 :=
    if t < 20 then ((s.b &&& s.c) ||| (~~~s.b &&& s.d), 0x5A827999)
    else if t < 40 then (s.b ^^^ s.c ^^^ s.d, 0x6ED9EBA1)
    else if t < 60 then ((s.b &&& s.c) ||| (s.b &&& s.d) ||| (s.c &&& s.d), 0x8F1BBCDC)
    else (s.b ^^^ s.c ^^^ s.d, 0xCA62C1D6)
  ⟨rotateLeft s.a 5 + f + s.e + k + ws.getD t 0, s.a, rotateLeft s.b 30, s.c, s.d⟩

/-- The state after one more block. -/
def absorb (s : Sha1State) (block : List UInt32) : Sha1State :=
  let ws := schedule block
  let r := (List.range 80).foldl (round ws) s
  ⟨s.a + r.a, s.b + r.b, s.c + r.c, s.d + r.d, s.e + r.e⟩

/-- The state after all whole blocks of `ws`. -/
def absorbAll (s : Sha1State) (ws : List UInt32) : Sha1State :=
  if _h : ws.length < 16 then s else absorbAll (absorb s (ws.take 16)) (ws.drop 16)
termination_by ws.length
decreasing_by simp; omega

/-- The digest of the UTF-8 form of a text, as forty hexadecimal digits. -/
def sha1 (s : String) : String :=
  let r := absorbAll .start (words (pad s.toUTF8.toList))
  String.ofList ([r.a, r.b, r.c, r.d, r.e].flatMap fun w => Text.hex 8 w.toNat)

end Digest
end EditorShell
