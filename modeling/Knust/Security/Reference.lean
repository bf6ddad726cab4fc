import Knust.Security.Primitives

namespace Knust.Security.Reference

open Foundation

def force {α : Type} (n : ℕ) (f : ℕ → α) : α :=
  match n with
  | 0 => f 0
  | k + 1 => f (k + 1)

/-- The substitution box, 32 entries to a row, the first one in the low byte. -/
def sboxRows : List ℕ :=
  [0xc072a49cafa2d4adf04759fa7dc982ca76abd7fe2b670130c56f6bf27b777c63,
   0x75b227ebe28012079a059618c323c7041531d871f1e5a534ccf73f362693fdb7,
   0xcf584c4a39becb6a5bb1fc20ed00d153842fe329b3d63b52a05a6e1b1a2c8309,
   0xd2f3ff1021dab6bcf5389d928f40a351a89f3c507f02f94585334d43fbaaefd0,
   0xdb0b5ede14b8ee4688902a22dc4f816073195d643d7ea7c41744975fec130ccd,
   0x08ae7a65eaf4566ca94ed58d6d37c8e779e4959162acd3c25c2406490a3a32e0,
   0x9e1dc186b95735610ef6034866b53e708a8bbd4b1f74dde8c6b4a61c2e2578ba,
   0x16bb54b00f2d99416842e6bf0d89a18cdf2855cee9871e9b948ed9691198f8e1]

def sbox (x : ℕ) : ℕ := (sboxRows.getD (x / 32) 0 >>> (8 * (x % 32))) % 256

def xtime (b : ℕ) : ℕ := if b < 128 then 2 * b else (2 * b) ^^^ 0x11B

def byteOf (w i : ℕ) : ℕ := w / 256 ^ (3 - i) % 256

def word (a b c d : ℕ) : ℕ := a * 0x1000000 + b * 0x10000 + c * 0x100 + d

structure Columns where
  c0 : ℕ
  c1 : ℕ
  c2 : ℕ
  c3 : ℕ

def Columns.ofBytes (l : List UInt8) : Columns :=
  ⟨beDecode (l.take 4), beDecode ((l.drop 4).take 4), beDecode ((l.drop 8).take 4),
    beDecode ((l.drop 12).take 4)⟩

def Columns.bytes (s : Columns) : List UInt8 :=
  beEncode 4 s.c0 ++ beEncode 4 s.c1 ++ beEncode 4 s.c2 ++ beEncode 4 s.c3

def Columns.addKey (s k : Columns) : Columns :=
  force (s.c0 ^^^ k.c0) fun c0 ↦ force (s.c1 ^^^ k.c1) fun c1 ↦
  force (s.c2 ^^^ k.c2) fun c2 ↦ force (s.c3 ^^^ k.c3) fun c3 ↦ ⟨c0, c1, c2, c3⟩

def subWord (w : ℕ) : ℕ :=
  word (sbox (byteOf w 0)) (sbox (byteOf w 1)) (sbox (byteOf w 2)) (sbox (byteOf w 3))

def nextKey (rcon : ℕ) (k : Columns) : Columns :=
  let rotated := k.c3 % 0x1000000 * 0x100 + k.c3 / 0x1000000
  force (k.c0 ^^^ subWord rotated ^^^ (rcon * 0x1000000)) fun c0 ↦ force (k.c1 ^^^ c0) fun c1 ↦
  force (k.c2 ^^^ c1) fun c2 ↦ force (k.c3 ^^^ c2) fun c3 ↦ ⟨c0, c1, c2, c3⟩

def mixColumn (a b c d : ℕ) : ℕ :=
  word (xtime a ^^^ xtime b ^^^ b ^^^ c ^^^ d) (a ^^^ xtime b ^^^ xtime c ^^^ c ^^^ d)
    (a ^^^ b ^^^ xtime c ^^^ xtime d ^^^ d) (xtime a ^^^ a ^^^ b ^^^ c ^^^ xtime d)

def round (mix : ℕ → ℕ → ℕ → ℕ → ℕ) (s k : Columns) : Columns :=
  let column (a b c d : ℕ) :=
    mix (sbox (byteOf a 0)) (sbox (byteOf b 1)) (sbox (byteOf c 2)) (sbox (byteOf d 3))
  Columns.addKey ⟨column s.c0 s.c1 s.c2 s.c3, column s.c1 s.c2 s.c3 s.c0,
    column s.c2 s.c3 s.c0 s.c1, column s.c3 s.c0 s.c1 s.c2⟩ k

def rounds : List ℕ → Columns → Columns → Columns
  | [], s, _ => s
  | [rcon], s, k => round word s (nextKey rcon k)
  | rcon :: rest, s, k =>
    let k := nextKey rcon k
    rounds rest (round mixColumn s k) k

def aes128 (key block : Block 16) : Block 16 :=
  let k := Columns.ofBytes key.val
  let s := rounds [1, 2, 4, 8, 16, 32, 64, 128, 0x1B, 0x36] ((Columns.ofBytes block.val).addKey k) k
  ⟨s.bytes, by simp [Columns.bytes]⟩

example :
    (aes128 ⟨beEncode 16 0x000102030405060708090A0B0C0D0E0F, rfl⟩
      ⟨beEncode 16 0x00112233445566778899AABBCCDDEEFF, rfl⟩).val =
    beEncode 16 0x69C4E0D86A7B0430D8CDB78070B4C55A := by
  decide +kernel

def rotr (n x : ℕ) : ℕ := (x >>> n) ||| ((x <<< (32 - n)) % 2 ^ 32)

def roundConstants : List ℕ :=
  [0x428A2F98, 0x71374491, 0xB5C0FBCF, 0xE9B5DBA5, 0x3956C25B, 0x59F111F1, 0x923F82A4, 0xAB1C5ED5,
   0xD807AA98, 0x12835B01, 0x243185BE, 0x550C7DC3, 0x72BE5D74, 0x80DEB1FE, 0x9BDC06A7, 0xC19BF174,
   0xE49B69C1, 0xEFBE4786, 0x0FC19DC6, 0x240CA1CC, 0x2DE92C6F, 0x4A7484AA, 0x5CB0A9DC, 0x76F988DA,
   0x983E5152, 0xA831C66D, 0xB00327C8, 0xBF597FC7, 0xC6E00BF3, 0xD5A79147, 0x06CA6351, 0x14292967,
   0x27B70A85, 0x2E1B2138, 0x4D2C6DFC, 0x53380D13, 0x650A7354, 0x766A0ABB, 0x81C2C92E, 0x92722C85,
   0xA2BFE8A1, 0xA81A664B, 0xC24B8B70, 0xC76C51A3, 0xD192E819, 0xD6990624, 0xF40E3585, 0x106AA070,
   0x19A4C116, 0x1E376C08, 0x2748774C, 0x34B0BCB5, 0x391C0CB3, 0x4ED8AA4A, 0x5B9CCA4F, 0x682E6FF3,
   0x748F82EE, 0x78A5636F, 0x84C87814, 0x8CC70208, 0x90BEFFFA, 0xA4506CEB, 0xBEF9A3F7, 0xC67178F2]

structure Hash where
  a : ℕ
  b : ℕ
  c : ℕ
  d : ℕ
  e : ℕ
  f : ℕ
  g : ℕ
  h : ℕ

def initialHash : Hash :=
  ⟨0x6A09E667, 0xBB67AE85, 0x3C6EF372, 0xA54FF53A, 0x510E527F, 0x9B05688C, 0x1F83D9AB, 0x5BE0CD19⟩

/-- One round for each constant; the schedule always holds the next sixteen
words. -/
def compress : List ℕ → List ℕ → Hash → Hash
  | k :: ks, w0 :: ws, s =>
    let s1 := rotr 6 s.e ^^^ rotr 11 s.e ^^^ rotr 25 s.e
    let ch := (s.e &&& s.f) ^^^ ((0xFFFFFFFF ^^^ s.e) &&& s.g)
    force ((s.h + s1 + ch + k + w0) % 2 ^ 32) fun t1 ↦
    let s0 := rotr 2 s.a ^^^ rotr 13 s.a ^^^ rotr 22 s.a
    let maj := (s.a &&& s.b) ^^^ (s.a &&& s.c) ^^^ (s.b &&& s.c)
    force ((t1 + s0 + maj) % 2 ^ 32) fun a ↦ force ((s.d + t1) % 2 ^ 32) fun e ↦
    let w1 := ws.getD 0 0
    let w14 := ws.getD 13 0
    let e0 := rotr 7 w1 ^^^ rotr 18 w1 ^^^ (w1 >>> 3)
    let e1 := rotr 17 w14 ^^^ rotr 19 w14 ^^^ (w14 >>> 10)
    force ((w0 + e0 + ws.getD 8 0 + e1) % 2 ^ 32) fun w ↦
    compress ks (ws ++ [w]) ⟨a, s.a, s.b, s.c, e, s.e, s.f, s.g⟩
  | _, _, s => s

def hashBlock (s : Hash) (l : List UInt8) : Hash :=
  let r := compress roundConstants ((chunks 4 l).map beDecode) s
  ⟨(s.a + r.a) % 2 ^ 32, (s.b + r.b) % 2 ^ 32, (s.c + r.c) % 2 ^ 32, (s.d + r.d) % 2 ^ 32,
    (s.e + r.e) % 2 ^ 32, (s.f + r.f) % 2 ^ 32, (s.g + r.g) % 2 ^ 32, (s.h + r.h) % 2 ^ 32⟩

def padMessage (l : List UInt8) : List UInt8 :=
  l ++ [0x80] ++ List.replicate ((119 - l.length % 64) % 64) 0 ++ beEncode 8 (8 * l.length)

def sha256 (l : List UInt8) : Block 32 :=
  let s := (chunks 64 (padMessage l)).foldl hashBlock initialHash
  ⟨[s.a, s.b, s.c, s.d, s.e, s.f, s.g, s.h].flatMap (beEncode 4), by simp⟩

example :
    (sha256 [0x61, 0x62, 0x63]).val =
    beEncode 32 0xBA7816BF8F01CFEA414140DE5DAE2223B00361A396177A9CB410FF61F20015AD := by
  decide +kernel

def fieldOrder : ℕ := 2 ^ 255 - 19

structure Ladder where
  x2 : ℕ
  z2 : ℕ
  x3 : ℕ
  z3 : ℕ

def Ladder.swap (s : Ladder) : Ladder := ⟨s.x3, s.z3, s.x2, s.z2⟩

def Ladder.step (x1 : ℕ) (s : Ladder) : Ladder :=
  let p := fieldOrder
  force ((s.x2 + s.z2) % p) fun a ↦ force (a * a % p) fun aa ↦
  force ((s.x2 + p - s.z2) % p) fun b ↦ force (b * b % p) fun bb ↦
  force ((aa + p - bb) % p) fun e ↦
  force ((s.x3 + s.z3) * b % p) fun cb ↦ force ((s.x3 + p - s.z3) * a % p) fun da ↦
  force ((da + cb) * (da + cb) % p) fun x3 ↦
  force (x1 * ((da + p - cb) * (da + p - cb) % p) % p) fun z3 ↦
  force (aa * bb % p) fun x2 ↦ force (e * ((aa + 121665 * e) % p) % p) fun z2 ↦
  ⟨x2, z2, x3, z3⟩

def ladder (k x1 : ℕ) : ℕ → Ladder → Ladder
  | 0, s => s
  | t + 1, s =>
    if k.testBit t then ladder k x1 t (s.swap.step x1).swap else ladder k x1 t (s.step x1)

def powMod (p b e : ℕ) : ℕ → ℕ → ℕ
  | 0, acc => acc
  | t + 1, acc =>
    force (if e.testBit t then acc * acc % p * b % p else acc * acc % p) (powMod p b e t)

def leDecode (l : List UInt8) : ℕ := beDecode l.reverse

def x25519Coordinate (secret u : List UInt8) : ℕ :=
  let k := leDecode secret % 2 ^ 254 / 8 * 8 + 2 ^ 254
  let x1 := leDecode u % 2 ^ 255
  let s := ladder k x1 255 ⟨1, 0, x1, 1⟩
  s.x2 * powMod fieldOrder s.z2 (fieldOrder - 2) 255 1 % fieldOrder

def leEncode32 (n : ℕ) : Block 32 :=
  ⟨(beEncode 32 n).reverse, List.length_reverse.trans (beEncode_length _ _)⟩

def x25519 (secret u : Block 32) : Block 32 := leEncode32 (x25519Coordinate secret.val u.val)

example :
    (x25519 ⟨beEncode 32 0xA546E36BF0527C9D3B16154B82465EDD62144C0AC1FC5A18506A2244BA449AC4, rfl⟩
      ⟨beEncode 32 0xE6DB6867583030DB3594C1A424B15F7C726624EC26B3353B10A903A6D0AB1C4C, rfl⟩).val =
    beEncode 32 0xC3DA55379DE9C6908E94EA4DF28D084F32ECCF03491C71F754B4075577A28552 := by
  decide +kernel

def basePoint : Block 32 := ⟨9 :: List.replicate 31 0, rfl⟩

def derivedKey (password salt : List UInt8) : ℕ :=
  if password = asBytes "secret" ∧ salt = userPasswordSalt then 0x03FCEDB66660251EC81A1A716901696A
  else if password = asBytes "gateway" ∧ salt = deviceAuthSalt then
    0xF606D05CC92FD09A8E909CDB0E782FF8
  else 0

/-- The functions of the crates. Key derivation, whose iteration count is out of
reach here, is tabulated for two passwords. -/
def primitives : Primitives where
  aes128 := aes128
  sha256 := sha256
  pbkdf2HmacSha256 password salt _ := ⟨beEncode 16 (derivedKey password salt), beEncode_length _ _⟩
  x25519Public secret := x25519 secret basePoint
  x25519 := x25519

end Knust.Security.Reference
