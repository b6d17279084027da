import Pairing.Bytes

/-!
# The ChaCha20 stream cipher

The state is four rows of four words. A quarter round works on all four columns at once; turning the rows
against each other brings the diagonals into the columns.
-/

namespace Pairing.ChaCha20

structure Row where
  w0 : UInt32
  w1 : UInt32
  w2 : UInt32
  w3 : UInt32

namespace Row

def map₂ (f : UInt32 → UInt32 → UInt32) (r s : Row) : Row :=
  ⟨f r.w0 s.w0, f r.w1 s.w1, f r.w2 s.w2, f r.w3 s.w3⟩

def add (r s : Row) : Row := map₂ (· + ·) r s

/-- The words of `r` with those of `s` mixed in, rotated by `n` bits to the left. -/
def mix (n : UInt32) (r s : Row) : Row :=
  map₂ (fun x y => (x ^^^ y) <<< n ||| (x ^^^ y) >>> (32 - n)) r s

def turn (r : Row) : Row := ⟨r.w1, r.w2, r.w3, r.w0⟩

/-- The row that 16 bytes denote. -/
def ofBytes (b : Bytes) : Row :=
  let word i := UInt32.ofNat (Bytes.ofLittleEndian ((b.drop (4 * i)).take 4))
  ⟨word 0, word 1, word 2, word 3⟩

def toBytes (r : Row) : Bytes :=
  [r.w0, r.w1, r.w2, r.w3].flatMap fun w => Bytes.littleEndian 4 w.toNat

@[simp] theorem length_toBytes (r : Row) : r.toBytes.length = 16 := by simp [toBytes]

end Row

structure State where
  a : Row
  b : Row
  c : Row
  d : Row

namespace State

def quarters (s : State) : State :=
  let a := s.a.add s.b
  let d := s.d.mix 16 a
  let c := s.c.add d
  let b := s.b.mix 12 c
  let a := a.add b
  let d := d.mix 8 a
  let c := c.add d
  let b := b.mix 7 c
  ⟨a, b, c, d⟩

def doubleRound (s : State) : State :=
  let s := s.quarters
  let s := quarters ⟨s.a, s.b.turn, s.c.turn.turn, s.d.turn.turn.turn⟩
  ⟨s.a, s.b.turn.turn.turn, s.c.turn.turn, s.d.turn⟩

def rounds : Nat → State → State
  | 0, s => s
  | k + 1, s => rounds k s.doubleRound

def add (s t : State) : State := ⟨s.a.add t.a, s.b.add t.b, s.c.add t.c, s.d.add t.d⟩

def toBytes (s : State) : Bytes := s.a.toBytes ++ s.b.toBytes ++ s.c.toBytes ++ s.d.toBytes

@[simp] theorem length_toBytes (s : State) : s.toBytes.length = 64 := by simp [toBytes]

end State

def constants : Row := ⟨0x61707865, 0x3320646e, 0x79622d32, 0x6b206574⟩

def initial (key : Block 32) (last : Block 16) : State :=
  ⟨constants, Row.ofBytes (key.1.take 16), Row.ofBytes (key.1.drop 16), Row.ofBytes last.1⟩

/-- One block of the key stream. -/
def block (key : Block 32) (nonce : Block 12) (counter : Nat) : Block 64 :=
  let s := initial key ⟨Bytes.littleEndian 4 counter ++ nonce.1, by simp [nonce.2]⟩
  ⟨((s.rounds 10).add s).toBytes, by simp⟩

/-- The first `n` bytes of the key stream from block `counter` on. -/
def keyStream (key : Block 32) (nonce : Block 12) (counter n : Nat) : Bytes :=
  ((List.range ((n + 63) / 64)).flatMap fun i => (block key nonce (counter + i)).1).take n

/-- Encryption and decryption alike. -/
def cipher (key : Block 32) (nonce : Block 12) (counter : Nat) (m : Bytes) : Bytes :=
  Bytes.xor m (keyStream key nonce counter m.length)

/-- The key for a long nonce's first half: the outer rows after the rounds. -/
def subkey (key : Block 32) (half : Block 16) : Block 32 :=
  let s := (initial key half).rounds 10
  ⟨s.a.toBytes ++ s.d.toBytes, by simp⟩

end Pairing.ChaCha20
