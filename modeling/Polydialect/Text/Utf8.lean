/-! # Reading UTF-8 leniently

Bytes are read as UTF-8, and each longest run of bytes that starts a character but cannot be
continued becomes one replacement character. Bytes are UTF-8 if the text that is read so is written
as the same bytes. Every text is read back from its own bytes (`decodeFrom_encode`).
-/

namespace Polydialect.Text.Utf8

/-- What an open character still needs: `tails` bytes, of which the next must lie in
`[least, greatest]`, and the bits read so far. -/
structure Pending where
  tails : Nat
  least : Nat
  greatest : Nat
  bits : Nat

/-- The character that stands for bytes that cannot be read. -/
def replacement : Char := '\uFFFD'

/-- The state after a first byte of several, nothing when no character starts with it. -/
def lead (b : Nat) : Option Pending :=
  if 0xC2 ≤ b ∧ b ≤ 0xDF then some ⟨1, 0x80, 0xBF, b - 0xC0⟩
  else if b = 0xE0 then some ⟨2, 0xA0, 0xBF, b - 0xE0⟩
  else if b = 0xED then some ⟨2, 0x80, 0x9F, b - 0xE0⟩
  else if 0xE1 ≤ b ∧ b ≤ 0xEF then some ⟨2, 0x80, 0xBF, b - 0xE0⟩
  else if b = 0xF0 then some ⟨3, 0x90, 0xBF, b - 0xF0⟩
  else if b = 0xF4 then some ⟨3, 0x80, 0x8F, b - 0xF0⟩
  else if 0xF1 ≤ b ∧ b ≤ 0xF3 then some ⟨3, 0x80, 0xBF, b - 0xF0⟩
  else none

/-- A byte between characters: the characters it completes and the character it opens. -/
def start (b : Nat) : List Char × Option Pending :=
  if b < 0x80 then ([Char.ofNat b], none)
  else match lead b with
    | some p => ([], some p)
    | none => ([replacement], none)

/-- A byte in any state. -/
def step : Option Pending → Nat → List Char × Option Pending
  | none, b => start b
  | some p, b =>
    if p.least ≤ b ∧ b ≤ p.greatest then
      let bits := 64 * p.bits + (b - 0x80)
      if p.tails = 1 then ([Char.ofNat bits], none) else ([], some ⟨p.tails - 1, 0x80, 0xBF, bits⟩)
    else
      let (cs, q) := start b
      (replacement :: cs, q)

/-- The characters of the bytes that are left. -/
def decodeFrom : Option Pending → List UInt8 → List Char
  | none, [] => []
  | some _, [] => [replacement]
  | q, b :: r =>
    let (cs, q') := step q b.toNat
    cs ++ decodeFrom q' r

/-- The text that bytes stand for. -/
def decode (bytes : List UInt8) : String := .ofList (decodeFrom none bytes)

/-- The bytes of a character. -/
def encodeChar (c : Char) : List UInt8 := String.utf8EncodeChar c

/-- The bytes of characters. -/
def encode (s : List Char) : List UInt8 := s.flatMap encodeChar

/-- Whether nothing in the bytes has to be replaced. -/
def isValid (bytes : List UInt8) : Bool := encode (decodeFrom none bytes) == bytes

variable {n b tails least greatest bits : Nat}

/-! ## Reading written text -/

theorem decodeFrom_lead {p : Pending} (hb : 0x80 ≤ b) (hp : lead b = some p) (hsize : b < 256)
    (rest : List UInt8) : decodeFrom none (UInt8.ofNat b :: rest) = decodeFrom (some p) rest := by
  have hbyte : (UInt8.ofNat b).toNat = b := UInt8.toNat_ofNat_of_lt' hsize
  rw [decodeFrom, hbyte, step, start, if_neg (by omega), hp]
  rfl

/-- A byte that goes on with a character. -/
theorem decodeFrom_tail (hl : least ≤ b) (hg : b ≤ greatest) (hsize : b < 256)
    (rest : List UInt8) :
    decodeFrom (some ⟨tails + 2, least, greatest, bits⟩) (UInt8.ofNat b :: rest) =
      decodeFrom (some ⟨tails + 1, 0x80, 0xBF, 64 * bits + (b - 0x80)⟩) rest := by
  have hbyte : (UInt8.ofNat b).toNat = b := UInt8.toNat_ofNat_of_lt' hsize
  rw [decodeFrom, hbyte, step, if_pos ⟨hl, hg⟩]
  simp

/-- A byte that ends a character. -/
theorem decodeFrom_last (hl : least ≤ b) (hg : b ≤ greatest) (hsize : b < 256)
    (rest : List UInt8) :
    decodeFrom (some ⟨1, least, greatest, bits⟩) (UInt8.ofNat b :: rest) =
      Char.ofNat (64 * bits + (b - 0x80)) :: decodeFrom none rest := by
  have hbyte : (UInt8.ofNat b).toNat = b := UInt8.toNat_ofNat_of_lt' hsize
  rw [decodeFrom, hbyte, step, if_pos ⟨hl, hg⟩]
  simp

/-! A first byte bounds the next one, and the characters that start with it keep to the bounds. -/

theorem lead_two (h : 0x7f < n) (h' : n ≤ 0x7ff) :
    lead (n / 64 % 32 + 0xC0) = some ⟨1, 0x80, 0xBF, n / 64⟩ := by
  have hbits : n / 64 % 32 + 0xC0 - 0xC0 = n / 64 := by omega
  rw [lead, if_pos (by omega), hbits]

theorem lead_three (h : 0x7ff < n) (h' : n ≤ 0xffff) (hscalar : n < 0xD800 ∨ 0xDFFF < n) :
    ∃ least greatest, lead (n / 4096 % 16 + 0xE0) = some ⟨2, least, greatest, n / 4096⟩ ∧
      least ≤ n / 64 % 64 + 0x80 ∧ n / 64 % 64 + 0x80 ≤ greatest := by
  have hbits : n / 4096 % 16 + 0xE0 - 0xE0 = n / 4096 := by omega
  rw [lead, if_neg (by omega), hbits]
  split
  · exact ⟨_, _, rfl, by omega, by omega⟩
  split
  · exact ⟨_, _, rfl, by omega, by omega⟩
  rw [if_pos (by omega)]
  exact ⟨_, _, rfl, by omega, by omega⟩

theorem lead_four (h : 0xffff < n) (h' : n < 0x110000) :
    ∃ least greatest, lead (n / 262144 % 8 + 0xF0) = some ⟨3, least, greatest, n / 262144⟩ ∧
      least ≤ n / 4096 % 64 + 0x80 ∧ n / 4096 % 64 + 0x80 ≤ greatest := by
  have hbits : n / 262144 % 8 + 0xF0 - 0xF0 = n / 262144 := by omega
  rw [lead, if_neg (by omega), if_neg (by omega), if_neg (by omega), if_neg (by omega), hbits]
  split
  · exact ⟨_, _, rfl, by omega, by omega⟩
  split
  · exact ⟨_, _, rfl, by omega, by omega⟩
  rw [if_pos (by omega)]
  exact ⟨_, _, rfl, by omega, by omega⟩

/-- A character is read from its bytes, whatever follows them. -/
theorem decodeFrom_encodeChar (c : Char) (rest : List UInt8) :
    decodeFrom none (encodeChar c ++ rest) = c :: decodeFrom none rest := by
  obtain ⟨n, hn⟩ : ∃ n, c.toNat = n := ⟨_, rfl⟩
  have hscalar : n < 0xD800 ∨ 0xDFFF < n ∧ n < 0x110000 := hn ▸ c.valid
  have hc : Char.ofNat n = c := hn ▸ Char.ofNat_toNat c
  rw [encodeChar, String.utf8EncodeChar, show c.val.toNat = n from hn]
  split
  · have hbyte : (UInt8.ofNat n).toNat = n := UInt8.toNat_ofNat_of_lt' (by show n < 256; omega)
    rw [List.singleton_append, decodeFrom, hbyte, step, start, if_pos (by omega), hc]
    rfl
  split
  · rw [List.cons_append, List.singleton_append,
      decodeFrom_lead (by omega) (lead_two (by omega) (by omega)) (by omega),
      decodeFrom_last (by omega) (by omega) (by omega)]
    have hsum : 64 * (n / 64) + (n % 64 + 0x80 - 0x80) = n := by omega
    rw [hsum, hc]
  split
  · obtain ⟨least, greatest, hlead, hl, hg⟩ := lead_three (n := n) (by omega) (by omega) (by omega)
    simp only [List.cons_append, List.nil_append]
    rw [decodeFrom_lead (by omega) hlead (by omega), decodeFrom_tail hl hg (by omega),
      decodeFrom_last (by omega) (by omega) (by omega)]
    have hsum : 64 * (64 * (n / 4096) + (n / 64 % 64 + 0x80 - 0x80)) + (n % 64 + 0x80 - 0x80) =
        n := by omega
    rw [hsum, hc]
  · obtain ⟨least, greatest, hlead, hl, hg⟩ := lead_four (n := n) (by omega) (by omega)
    simp only [List.cons_append, List.nil_append]
    rw [decodeFrom_lead (by omega) hlead (by omega), decodeFrom_tail hl hg (by omega),
      decodeFrom_tail (by omega) (by omega) (by omega),
      decodeFrom_last (by omega) (by omega) (by omega)]
    have hsum : 64 * (64 * (64 * (n / 262144) + (n / 4096 % 64 + 0x80 - 0x80)) +
        (n / 64 % 64 + 0x80 - 0x80)) + (n % 64 + 0x80 - 0x80) = n := by omega
    rw [hsum, hc]

/-- Text is read back from its bytes. -/
theorem decodeFrom_encode (s : List Char) : decodeFrom none (encode s) = s := by
  induction s with
  | nil => rfl
  | cons c s ih =>
    rw [encode, List.flatMap_cons, decodeFrom_encodeChar]
    exact congrArg (c :: ·) ih

end Polydialect.Text.Utf8
