/-!
# UTF-8

The encoding of texts as bytes, and two ways back: a strict one, and one that puts a replacement
character where the bytes are no text.

## Main definitions

* `HttpAudit.Text.Utf8.encode` — the bytes of a text.
* `HttpAudit.Text.Utf8.decode?` — the text of valid bytes.
* `HttpAudit.Text.Utf8.decodeLossy` — a text for any bytes.

## Design

A decoder goes byte by byte through states that tell which bytes may come next. The bytes read of
a character that turns out to be invalid become one replacement character, and the byte that shows
this starts anew.
-/

namespace HttpAudit.Text.Utf8

/-- The bytes of a character. -/
def encodeChar (c : Char) : List UInt8 :=
  let n := c.toNat
  if n < 0x80 then [UInt8.ofNat n]
  else if n < 0x800 then [UInt8.ofNat (0xC0 + n / 64), UInt8.ofNat (0x80 + n % 64)]
  else if n < 0x10000 then
    [UInt8.ofNat (0xE0 + n / 4096), UInt8.ofNat (0x80 + n / 64 % 64), UInt8.ofNat (0x80 + n % 64)]
  else
    [UInt8.ofNat (0xF0 + n / 262144), UInt8.ofNat (0x80 + n / 4096 % 64),
     UInt8.ofNat (0x80 + n / 64 % 64), UInt8.ofNat (0x80 + n % 64)]

/-- The bytes of a text. -/
def encode (s : List Char) : List UInt8 := s.flatMap encodeChar

/-- A character of which some bytes have been read. -/
structure Pending where
  /-- The value of the bits read. -/
  value : Nat
  /-- The number of bytes that are missing. -/
  missing : Nat
  /-- The least next byte. -/
  low : Nat
  /-- The greatest next byte. -/
  high : Nat
  deriving DecidableEq, Repr

/-- What a byte at the start of a character means. -/
inductive Lead where
  /-- The byte is a character. -/
  | ascii (c : Char)
  /-- The byte starts a character of several bytes. -/
  | pending (p : Pending)
  /-- The byte starts no character. -/
  | invalid

/-- What the byte `b` at the start of a character means. -/
def lead (b : Nat) : Lead :=
  if b < 0x80 then .ascii (Char.ofNat b)
  else if 0xC2 ≤ b && b ≤ 0xDF then .pending ⟨b - 0xC0, 1, 0x80, 0xBF⟩
  else if b == 0xE0 then .pending ⟨0, 2, 0xA0, 0xBF⟩
  else if b == 0xED then .pending ⟨0xD, 2, 0x80, 0x9F⟩
  else if 0xE1 ≤ b && b ≤ 0xEF then .pending ⟨b - 0xE0, 2, 0x80, 0xBF⟩
  else if b == 0xF0 then .pending ⟨0, 3, 0x90, 0xBF⟩
  else if 0xF1 ≤ b && b ≤ 0xF3 then .pending ⟨b - 0xF0, 3, 0x80, 0xBF⟩
  else if b == 0xF4 then .pending ⟨4, 3, 0x80, 0x8F⟩
  else .invalid

/-- A decoded piece: a character, or `none` for bytes that are none. -/
abbrev Piece := Option Char

/-- The pieces that a first byte completes, and the state after it. -/
def start (b : Nat) : List Piece × Option Pending :=
  match lead b with
  | .ascii c => ([some c], none)
  | .pending p => ([], some p)
  | .invalid => ([none], none)

/-- The pieces that a byte completes, and the state after it. -/
def step (state : Option Pending) (b : Nat) : List Piece × Option Pending :=
  match state with
  | none => start b
  | some p =>
    if p.low ≤ b && b ≤ p.high then
      let value := 64 * p.value + (b - 0x80)
      if p.missing ≤ 1 then ([some (Char.ofNat value)], none)
      else ([], some ⟨value, p.missing - 1, 0x80, 0xBF⟩)
    else
      let (pieces, state) := start b
      (none :: pieces, state)

/-- The pieces of bytes behind those of which the pieces `done`, last to first, and the state
`pending` are left. -/
def piecesFrom (done : List Piece) (pending : Option Pending) : List UInt8 → List Piece
  | [] => (if pending.isSome then none :: done else done).reverse
  | b :: rest =>
    let (more, pending) := step pending b.toNat
    piecesFrom (more.reverse ++ done) pending rest

/-- The pieces of bytes. -/
def pieces (bytes : List UInt8) : List Piece := piecesFrom [] none bytes

/-- The text of valid bytes. -/
def decode? (bytes : List UInt8) : Option (List Char) :=
  let found := pieces bytes
  if found.all Option.isSome then some (found.filterMap id) else none

/-- The character in the place of invalid bytes. -/
def replacement : Char := Char.ofNat 0xFFFD

/-- A text for any bytes. -/
def decodeLossy (bytes : List UInt8) : List Char :=
  (pieces bytes).map fun piece => piece.getD replacement

end HttpAudit.Text.Utf8
