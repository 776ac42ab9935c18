import LabelPress.Text.Basic

/-!
# UTF-8

Texts as bytes. A text has an encoded form unless it holds an unpaired surrogate half. Bytes are
read in chunks: a chunk is a scalar value or a longest start of an encoded one that cannot go on,
and the same chunks serve the strict reading, which stops at the first bad one, and the lenient
one, which puts a replacement character for each.
-/

namespace LabelPress

/-- A sequence of bytes. -/
abbrev Bytes := List UInt8

namespace Bytes

/-- Two lower-case hexadecimal digits for each byte. -/
def toHex (bytes : Bytes) : Text := bytes.flatMap fun b => Text.hex 2 b.toNat

end Bytes

namespace Utf8

/-! ## Writing -/

/-- The bytes of a scalar value. -/
def encodeChar (c : Char) : Bytes :=
  let n := c.toNat
  if n < 0x80 then [.ofNat n]
  else if n < 0x800 then [.ofNat (0xC0 + n / 0x40), .ofNat (0x80 + n % 0x40)]
  else if n < 0x10000 then
    [.ofNat (0xE0 + n / 0x1000), .ofNat (0x80 + n / 0x40 % 0x40), .ofNat (0x80 + n % 0x40)]
  else
    [.ofNat (0xF0 + n / 0x40000), .ofNat (0x80 + n / 0x1000 % 0x40),
      .ofNat (0x80 + n / 0x40 % 0x40), .ofNat (0x80 + n % 0x40)]

/-- Why a text has no bytes: the first run of surrogate halves in it. -/
structure EncodeProblem where
  /-- The first half of the run. -/
  half : CodePoint
  /-- Where the run starts. -/
  first : Nat
  /-- How many halves it holds. -/
  count : Nat
  deriving DecidableEq, Repr

/-- The wording of a failure to encode. -/
def EncodeProblem.message (p : EncodeProblem) : Text :=
  if p.count = 1 then
    "'utf-8' codec can't encode character '\\u" ++ Text.hex 4 p.half.value ++ "' in position "
      ++ Text.ofNat p.first ++ ": surrogates not allowed"
  else
    "'utf-8' codec can't encode characters in position " ++ Text.ofNat p.first ++ "-"
      ++ Text.ofNat (p.first + p.count - 1) ++ ": surrogates not allowed"

/-- The bytes of a text whose first code point stands at a position. -/
def encodeFrom (position : Nat) : Text → Except EncodeProblem Bytes
  | [] => .ok []
  | .scalar c :: t => (encodeFrom (position + 1) t).map (encodeChar c ++ ·)
  | .lone half :: t =>
    .error ⟨.lone half, position, 1 + (t.takeWhile fun c => !c.isScalar).length⟩

/-- The bytes of a text. -/
def encode (t : Text) : Except EncodeProblem Bytes := encodeFrom 0 t

/-- A text with an escape in place of each surrogate half, so that it has bytes. -/
def escapeHalves (t : Text) : Text :=
  t.flatMap fun
    | .scalar c => [.scalar c]
    | .lone half => "\\u" ++ Text.hex 4 (CodePoint.lone half).value

/-- What is escaped has bytes: no half stands alone in it. -/
theorem isScalar_of_mem_escapeHalves {t : Text} {c : CodePoint} (h : c ∈ escapeHalves t) :
    c.isScalar := by
  obtain ⟨d, -, hc⟩ := List.mem_flatMap.1 h
  cases d with
  | scalar d => simp_all [CodePoint.isScalar]
  | lone half =>
    simp_all [Text.ofString, Text.hex]
    grind [CodePoint.isScalar]

/-- A text that has bytes stays as it is. -/
theorem escapeHalves_eq_self {t : Text} (h : ∀ c ∈ t, c.isScalar) : escapeHalves t = t := by
  induction t with
  | nil => rfl
  | cons c t ih =>
    cases c with
    | scalar c => simp_all [escapeHalves]
    | lone half => simp [CodePoint.isScalar] at h

/-! ## Reading -/

/-- What rules out a scalar value at a place. -/
inductive Flaw where
  | startByte
  | continuationByte
  | endOfData
  deriving DecidableEq, Repr

/-- The wording of a flaw. -/
def Flaw.message : Flaw → Text
  | .startByte => "invalid start byte"
  | .continuationByte => "invalid continuation byte"
  | .endOfData => "unexpected end of data"

/-- What stands at the front of some bytes: a scalar value or a flaw, and how many bytes it takes. -/
inductive Front where
  | char (c : Char) (length : Nat)
  | bad (flaw : Flaw) (length : Nat)
  deriving DecidableEq, Repr

/-- Whether a byte carries six further bits of a scalar value. -/
def isContinuation (b : UInt8) : Bool := 0x80 ≤ b.toNat && b.toNat < 0xC0

/-- Whether a second byte can follow a first of three: no overlong form, no surrogate half. -/
def followsThree (a b : Nat) : Bool :=
  (if a = 0xE0 then 0xA0 else 0x80) ≤ b && b < (if a = 0xED then 0xA0 else 0xC0)

/-- Whether a second byte can follow a first of four: no overlong form, nothing past the last
scalar value. -/
def followsFour (a b : Nat) : Bool :=
  (if a = 0xF0 then 0x90 else 0x80) ≤ b && b < (if a = 0xF4 then 0x90 else 0xC0)

/-- The front of the bytes `a :: rest`. -/
def front (a : UInt8) (rest : Bytes) : Front :=
  let n := a.toNat
  if n < 0x80 then .char (Char.ofNat n) 1
  else if n < 0xC2 ∨ 0xF5 ≤ n then .bad .startByte 1
  else if n < 0xE0 then
    match rest with
    | [] => .bad .endOfData 1
    | b :: _ =>
      if isContinuation b then .char (Char.ofNat ((n - 0xC0) * 0x40 + (b.toNat - 0x80))) 2
      else .bad .continuationByte 1
  else if n < 0xF0 then
    match rest with
    | [] => .bad .endOfData 1
    | b :: rest =>
      if followsThree n b.toNat then
        match rest with
        | [] => .bad .endOfData 2
        | c :: _ =>
          if isContinuation c then
            .char (Char.ofNat
              ((n - 0xE0) * 0x1000 + (b.toNat - 0x80) * 0x40 + (c.toNat - 0x80))) 3
          else .bad .continuationByte 2
      else .bad .continuationByte 1
  else
    match rest with
    | [] => .bad .endOfData 1
    | b :: rest =>
      if followsFour n b.toNat then
        match rest with
        | [] => .bad .endOfData 2
        | c :: rest =>
          if isContinuation c then
            match rest with
            | [] => .bad .endOfData 3
            | d :: _ =>
              if isContinuation d then
                .char (Char.ofNat
                  ((n - 0xF0) * 0x40000 + (b.toNat - 0x80) * 0x1000 + (c.toNat - 0x80) * 0x40
                    + (d.toNat - 0x80))) 4
              else .bad .continuationByte 3
          else .bad .continuationByte 2
      else .bad .continuationByte 1

/-- A piece of some bytes: a scalar value, or a stretch that is none. -/
inductive Chunk where
  | char (c : Char)
  | bad (flaw : Flaw) (position length : Nat) (first : UInt8)
  deriving DecidableEq, Repr

/-- The chunks of some bytes that start at a position, `skip` bytes of which belong to the chunk
before. -/
def chunksFrom : (skip position : Nat) → Bytes → List Chunk
  | _, _, [] => []
  | skip + 1, position, _ :: rest => chunksFrom skip (position + 1) rest
  | 0, position, a :: rest =>
    match front a rest with
    | .char c length => .char c :: chunksFrom (length - 1) (position + 1) rest
    | .bad flaw length =>
      .bad flaw position length a :: chunksFrom (length - 1) (position + 1) rest

/-- The chunks of some bytes. -/
def chunks (bytes : Bytes) : List Chunk := chunksFrom 0 0 bytes

/-- Why some bytes are no text: their first bad stretch. -/
structure DecodeProblem where
  flaw : Flaw
  position : Nat
  length : Nat
  first : UInt8
  deriving DecidableEq, Repr

/-- The wording of a failure to decode. -/
def DecodeProblem.message (p : DecodeProblem) : Text :=
  if p.length = 1 then
    "'utf-8' codec can't decode byte 0x" ++ Text.hex 2 p.first.toNat ++ " in position "
      ++ Text.ofNat p.position ++ ": " ++ p.flaw.message
  else
    "'utf-8' codec can't decode bytes in position " ++ Text.ofNat p.position ++ "-"
      ++ Text.ofNat (p.position + p.length - 1) ++ ": " ++ p.flaw.message

/-- The text of a chunk, where it has one. -/
def Chunk.toText : Chunk → Except DecodeProblem CodePoint
  | .char c => .ok (.scalar c)
  | .bad flaw position length first => .error ⟨flaw, position, length, first⟩

/-- The text that some bytes encode. -/
def decode (bytes : Bytes) : Except DecodeProblem Text := (chunks bytes).mapM Chunk.toText

/-- The text of some bytes with a replacement character for each bad stretch. -/
def decodeReplacing (bytes : Bytes) : Text :=
  (chunks bytes).map fun
    | .char c => .scalar c
    | .bad .. => .scalar '\uFFFD'

end Utf8

end LabelPress
