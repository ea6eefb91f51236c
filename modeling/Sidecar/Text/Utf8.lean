/-!
The UTF-8 form of texts.
-/

namespace Sidecar.Utf8

/-- The bytes of one character. -/
def encodeChar (c : Char) : List UInt8 :=
  let n := c.toNat
  if n < 0x80 then [UInt8.ofNat n]
  else if n < 0x800 then [UInt8.ofNat (0xc0 + n / 64), UInt8.ofNat (0x80 + n % 64)]
  else if n < 0x10000 then
    [UInt8.ofNat (0xe0 + n / 4096), UInt8.ofNat (0x80 + n / 64 % 64), UInt8.ofNat (0x80 + n % 64)]
  else
    [UInt8.ofNat (0xf0 + n / 262144), UInt8.ofNat (0x80 + n / 4096 % 64),
      UInt8.ofNat (0x80 + n / 64 % 64), UInt8.ofNat (0x80 + n % 64)]

def encode (s : String) : List UInt8 := s.toList.flatMap encodeChar

def tail? (b : UInt8) : Option Nat :=
  if 0x80 ≤ b.toNat && b.toNat < 0xc0 then some (b.toNat - 0x80) else none

def scalar? (least n : Nat) : Option Char :=
  if least ≤ n ∧ n.isValidChar then some (Char.ofNat n) else none

/-- Refuses longer forms than needed, surrogates and what is no character. -/
def decodeChars? : List UInt8 → Option (List Char)
  | [] => some []
  | a :: rest =>
    let lead := a.toNat
    if lead < 0x80 then (decodeChars? rest).map (Char.ofNat lead :: ·)
    else if lead < 0xc0 then none
    else if lead < 0xe0 then
      match rest with
      | b :: rest => do
        let c ← scalar? 0x80 ((lead - 0xc0) * 64 + (← tail? b))
        return c :: (← decodeChars? rest)
      | _ => none
    else if lead < 0xf0 then
      match rest with
      | b :: c :: rest => do
        let c ← scalar? 0x800 ((lead - 0xe0) * 4096 + (← tail? b) * 64 + (← tail? c))
        return c :: (← decodeChars? rest)
      | _ => none
    else if lead < 0xf8 then
      match rest with
      | b :: c :: d :: rest => do
        let c ← scalar? 0x10000
          ((lead - 0xf0) * 262144 + (← tail? b) * 4096 + (← tail? c) * 64 + (← tail? d))
        return c :: (← decodeChars? rest)
      | _ => none
    else none

def decode? (bytes : List UInt8) : Option String := (decodeChars? bytes).map String.ofList

/-- The characters of bytes that need not be a text: a byte with which none begins stands for itself. -/
def units : Nat → List UInt8 → List (Char ⊕ UInt8)
  | 0, _ | _, [] => []
  | fuel + 1, b :: rest =>
    let first? := [1, 2, 3, 4].findSome? fun n => do
      let cs ← decodeChars? ((b :: rest).take n)
      return (← cs.head?, (b :: rest).drop n)
    match first? with
    | some (c, rest) => .inl c :: units fuel rest
    | none => .inr b :: units fuel rest

/-- The bytes that no character begins with and that come first, up to the next character, and how many
characters stand before them. -/
def firstStray (bytes : List UInt8) : Nat × List UInt8 :=
  let us := units bytes.length bytes
  (us.findIdx Sum.isRight, ((us.dropWhile Sum.isLeft).takeWhile Sum.isRight).filterMap Sum.getRight?)

end Sidecar.Utf8
