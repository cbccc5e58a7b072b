/-! Reading bytes as UTF-8. A sequence that is broken off or cannot begin counts as one replacement
character, and reading goes on with the byte that broke it. -/

namespace Arcade.Text.Utf8

def replacement : Char := '\uFFFD'

/-- A sequence that has begun: its bits so far, how many bytes it lacks, and between which bounds
the next one lies. -/
structure Pending where
  value : Nat
  missing : Nat
  low : Nat
  high : Nat

/-- What a byte at the beginning of a sequence stands for. -/
inductive Opening where
  | whole (c : Char)
  | more (pending : Pending)
  | broken

def opening (byte : Nat) : Opening :=
  if byte < 0x80 then .whole (Char.ofNat byte)
  else if byte < 0xC2 then .broken
  else if byte < 0xE0 then .more ⟨byte - 0xC0, 1, 0x80, 0xBF⟩
  else if byte = 0xE0 then .more ⟨0, 2, 0xA0, 0xBF⟩
  else if byte = 0xED then .more ⟨0xD, 2, 0x80, 0x9F⟩
  else if byte < 0xF0 then .more ⟨byte - 0xE0, 2, 0x80, 0xBF⟩
  else if byte = 0xF0 then .more ⟨0, 3, 0x90, 0xBF⟩
  else if byte < 0xF4 then .more ⟨byte - 0xF0, 3, 0x80, 0xBF⟩
  else if byte = 0xF4 then .more ⟨4, 3, 0x80, 0x8F⟩
  else .broken

/-- A byte at the beginning of a sequence: the characters it gives, and what it leaves pending. -/
def begin (byte : Nat) : List Char × Option Pending :=
  match opening byte with
  | .whole c => ([c], none)
  | .more pending => ([], some pending)
  | .broken => ([replacement], none)

/-- A byte in or after a sequence. -/
def push (pending : Option Pending) (byte : Nat) : List Char × Option Pending :=
  match pending with
  | none => begin byte
  | some p =>
    if p.low ≤ byte && byte ≤ p.high then
      let value := 64 * p.value + (byte - 0x80)
      if p.missing ≤ 1 then ([Char.ofNat value], none)
      else ([], some ⟨value, p.missing - 1, 0x80, 0xBF⟩)
    else
      let (text, pending) := begin byte
      (replacement :: text, pending)

def decodeFrom (pending : Option Pending) : List UInt8 → List Char
  | [] => if pending.isSome then [replacement] else []
  | byte :: rest =>
    let (text, pending) := push pending byte.toNat
    text ++ decodeFrom pending rest

/-- The text of any bytes. -/
def decode (bytes : List UInt8) : String := String.ofList (decodeFrom none bytes)

end Arcade.Text.Utf8
