import Arcade.Json.Draft

/-! Reading JSON text into a draft. Every text has a draft; where the text stops making sense, the
draft is cut. -/

namespace Arcade.Json.Text

open Arcade.Text (hex?)

def isSpace (c : Char) : Bool := c = ' ' || c = '\n' || c = '\t' || c = '\r'

def skipSpace (text : List Char) : List Char := text.dropWhile isSpace

/-! ### Strings -/

/-- Part of a string: a character, or a UTF-16 unit from a numeric escape. -/
inductive Piece where
  | plain (c : Char)
  | unit (n : Nat)

/-- The pieces of a string, last first, and what follows its closing quote. -/
structure Scan where
  reversed : List Piece
  rest : Except Cut (List Char)

def simpleEscape? : Char → Option Char
  | '"' => some '"'
  | '\\' => some '\\'
  | '/' => some '/'
  | 'b' => some (Char.ofNat 8)
  | 'f' => some (Char.ofNat 12)
  | 'n' => some '\n'
  | 'r' => some '\r'
  | 't' => some '\t'
  | _ => none

/-- Four hexadecimal digits are due but are not there: the text is over when fewer than four bytes
are left. -/
def shortEscape (rest : List Char) : Cut :=
  if (String.ofList rest).utf8ByteSize < 4 then .ended else .malformed

/-- Scan a string after its opening quote. -/
def scan (pieces : List Piece) : List Char → Scan
  | [] => ⟨pieces, .error .ended⟩
  | '"' :: rest => ⟨pieces, .ok rest⟩
  | '\\' :: 'u' :: a :: b :: c :: d :: rest =>
    match hex? [a, b, c, d] with
    | some n => scan (.unit n :: pieces) rest
    | none => ⟨pieces, .error .malformed⟩
  | '\\' :: 'u' :: rest => ⟨pieces, .error (shortEscape rest)⟩
  | '\\' :: c :: rest =>
    match simpleEscape? c with
    | some plain => scan (.plain plain :: pieces) rest
    | none => ⟨pieces, .error .malformed⟩
  | '\\' :: [] => ⟨pieces, .error .ended⟩
  | c :: rest =>
    if c.toNat < 0x20 then ⟨pieces, .error .malformed⟩ else scan (.plain c :: pieces) rest

def isHigh (n : Nat) : Bool := 0xD800 ≤ n && n ≤ 0xDBFF

def isLow (n : Nat) : Bool := 0xDC00 ≤ n && n ≤ 0xDFFF

/-- The characters of a string, last first. -/
inductive Joined where
  | whole (reversed : List Char)
  | openPair
  | broken

/-- Put surrogate pairs together. A unit that belongs to no pair breaks the string; a first half
at the very end leaves a pair open. -/
def join (done : List Char) : List Piece → Joined
  | [] => .whole done
  | .plain c :: rest => join (c :: done) rest
  | .unit n :: rest =>
    if isLow n then .broken
    else if isHigh n then
      match rest with
      | [] => .openPair
      | .unit m :: others =>
        if isLow m then
          join (Char.ofNat (0x10000 + (n - 0xD800) * 0x400 + (m - 0xDC00)) :: done) others
        else .broken
      | .plain _ :: _ => .broken
    else join (Char.ofNat n :: done) rest

/-- A string after its opening quote: its value, none if an escape is no character, and the rest
of the text. -/
def string (text : List Char) : Except Cut (Option String × List Char) :=
  let scanned := scan [] text
  let joined := join [] scanned.reversed.reverse
  match scanned.rest, joined with
  | .ok rest, .whole reversed => .ok (some (String.ofList reversed.reverse), rest)
  | .ok rest, _ => .ok (none, rest)
  | .error .ended, .broken => .error .endedAfterBadEscape
  | .error at_, _ => .error at_

/-! ### Numbers and words -/

/-- Digits are due; at least one has to stand here. -/
def digits (text : List Char) : Except Cut (List Char × List Char) :=
  match text with
  | [] => .error .endedInNumber
  | c :: _ => if c.isDigit then .ok (text.span Char.isDigit) else .error .malformed

def wholePart (text : List Char) : Except Cut (List Char × List Char) := do
  let (run, rest) ← digits text
  match run with
  | '0' :: _ :: _ => .error .malformed
  | _ => .ok (run, rest)

def fractionPart : List Char → Except Cut (Option (List Char) × List Char)
  | '.' :: rest => do
    let (run, rest) ← digits rest
    .ok (some run, rest)
  | rest => .ok (none, rest)

def exponentPart (text : List Char) : Except Cut (Option Int × List Char) :=
  let signed (negative : Bool) (rest : List Char) : Except Cut (Option Int × List Char) := do
    let (run, rest) ← digits rest
    let size : Int := Arcade.Text.digitsValue run
    .ok (some (if negative then -size else size), rest)
  let afterMark : List Char → Except Cut (Option Int × List Char)
    | '+' :: rest => signed false rest
    | '-' :: rest => signed true rest
    | rest => signed false rest
  match text with
  | 'e' :: rest | 'E' :: rest => afterMark rest
  | rest => .ok (none, rest)

/-- A number from its first character on. -/
def number (text : List Char) : Except Cut (Number.Literal × List Char) := do
  let (negative, unsigned) := match text with
    | '-' :: rest => (true, rest)
    | _ => (false, text)
  let (whole, rest) ← wholePart unsigned
  let (fraction, rest) ← fractionPart rest
  let (exponent, rest) ← exponentPart rest
  .ok (⟨negative, whole, fraction, exponent⟩, rest)

/-- The rest of a word such as `true` after its first letter. `short` is what an early end of the
text makes of it. -/
def word (short : Cut) : (expected text : List Char) → Except Cut (List Char)
  | [], rest => .ok rest
  | _ :: _, [] => .error short
  | e :: expected, c :: rest => if e = c then word short expected rest else .error .malformed

/-! ### Values -/

/-- A value that is neither array nor object, with the rest of the text. -/
def plain (text : List Char) : Draft × List Char :=
  let named (expected : String) (short : Cut) (value : Draft) (rest : List Char) :
      Draft × List Char :=
    match word short expected.toList rest with
    | .ok rest => (value, rest)
    | .error at_ => (.cut at_, [])
  match text with
  | [] => (.cut .ended, [])
  | 'n' :: rest => named "ull" .endedInNull .null rest
  | 't' :: rest => named "rue" .endedInWord (.bool true) rest
  | 'f' :: rest => named "alse" .endedInWord (.bool false) rest
  | '"' :: rest =>
    match string rest with
    | .ok (some value, rest) => (.string value, rest)
    | .ok (none, rest) => (.unusable, rest)
    | .error at_ => (.cut at_, [])
  | c :: _ =>
    if c = '-' || c.isDigit then
      match number text with
      | .ok (literal, rest) =>
        match literal.number? with
        | some value => (.number value, rest)
        | none => (.unusable, rest)
      | .error at_ => (.cut at_, [])
    else (.cut .malformed, [])

mutual

/-- A value and the rest of the text. The first argument bounds the number of steps and is never
used up when it is twice the length of the text. -/
def value : Nat → List Char → Draft × List Char
  | 0, _ => (.cut .malformed, [])
  | steps + 1, text =>
    match skipSpace text with
    | '[' :: rest =>
      let (items, torn, rest) := firstItem steps rest
      (.array items torn, rest)
    | '\x7b' :: rest =>
      let (members, closing, rest) := firstMember steps rest
      (.object members closing, rest)
    | text => plain text

/-- The items after an opening bracket. -/
def firstItem : Nat → List Char → List Draft × Option Cut × List Char
  | 0, _ => ([], some .malformed, [])
  | steps + 1, text =>
    match skipSpace text with
    | [] => ([], some .ended, [])
    | ']' :: rest => ([], none, rest)
    | text => item steps text

/-- An item and those after it. -/
def item : Nat → List Char → List Draft × Option Cut × List Char
  | 0, _ => ([], some .malformed, [])
  | steps + 1, text =>
    let (first, rest) := value steps text
    match skipSpace rest with
    | [] => ([first], some .ended, [])
    | ']' :: rest => ([first], none, rest)
    | ',' :: rest =>
      match skipSpace rest with
      | ']' :: _ => ([first, .cut .malformed], none, [])
      | rest =>
        let (others, torn, rest) := item steps rest
        (first :: others, torn, rest)
    | _ => ([first], some .malformed, [])

/-- The members after an opening brace. -/
def firstMember : Nat → List Char → List (Option String × Draft) × Closing × List Char
  | 0, _ => ([], .cut false .malformed, [])
  | steps + 1, text =>
    match skipSpace text with
    | [] => ([], .cut false .ended, [])
    | '\x7d' :: rest => ([], .closed, rest)
    | '"' :: rest => member steps false rest
    | _ => ([], .stray, [])

/-- A member from inside its name on, and those after it. -/
def member : Nat → Bool → List Char → List (Option String × Draft) × Closing × List Char
  | 0, afterComma, _ => ([], .cut afterComma .malformed, [])
  | steps + 1, afterComma, text =>
    match string text with
    | .error at_ => ([], .cut afterComma at_, [])
    | .ok (name, rest) =>
      match skipSpace rest with
      | [] => ([(name, .cut .ended)], .closed, [])
      | ':' :: rest =>
        let (first, rest) := value steps rest
        let (others, closing, rest) := nextMember steps rest
        ((name, first) :: others, closing, rest)
      | _ => ([(name, .cut .malformed)], .closed, [])

/-- What follows a member. -/
def nextMember : Nat → List Char → List (Option String × Draft) × Closing × List Char
  | 0, _ => ([], .cut false .malformed, [])
  | steps + 1, text =>
    match skipSpace text with
    | [] => ([], .cut false .ended, [])
    | '\x7d' :: rest => ([], .closed, rest)
    | ',' :: rest =>
      match skipSpace rest with
      | [] => ([], .cut true .ended, [])
      | '"' :: rest => member steps true rest
      | _ => ([], .stray, [])
    | _ => ([], .cut false .malformed, [])

end

/-- The draft of a text, and whether anything but blanks follows the value. -/
def draft (text : String) : Draft × Bool :=
  let characters := text.toList
  let (tree, rest) := value (3 * characters.length + 3) characters
  (tree, !(skipSpace rest).isEmpty)

end Arcade.Json.Text
