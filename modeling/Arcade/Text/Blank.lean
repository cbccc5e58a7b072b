/-! White space and trimming. A character is blank when it has the Unicode property
`White_Space`; trimming removes blanks at both ends and nothing else. -/

namespace Arcade.Text

/-- The characters of the Unicode property `White_Space`. -/
def isBlank (c : Char) : Bool :=
  let n := c.toNat
  (9 ≤ n && n ≤ 13) || n == 0x20 || n == 0x85 || n == 0xA0 || n == 0x1680 ||
    (0x2000 ≤ n && n ≤ 0x200A) || n == 0x2028 || n == 0x2029 || n == 0x202F ||
    n == 0x205F || n == 0x3000

def trimStart (text : List Char) : List Char := text.dropWhile isBlank

def trimEnd (text : List Char) : List Char := (text.reverse.dropWhile isBlank).reverse

/-- The text without the blanks at its two ends. -/
def trim (text : List Char) : List Char := trimEnd (trimStart text)

/-- A text is blank when nothing but white space is in it. -/
def allBlank (text : List Char) : Bool := text.all isBlank

theorem isBlank_of_isWhitespace (c : Char) (space : c.isWhitespace = true) :
    isBlank c = true := by
  simp only [Char.isWhitespace, Bool.or_eq_true, decide_eq_true_eq] at space
  rcases space with ((rfl | rfl) | rfl) | rfl <;> decide

theorem trimStart_eq_nil_iff (text : List Char) :
    trimStart text = [] ↔ allBlank text = true := by
  induction text with
  | nil => simp [trimStart, allBlank]
  | cons c rest ih =>
    by_cases blank : isBlank c = true <;>
      simp_all [trimStart, allBlank]

theorem trimEnd_eq_nil_iff (text : List Char) :
    trimEnd text = [] ↔ allBlank text = true := by
  have reversed := trimStart_eq_nil_iff text.reverse
  simp_all [trimStart, trimEnd, allBlank]

/-- Text is trimmed when no blank stands at either end. -/
def Trimmed (text : List Char) : Prop := trim text = text

instance (text : List Char) : Decidable (Trimmed text) := inferInstanceAs (Decidable (_ = _))

/-- Trimming on strings. -/
def trimmed (text : String) : String := String.ofList (trim text.toList)

end Arcade.Text
