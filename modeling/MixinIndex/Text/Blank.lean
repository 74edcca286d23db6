/-!
# Blank characters

The white space of Unicode, and the removal of it from both ends of a text.

## Main definitions

* `isBlank`: the White_Space property
* `trim`: a text without the blanks at its two ends
* `isBlankText`: nothing is left after trimming
-/

namespace MixinIndex.Text

/-- The code points of the White_Space property. -/
def isBlank (c : Char) : Bool :=
  let n := c.toNat
  (0x9 ≤ n && n ≤ 0xD) || n == 0x20 || n == 0x85 || n == 0xA0 || n == 0x1680 ||
    (0x2000 ≤ n && n ≤ 0x200A) || n == 0x2028 || n == 0x2029 || n == 0x202F || n == 0x205F ||
    n == 0x3000

/-- A text without the blanks at its start. -/
def trimStart (cs : List Char) : List Char := cs.dropWhile isBlank

/-- A text without the blanks at its end. -/
def trimEnd (cs : List Char) : List Char := (cs.reverse.dropWhile isBlank).reverse

/-- A text without the blanks at either end. -/
def trim (cs : List Char) : List Char := trimEnd (trimStart cs)

/-- Whether a text holds blanks only. -/
def isBlankText (text : String) : Bool := text.toList.all isBlank

theorem trimStart_eq_self {cs : List Char} (noBlank : ∀ c ∈ cs, isBlank c = false) :
    trimStart cs = cs := by
  cases cs with
  | nil => rfl
  | cons c cs => exact List.dropWhile_cons_of_neg (by simp [noBlank c List.mem_cons_self])

/-- Where nothing is blank, nothing is removed. -/
theorem trim_eq_self {cs : List Char} (noBlank : ∀ c ∈ cs, isBlank c = false) : trim cs = cs := by
  have reversed : ∀ c ∈ cs.reverse, isBlank c = false := by
    intro c mem
    exact noBlank c (List.mem_reverse.1 mem)
  have untouched : cs.reverse.dropWhile isBlank = cs.reverse := trimStart_eq_self reversed
  rw [trim, trimStart_eq_self noBlank, trimEnd, untouched, List.reverse_reverse]

end MixinIndex.Text
