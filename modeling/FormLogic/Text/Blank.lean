/-!
# Blank characters and trimming

A character is blank when it has the Unicode property White_Space.  Text is a list of
characters throughout the scanning modules; `trimStart`, `trimEnd` and `trim` remove blank
characters from its ends.
-/

namespace FormLogic.Text

/-- The characters with the property White_Space: the tab and the breaks up to carriage
return, space, next line, no-break space, the Ogham space, the typographic spaces, the line
and paragraph separators, and the ideographic space. -/
def isBlank (c : Char) : Bool :=
  let n := c.toNat
  (9 ≤ n && n ≤ 13) || n == 0x20 || n == 0x85 || n == 0xA0 || n == 0x1680
    || (0x2000 ≤ n && n ≤ 0x200A) || n == 0x2028 || n == 0x2029 || n == 0x202F
    || n == 0x205F || n == 0x3000

def trimStart (cs : List Char) : List Char := cs.dropWhile isBlank

def trimEnd (cs : List Char) : List Char := (cs.reverse.dropWhile isBlank).reverse

/-- The text without the blank characters at its two ends. -/
def trim (cs : List Char) : List Char := trimEnd (trimStart cs)

theorem length_dropWhile_le (p : Char → Bool) (cs : List Char) :
    (cs.dropWhile p).length ≤ cs.length :=
  (List.dropWhile_suffix p).length_le

theorem length_trimStart_le (cs : List Char) : (trimStart cs).length ≤ cs.length :=
  length_dropWhile_le _ _

theorem length_trimEnd_le (cs : List Char) : (trimEnd cs).length ≤ cs.length := by
  simpa [trimEnd] using length_dropWhile_le isBlank cs.reverse

theorem length_trim_le (cs : List Char) : (trim cs).length ≤ cs.length :=
  Nat.le_trans (length_trimEnd_le _) (length_trimStart_le _)

/-! ## Prefixes and suffixes -/

/-- What follows `start` at the front of the text, when the text begins with it. -/
def dropPrefix? (start cs : List Char) : Option (List Char) :=
  match start, cs with
  | [], cs => some cs
  | s :: start, c :: cs => if s = c then dropPrefix? start cs else none
  | _ :: _, [] => none

/-- What precedes the last character, when that is `c`. -/
def dropLast? (c : Char) (cs : List Char) : Option (List Char) :=
  if cs.getLast? = some c then some cs.dropLast else none

theorem length_of_dropPrefix? {start cs rest : List Char}
    (h : dropPrefix? start cs = some rest) : start.length + rest.length = cs.length := by
  induction start generalizing cs with
  | nil => simp_all [dropPrefix?]
  | cons s start ih =>
    cases cs with
    | nil => simp [dropPrefix?] at h
    | cons c cs =>
      simp only [dropPrefix?] at h
      split at h
      · have := ih h
        simp only [List.length_cons]
        omega
      · simp at h

theorem length_of_dropLast? {c : Char} {cs rest : List Char}
    (h : dropLast? c cs = some rest) : rest.length + 1 = cs.length := by
  simp only [dropLast?] at h
  split at h
  · next hl =>
    obtain rfl : cs.dropLast = rest := by simpa using h
    have : cs ≠ [] := by rintro rfl; simp at hl
    have := List.length_pos_iff.mpr this
    simp only [List.length_dropLast]
    omega
  · simp at h

end FormLogic.Text
