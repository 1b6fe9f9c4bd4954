import FormLogic.Proofs.Expression.Equations
import FormLogic.Proofs.Expression.Forms

/-!
# Literals and variables

The atoms of the grammar: what they are written like and what they stand for.  Numbers,
keywords and paths are words, text without any character that the scanner or an operator knows;
a string literal shows the scanner nothing but its closing quote.  So an atom is missed by every
form of the grammar, and its text is read back as the atom.
-/

namespace FormLogic

open Scan Text

/-! ## 1. Words -/

/-- A character of a number, of a keyword or of a path. -/
def isWordPart (c : Char) : Bool := isIdentifierPart c || c == '.' || c == '+' || c == '-'

/-- The code points of these characters. -/
theorem toNat_of_isWordPart {c : Char} (h : isWordPart c = true) :
    c.toNat = 43 ∨ c.toNat = 45 ∨ c.toNat = 46 ∨ (48 ≤ c.toNat ∧ c.toNat ≤ 57) ∨
      (65 ≤ c.toNat ∧ c.toNat ≤ 90) ∨ c.toNat = 95 ∨ (97 ≤ c.toNat ∧ c.toNat ≤ 122) := by
  simp only [isWordPart, isIdentifierPart, isAsciiAlphanumeric, isAsciiLetter, isAsciiDigit,
    Bool.or_eq_true, Bool.and_eq_true, decide_eq_true_eq, beq_iff_eq, Char.le_def,
    UInt32.le_iff_toNat_le] at h
  unfold Char.toNat
  rcases h with ((((h | h) | rfl) | rfl) | rfl) | rfl
  · change 97 ≤ c.val.toNat ∧ c.val.toNat ≤ 122 ∨ 65 ≤ c.val.toNat ∧ c.val.toNat ≤ 90 at h
    omega
  · change 48 ≤ c.val.toNat ∧ c.val.toNat ≤ 57 at h
    omega
  all_goals decide

theorem isBlank_of_isWordPart {c : Char} (h : isWordPart c = true) : isBlank c = false := by
  have := toNat_of_isWordPart h
  simp only [isBlank, Bool.or_eq_false_iff, Bool.and_eq_false_iff, decide_eq_false_iff_not,
    beq_eq_false_iff_ne]
  omega

theorem isPlain_of_isWordPart {c : Char} (h : isWordPart c = true) : isPlain c = true := by
  have hnone : special.filter isWordPart = [] := by decide
  exact isPlain_of_not_mem fun hmem => List.filter_eq_nil_iff.mp hnone c hmem h

/-- Characters that are neither word parts nor quotes. -/
def Foreign (chars : List Char) : Prop :=
  ∀ c ∈ chars, isWordPart c = false ∧ isQuote c = false

instance (chars : List Char) : Decidable (Foreign chars) := List.decidableBAll _ chars

/-- **A word**: one word part or more. -/
structure IsWord (cs : List Char) : Prop where
  nonempty : cs ≠ []
  parts : ∀ c ∈ cs, isWordPart c = true

instance (cs : List Char) : Decidable (IsWord cs) :=
  decidable_of_iff (cs ≠ [] ∧ cs.all isWordPart = true)
    ⟨fun h => ⟨h.1, List.all_eq_true.mp h.2⟩,
      fun h => ⟨h.nonempty, List.all_eq_true.mpr h.parts⟩⟩

namespace IsWord

variable {cs : List Char}

theorem not_mem (h : IsWord cs) {c : Char} (hc : isWordPart c = false) : c ∉ cs := by
  intro hmem
  rw [h.parts c hmem] at hc
  exact Bool.noConfusion hc

theorem plain (h : IsWord cs) : Plain cs := fun c hc => isPlain_of_isWordPart (h.parts c hc)

theorem closed (h : IsWord cs) : Closed cs := Closed.of_plain h.plain

theorem avoids (h : IsWord cs) {chars : List Char} (hchars : Foreign chars) :
    Shape.Avoids chars cs :=
  Shape.Avoids.of_plain h.plain fun c hc => h.not_mem (hchars c hc).1

theorem tight (h : IsWord cs) : Tight cs := by
  constructor
  · obtain ⟨c, rest, rfl⟩ := List.exists_cons_of_ne_nil h.nonempty
    exact ⟨c, rest, rfl, isBlank_of_isWordPart (h.parts c List.mem_cons_self)⟩
  · have hlast := List.dropLast_concat_getLast h.nonempty
    exact ⟨cs.dropLast, cs.getLast h.nonempty, hlast.symm,
      isBlank_of_isWordPart (h.parts _ (List.getLast_mem h.nonempty))⟩

theorem head?_ne (h : IsWord cs) {c : Char} (hc : isWordPart c = false) : cs.head? ≠ some c :=
  fun hh => h.not_mem hc (List.mem_of_head? hh)

theorem getLast?_ne (h : IsWord cs) {c : Char} (hc : isWordPart c = false) :
    cs.getLast? ≠ some c := fun hl => h.not_mem hc (List.mem_of_getLast? hl)

end IsWord

/-! ## 2. The texts of numbers are words -/

namespace Number

theorem isAsciiDigit_of_mem_toDigits {n : Nat} {c : Char} (h : c ∈ Nat.toDigits 10 n) :
    isAsciiDigit c = true := by
  have hdigit := Nat.isDigit_of_mem_toDigits (by decide) (by decide) h
  simp only [Char.isDigit, Bool.and_eq_true, decide_eq_true_eq] at hdigit
  simp only [isAsciiDigit, Bool.and_eq_true, decide_eq_true_eq]
  exact hdigit

theorem isWordPart_of_mem_toDigits {n : Nat} {c : Char} (h : c ∈ Nat.toDigits 10 n) :
    isWordPart c = true := by
  simp [isWordPart, isIdentifierPart, isAsciiAlphanumeric, isAsciiDigit_of_mem_toDigits h]

theorem isWordPart_of_mem_plain {l : Layout} {digits : List Char} {point : Int} {c : Char}
    (hdigits : ∀ d ∈ digits, isWordPart d = true) (h : c ∈ l.plain digits point) :
    isWordPart c = true := by
  unfold Layout.plain at h
  split at h
  · simp only [List.mem_cons, List.mem_append, List.mem_replicate] at h
    rcases h with rfl | rfl | ⟨-, rfl⟩ | h
    · decide
    · decide
    · decide
    · exact hdigits c h
  · split at h
    · rw [List.mem_append, List.mem_cons] at h
      rcases h with h | rfl | h
      · exact hdigits c (List.mem_of_mem_take h)
      · decide
      · exact hdigits c (List.mem_of_mem_drop h)
    · rw [List.mem_append, List.mem_append] at h
      rcases h with (h | h) | h
      · exact hdigits c h
      · rw [(List.mem_replicate.mp h).2]
        decide
      · split at h
        · rcases (by simpa using h : c = '.' ∨ c = '0') with rfl | rfl <;> decide
        · simp at h

theorem isWordPart_of_mem_scientific {digits : List Char} {point : Int} {c : Char}
    (hdigits : ∀ d ∈ digits, isWordPart d = true) (h : c ∈ Layout.scientific digits point) :
    isWordPart c = true := by
  unfold Layout.scientific at h
  simp only [List.mem_append, List.mem_cons] at h
  rcases h with h | rfl | h | h
  · split at h
    · rcases List.mem_cons.mp h with rfl | h
      · exact hdigits _ List.mem_cons_self
      · rcases List.mem_cons.mp h with rfl | h
        · decide
        · exact hdigits c (List.mem_cons_of_mem _ h)
    · exact hdigits c h
  · decide
  · split at h <;> subst h <;> decide
  · exact isWordPart_of_mem_toDigits h

theorem isWordPart_of_mem_magnitude {l : Layout} {m : Magnitude} {c : Char}
    (h : c ∈ l.magnitude m) : isWordPart c = true := by
  unfold Layout.magnitude at h
  split at h
  · split at h
    · rcases (by simpa using h : c = '0' ∨ c = '.' ∨ c = '0') with rfl | rfl | rfl <;> decide
    · rw [List.mem_singleton.mp h]
      decide
  · simp only at h
    split at h
    · exact isWordPart_of_mem_plain (fun _ hd => isWordPart_of_mem_toDigits hd) h
    · exact isWordPart_of_mem_scientific (fun _ hd => isWordPart_of_mem_toDigits hd) h

/-- **The text of a number is made of word parts.** -/
theorem isWordPart_of_mem_format {n : Binary64} {c : Char} (h : c ∈ format n) :
    isWordPart c = true := by
  cases n with
  | nan => exact (by decide : IsWord (format .nan)).parts c h
  | infinite s =>
    have hword : IsWord (format (.infinite s)) := by cases s <;> decide
    exact hword.parts c h
  | finite s m =>
    rcases List.mem_append.mp h with h | h
    · split at h
      · rw [List.mem_singleton.mp h]
        decide
      · simp at h
    · exact isWordPart_of_mem_magnitude h

/-- A number whose text reads back has a text that is a word. -/
theorem isWord_format {n : Binary64} (h : lenient? (format n) = some n) : IsWord (format n) := by
  refine ⟨?_, fun c hc => isWordPart_of_mem_format hc⟩
  intro hnil
  have hnone : lenient? [] = none := rfl
  rw [hnil, hnone] at h
  exact Option.some_ne_none n h.symm

/-- An identifier begins with no digit of any script. -/
theorem isDigit_of_isIdentifierStart {c : Char} (hc : isIdentifierStart c = true) :
    isDigit c = false := by
  have hrange : 58 ≤ c.toNat ∧ c.toNat < 128 := by
    simp only [isIdentifierStart, isAsciiLetter, Bool.or_eq_true, Bool.and_eq_true,
      decide_eq_true_eq, beq_iff_eq, Char.le_def, UInt32.le_iff_toNat_le] at hc
    unfold Char.toNat
    rcases hc with hc | rfl
    · change 97 ≤ c.val.toNat ∧ c.val.toNat ≤ 122 ∨ 65 ≤ c.val.toNat ∧ c.val.toNat ≤ 90 at hc
      omega
    · decide
  have hascii : isAsciiDigit c = false := by
    simp only [isAsciiDigit, Bool.and_eq_false_iff, decide_eq_false_iff_not, Char.le_def,
      UInt32.le_iff_toNat_le]
    change ¬ 48 ≤ c.toNat ∨ ¬ c.toNat ≤ 57
    omega
  have hzeros : ∀ z ∈ digitZeros, z = 48 ∨ 128 ≤ z := by decide
  simp only [isDigit, hascii, Bool.false_or, List.any_eq_false, Bool.and_eq_true,
    decide_eq_true_eq]
  intro z hz
  have := hzeros z hz
  omega

theorem isWordPart_of_isIdentifierStart {c : Char} (hc : isIdentifierStart c = true) :
    isWordPart c = true := by
  rcases Bool.or_eq_true_iff.mp hc with h | h <;>
    simp [isWordPart, isIdentifierPart, isAsciiAlphanumeric, h]

/-- Text that begins like an identifier is a number only if it begins with `Infinity`. -/
theorem lenient?_of_isIdentifierStart {c : Char} {cs : List Char}
    (hc : isIdentifierStart c = true) :
    lenient? (c :: cs)
      = if (dropPrefix? infinityName (c :: cs)).isSome then some (.infinite false) else none := by
  have hne : ∀ d, isIdentifierStart d = false → c ≠ d := by
    rintro d hd rfl
    rw [hc] at hd
    exact Bool.noConfusion hd
  -- no blank, no sign, no digit and no point: nothing of a numeral is there
  have htrim : trimStart (c :: cs) = c :: cs := by
    simp [trimStart, isBlank_of_isWordPart (isWordPart_of_isIdentifierStart hc)]
  have hsign : Numeral.scanSign (c :: cs) = (false, c :: cs) := by
    unfold Numeral.scanSign
    split
    · next h => exact absurd (List.cons.inj h).1 (hne '-' (by decide))
    · next h => exact absurd (List.cons.inj h).1 (hne '+' (by decide))
    · rfl
  have hdigits : Numeral.scanDigits (c :: cs) = ([], c :: cs) := by
    simp [Numeral.scanDigits, isDigit_of_isIdentifierStart hc]
  have hmantissa : Numeral.scanMantissa? (c :: cs) = none := by
    simp only [Numeral.scanMantissa?, hdigits]
    split
    · next h => exact absurd (List.cons.inj h).1 (hne '.' (by decide))
    · rfl
  cases hinfinity : dropPrefix? infinityName (c :: cs) <;>
    simp [lenient?, htrim, hsign, hinfinity, Numeral.scan?, hmantissa]

end Number

/-! ## 3. Paths -/

/-- Names with a point between them. -/
def dotted (first : List Char) (rest : List (List Char)) : List Char :=
  first ++ rest.flatMap ('.' :: ·)

/-- The literals that are written like a path. -/
def literalNames : List (List Char) :=
  [['t', 'r', 'u', 'e'], ['f', 'a', 'l', 's', 'e'], ['n', 'u', 'l', 'l'], Number.infinityName]

/-- **A dotted path of identifiers** that is not written like a literal. -/
structure Path where
  first : List Char
  rest : List (List Char)
  identifiers : ∀ n ∈ first :: rest, isIdentifier n = true
  not_literal : dotted first rest ∉ literalNames

namespace Path

def text (p : Path) : List Char := dotted p.first p.rest

theorem text_ne (p : Path) {name : List Char} (h : name ∈ literalNames) : p.text ≠ name :=
  fun heq => p.not_literal (by rwa [← heq] at h)

/-- What the path leads to. -/
def value (p : Path) (c : Context) : Resolved :=
  c.walk? (String.ofList p.first :: p.rest.map String.ofList)

theorem not_mem_of_isIdentifier {n : List Char} (h : isIdentifier n = true) : '.' ∉ n := by
  intro hmem
  cases n with
  | nil => simp at hmem
  | cons c n =>
    obtain ⟨hc, hn⟩ := Bool.and_eq_true_iff.mp h
    rcases List.mem_cons.mp hmem with rfl | hmem
    · exact absurd hc (by decide)
    · exact absurd (List.all_eq_true.mp hn _ hmem) (by decide)

theorem segments_go_append {n : List Char} (h : '.' ∉ n) (cs segment : List Char) :
    segments.go (n ++ cs) segment = segments.go cs (n.reverse ++ segment) := by
  induction n generalizing segment with
  | nil => rfl
  | cons c n ih =>
    obtain ⟨hc, hn⟩ := not_or.mp (mt List.mem_cons.mpr h)
    simp [segments.go, Ne.symm hc, ih hn]

theorem segments_go_flatMap {rest : List (List Char)} (h : ∀ n ∈ rest, '.' ∉ n)
    (segment : List Char) :
    segments.go (rest.flatMap ('.' :: ·)) segment
      = String.ofList segment.reverse :: rest.map String.ofList := by
  induction rest generalizing segment with
  | nil => rfl
  | cons n rest ih =>
    simp [segments.go, segments_go_append (h n List.mem_cons_self),
      ih fun m hm => h m (List.mem_cons_of_mem _ hm)]

/-- **A path is looked up by its names.** -/
theorem resolve?_text (p : Path) (c : Context) : c.resolve? p.text = p.value c := by
  have hnames : ∀ n ∈ p.first :: p.rest, '.' ∉ n :=
    fun n hn => not_mem_of_isIdentifier (p.identifiers n hn)
  rw [Context.resolve?, value, segments, text, dotted,
    segments_go_append (hnames _ List.mem_cons_self),
    segments_go_flatMap fun n hn => hnames n (List.mem_cons_of_mem _ hn)]
  simp

theorem exists_first (p : Path) : ∃ c cs, p.text = c :: cs ∧ isIdentifierStart c = true := by
  have h := p.identifiers p.first List.mem_cons_self
  unfold text dotted
  cases hfirst : p.first with
  | nil => simp [hfirst, isIdentifier] at h
  | cons c n =>
    rw [hfirst] at h
    exact ⟨c, n ++ p.rest.flatMap ('.' :: ·), rfl, (Bool.and_eq_true_iff.mp h).1⟩

theorem isIdentifierPart_of_isIdentifier {n : List Char} (h : isIdentifier n = true) :
    ∀ c ∈ n, isIdentifierPart c = true := by
  cases n with
  | nil => exact fun c hc => absurd hc List.not_mem_nil
  | cons d n =>
    obtain ⟨hd, hn⟩ := Bool.and_eq_true_iff.mp h
    refine List.forall_mem_cons.mpr ⟨?_, List.all_eq_true.mp hn⟩
    rcases Bool.or_eq_true_iff.mp hd with h | h <;> simp [isIdentifierPart, isAsciiAlphanumeric, h]

theorem isWordPart_of_isIdentifier {n : List Char} (h : isIdentifier n = true) :
    ∀ c ∈ n, isWordPart c = true := by
  intro c hc
  simp [isWordPart, isIdentifierPart_of_isIdentifier h c hc]

theorem isWord_of_isIdentifier {n : List Char} (h : isIdentifier n = true) : IsWord n := by
  refine ⟨?_, isWordPart_of_isIdentifier h⟩
  rintro rfl
  exact Bool.noConfusion h

theorem isWord_text (p : Path) : IsWord p.text := by
  have hidentifier : ∀ n ∈ p.first :: p.rest, ∀ c ∈ n, isWordPart c = true :=
    fun n hn => isWordPart_of_isIdentifier (p.identifiers n hn)
  constructor
  · obtain ⟨c, cs, hcs, -⟩ := p.exists_first
    rw [hcs]
    exact List.cons_ne_nil c cs
  · intro c hc
    rcases List.mem_append.mp hc with hc | hc
    · exact hidentifier _ List.mem_cons_self c hc
    · obtain ⟨n, hn, hc⟩ := List.mem_flatMap.mp hc
      rcases List.mem_cons.mp hc with rfl | hc
      · decide
      · exact hidentifier n (List.mem_cons_of_mem _ hn) c hc

/-- No path is written like a number. -/
theorem number?_text (p : Path) : Atom.number? p.text = none := by
  obtain ⟨c, cs, hcs, hc⟩ := p.exists_first
  have hne : Number.format (.infinite false) ≠ p.text :=
    (p.text_ne (by decide : Number.infinityName ∈ literalNames)).symm
  unfold Atom.number?
  rw [hcs] at hne ⊢
  rw [Number.lenient?_of_isIdentifierStart hc]
  split
  · simpa using hne
  · rfl

end Path

/-! ## 4. Atoms -/

/-- **A literal or a variable.** -/
inductive Literal where
  | bool (b : Bool)
  | null
  /-- A number that is written as it would be shown. -/
  | number (n : Binary64) (canonical : Number.lenient? (Number.format n) = some n)
  /-- Text between quotes of either kind that contains neither this quote nor a backslash. -/
  | string (quote : Char) (content : List Char) (isQuote : Scan.isQuote quote = true)
      (quotable : IsQuotable quote content)
  | path (p : Path)

namespace Literal

def text : Literal → List Char
  | bool true => ['t', 'r', 'u', 'e']
  | bool false => ['f', 'a', 'l', 's', 'e']
  | null => ['n', 'u', 'l', 'l']
  | number n _ => Number.format n
  | string quote content _ _ => quote :: (content ++ [quote])
  | path p => p.text

def value (c : Context) : Literal → Resolved
  | bool b => some (.bool b)
  | null => some .null
  | number n _ => some (.number n)
  | string _ content _ _ => some (.string (String.ofList content))
  | path p => p.value c

/-- Everything but a string literal is a word. -/
theorem isWord_or_quoted (l : Literal) :
    IsWord l.text ∨ ∃ quote content, isQuote quote = true ∧ IsQuotable quote content ∧
      l.text = quote :: (content ++ [quote]) := by
  cases l with
  | bool b => cases b <;> exact .inl (by decide)
  | null => exact .inl (by decide)
  | number n h => exact .inl (Number.isWord_format h)
  | string quote content hq h => exact .inr ⟨quote, content, hq, h, rfl⟩
  | path p => exact .inl p.isWord_text

section Text

variable (l : Literal)

theorem closed : Closed l.text := by
  rcases l.isWord_or_quoted with h | ⟨quote, content, hq, h, htext⟩
  · exact h.closed
  · rw [htext]
    exact Closed.quoted hq h

theorem tight : Tight l.text := by
  rcases l.isWord_or_quoted with h | ⟨quote, content, hq, h, htext⟩
  · exact h.tight
  · have hblank : isBlank quote = false := by rcases eq_of_isQuote hq with rfl | rfl <;> decide
    rw [htext]
    exact Tight.of_ends hblank hblank content

variable {l} {chars : List Char} (hchars : Foreign chars)

include hchars

/-- What is neither a word part nor a quote does not stand at the top level of an atom. -/
theorem avoids : Shape.Avoids chars l.text := by
  rcases l.isWord_or_quoted with h | ⟨quote, content, hq, h, htext⟩
  · exact h.avoids hchars
  · intro c hc
    rw [htext, topText_quoted hq h, List.mem_singleton]
    rintro rfl
    exact Bool.false_ne_true ((hchars c hc).2.symm.trans hq)

theorem head?_ne {c : Char} (hc : c ∈ chars) : l.text.head? ≠ some c := by
  rcases l.isWord_or_quoted with h | ⟨quote, content, hq, h, htext⟩
  · exact h.head?_ne (hchars c hc).1
  · rw [htext]
    intro hhead
    obtain rfl : quote = c := by simpa using hhead
    exact Bool.false_ne_true ((hchars quote hc).2.symm.trans hq)

theorem getLast?_ne {c : Char} (hc : c ∈ chars) : l.text.getLast? ≠ some c := by
  rcases l.isWord_or_quoted with h | ⟨quote, content, hq, h, htext⟩
  · exact h.getLast?_ne (hchars c hc).1
  · rw [htext, ← List.cons_append]
    intro hlast
    rw [List.getLast?_concat] at hlast
    obtain rfl : quote = c := Option.some.inj hlast
    exact Bool.false_ne_true ((hchars quote hc).2.symm.trans hq)

end Text

end Literal

/-! ## 5. Reading atoms -/

/-- A call ends in a closing parenthesis. -/
theorem Call.getLast?_of_ofText? {cs : List Char} {call : Call} (h : ofText? cs = some call) :
    cs.getLast? = some ')' := by
  simp only [ofText?, Option.bind_eq_bind, Option.pure_def] at h
  split at h
  · simp at h
  · obtain ⟨inside, hgroup, -⟩ := Option.bind_eq_some_iff.mp h
    have hparens := eq_parens_of_group? hgroup
    refine Shape.getLast?_of_suffix (List.dropWhile_suffix (· != '(')) ?_
    rw [hparens, ← List.cons_append, List.getLast?_concat]

theorem Call.ofText?_of_getLast?_ne {cs : List Char} (h : cs.getLast? ≠ some ')') :
    ofText? cs = none :=
  Option.eq_none_iff_forall_ne_some.mpr fun _ hcall => h (Call.getLast?_of_ofText? hcall)

namespace Atom

theorem quoted?_of_getLast?_ne {cs : List Char} (hdouble : cs.getLast? ≠ some '"')
    (hsingle : cs.getLast? ≠ some '\'') : quoted? cs = none := by
  have hend : ∀ {quote : Char} {rest : List Char}, (quote :: rest).getLast? ≠ some quote →
      dropLast? quote rest = none := by
    intro quote rest hne
    rw [Option.eq_none_iff_forall_ne_some]
    intro content hcontent
    rw [dropLast?_eq_some_iff.mp hcontent, ← List.cons_append, List.getLast?_concat] at hne
    exact hne rfl
  unfold quoted?
  split
  · exact hend hdouble
  · exact hend hsingle
  · rfl

theorem bracketed?_of_head?_ne {cs : List Char} (h : cs.head? ≠ some '[') :
    bracketed? cs = none := by
  unfold bracketed?
  split
  · simp at h
  · rfl

/-- A text with a character that is no word part is no number and no keyword. -/
theorem ofText_of_mem {cs : List Char} {c : Char} (hc : isWordPart c = false) (hmem : c ∈ cs)
    (hquoted : quoted? cs = none) :
    ofText cs = match bracketed? cs with
      | some body => list body
      | none => path := by
  have hnumber : number? cs = none := by
    rw [number?, Option.filter_eq_none_iff]
    intro n _ hn
    rw [← eq_of_beq hn] at hmem
    rw [Number.isWordPart_of_mem_format hmem] at hc
    exact Bool.noConfusion hc
  have hname : ∀ name : List Char, IsWord name → cs ≠ name := by
    rintro _ hword rfl
    exact hword.not_mem hc hmem
  rewrite [ofText, hquoted, hnumber,
    if_neg (hname ['t', 'r', 'u', 'e'] (by decide)),
    if_neg (hname ['f', 'a', 'l', 's', 'e'] (by decide)),
    if_neg (hname ['n', 'u', 'l', 'l'] (by decide))]
  rfl

end Atom

namespace Literal

theorem quoted?_of_isWord {cs : List Char} (h : IsWord cs) : Atom.quoted? cs = none :=
  Atom.quoted?_of_getLast?_ne (h.getLast?_ne (by decide)) (h.getLast?_ne (by decide))

theorem bracketed?_of_isWord {cs : List Char} (h : IsWord cs) : Atom.bracketed? cs = none :=
  Atom.bracketed?_of_head?_ne (h.head?_ne (by decide))

/-- **The text of an atom is read as the atom.** -/
theorem evaluate_ofText (l : Literal) (read : List Char → Evaluation) (c : Context) :
    (Atom.ofText l.text).evaluate read (c.resolve? l.text) = .ok (l.value c) := by
  cases l with
  | bool b => cases b <;> rfl
  | null => rfl
  | number n h =>
    simp [Atom.ofText, text, quoted?_of_isWord (Number.isWord_format h), Atom.number?, h,
      Option.filter, Atom.evaluate, value]
  | string quote content hq h =>
    have hquoted : Atom.quoted? (quote :: (content ++ [quote])) = some content := by
      rcases eq_of_isQuote hq with rfl | rfl <;> simp [Atom.quoted?, dropLast?]
    simp [Atom.ofText, text, hquoted, Atom.evaluate, value]
  | path p =>
    have hfalse := p.text_ne (by decide : ['f', 'a', 'l', 's', 'e'] ∈ literalNames)
    have htrue := p.text_ne (by decide : ['t', 'r', 'u', 'e'] ∈ literalNames)
    have hnull := p.text_ne (by decide : ['n', 'u', 'l', 'l'] ∈ literalNames)
    simp [Atom.ofText, text, quoted?_of_isWord p.isWord_text, p.number?_text, hfalse, htrue,
      hnull, bracketed?_of_isWord p.isWord_text, Atom.evaluate, value, p.resolve?_text]

/-- The text of an atom is no call. -/
theorem call_eq_none (l : Literal) : Call.ofText? l.text = none :=
  Call.ofText?_of_getLast?_ne
    (Literal.getLast?_ne (by decide : Foreign [')']) List.mem_cons_self)

end Literal

end FormLogic
