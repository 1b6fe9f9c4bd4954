import FormLogic.Proofs.Expression.Literal

/-!
# The grammar of logical expressions

`Formula` is the abstract syntax of expressions and `Formula.value` what they mean, without any
text.  `Prints` relates a formula to its texts: any blank characters around operators, and
parentheses only where a formula that binds looser stands in a place that asks for one that
binds tighter.  What the scanner sees of a printed text is told by its place alone: the text is
closed, its ends are not blank, and no operator that binds looser than the place stands at its
top level (`Prints.printed`).
-/

namespace FormLogic

open Scan Text

/-! ## 1. Formulas and their values -/

/-- **An expression as a tree.**  A call stands on a side of a comparison, as a literal can. -/
inductive Formula where
  | literal (l : Literal)
  | call (helper : Helper) (arguments : List Formula)
  | comparison (op : Comparison) (left right : Formula)
  | negation (inner : Formula)
  /-- Two operands or more. -/
  | logical (k : Connective) (operands : List Formula)
  | ternary (condition whenTrue whenFalse : Formula)
  /-- In parentheses that are kept. -/
  | group (inner : Formula)
  /-- `primary ?? other` -/
  | fallback (primary other : Formula)

namespace Formula

mutual

/-- **The meaning of a formula** in a context. -/
def value (c : Context) : Formula → Resolved
  | literal l => l.value c
  | call helper arguments => helper.apply (values c arguments) c.user
  | comparison op left right => some (.bool (op.apply (value c left) (value c right)))
  | negation inner => some (.bool !(value c inner).toBoolean)
  | logical k operands => some (.bool (k.holds (values c operands)))
  | ternary condition whenTrue whenFalse =>
    if (value c condition).toBoolean then value c whenTrue else value c whenFalse
  | group inner => value c inner
  | fallback primary other =>
    if (value c primary).isNullish then value c other else value c primary

def values (c : Context) : List Formula → List Resolved
  | [] => []
  | f :: fs => value c f :: values c fs

end

theorem values_eq_map (c : Context) (fs : List Formula) : values c fs = fs.map (value c) := by
  induction fs with
  | nil => rfl
  | cons f fs ih => rw [values, ih, List.map_cons]

end Formula

/-! ## 2. Precedence -/

/-- **The places of a text**, from those that take every formula to those that take only
literals and calls. -/
inductive Place where
  /-- The whole text, the inside of parentheses, and an argument of a call. -/
  | whole
  /-- A branch of a ternary. -/
  | branch
  /-- The condition of a ternary, and a side of `??`. -/
  | disjunct
  /-- An operand of `&&`. -/
  | conjunct
  /-- What `!` stands before. -/
  | negated
  /-- A side of a comparison. -/
  | side
deriving DecidableEq, Repr

namespace Place

def rank : Place → Nat
  | whole => 0
  | branch => 1
  | disjunct => 2
  | conjunct => 3
  | negated => 4
  | side => 5

/-- A place is looser than another when it takes more formulas. -/
instance : LE Place := ⟨fun p q => p.rank ≤ q.rank⟩

instance : LT Place := ⟨fun p q => p.rank < q.rank⟩

instance (p q : Place) : Decidable (p ≤ q) := inferInstanceAs (Decidable (p.rank ≤ q.rank))

instance (p q : Place) : Decidable (p < q) := inferInstanceAs (Decidable (p.rank < q.rank))

end Place

/-- The tightest place that takes the formula without parentheses. -/
def Formula.place : Formula → Place
  | literal _ | call .. => .side
  | comparison .. | negation _ | group _ => .negated
  | logical .conjunction _ => .conjunct
  | logical .disjunction _ => .disjunct
  | ternary .. => .branch
  | fallback .. => .whole

namespace Connective

/-- The place of an operand. -/
def place : Connective → Place
  | conjunction => .conjunct
  | disjunction => .disjunct

/-- The place of an operand that is not cut further. -/
def tighter : Connective → Place
  | conjunction => .negated
  | disjunction => .conjunct

end Connective

/-! ## 3. Printed texts -/

/-- Blank characters between the parts of a text. -/
abbrev Blanks := { cs : List Char // Blank cs }

abbrev Blanks.none : Blanks := ⟨[], Blank.nil⟩

/-- **Texts with an operator between them**, and blank characters around the operator. -/
inductive Joined (op : List Char) : List (List Char) → List Char → Prop where
  | one (t : List Char) : Joined op [t] t
  | cons (t : List Char) (b b' : Blanks) {ts : List (List Char)} {rest : List Char} :
      Joined op ts rest → Joined op (t :: ts) (t ++ (b ++ (op ++ (b' ++ rest))))

/-- The inside of the parentheses of a call: the arguments between commas, or nothing. -/
inductive Arguments : List (List Char) → List Char → Prop where
  | blank (b : Blanks) : Arguments [] b
  | list (b b' : Blanks) {ts : List (List Char)} {text : List Char} :
      Joined [','] ts text → Arguments ts (b ++ (text ++ b'))

/-- `(text)` with blank characters inside the parentheses. -/
def bracketed (b b' : Blanks) (text : List Char) : List Char :=
  '(' :: ((b ++ (text ++ b')) ++ [')'])

/-- **The texts of a formula at a place.** -/
inductive Prints : Place → Formula → List Char → Prop where
  | literal (place : Place) (l : Literal) : Prints place (.literal l) l.text
  | call (helper : Helper) {arguments : List (Formula × List Char)} {inside : List Char} :
      (∀ a ∈ arguments, Prints .whole a.1 a.2) → Arguments (arguments.map Prod.snd) inside →
      Prints .side (.call helper (arguments.map Prod.fst))
        (helper.name.toList ++ ('(' :: (inside ++ [')'])))
  | comparison {place : Place} (hplace : place ≤ .negated) (op : Comparison) (b b' : Blanks)
      {left right : Formula} {tl tr : List Char} :
      Prints .side left tl → Prints .side right tr →
      Prints place (.comparison op left right) (tl ++ (b ++ (op.symbol ++ (b' ++ tr))))
  | negation {place : Place} (hplace : place ≤ .negated) (b : Blanks)
      {inner : Formula} {t : List Char} :
      Prints .negated inner t → Prints place (.negation inner) ('!' :: (b ++ t))
  | logical {place : Place} (k : Connective) (hplace : place ≤ k.place)
      {operands : List (Formula × List Char)} {text : List Char} :
      2 ≤ operands.length → (∀ o ∈ operands, Prints k.place o.1 o.2) →
      Joined k.symbol (operands.map Prod.snd) text →
      Prints place (.logical k (operands.map Prod.fst)) text
  | ternary {place : Place} (hplace : place ≤ .branch) (b₁ b₂ b₃ b₄ : Blanks)
      {condition whenTrue whenFalse : Formula} {tc tt tf : List Char} :
      Prints .disjunct condition tc → Prints .branch whenTrue tt → Prints .branch whenFalse tf →
      Prints place (.ternary condition whenTrue whenFalse)
        (tc ++ (b₁ ++ ('?' :: (b₂ ++ (tt ++ (b₃ ++ (':' :: (b₄ ++ tf))))))))
  | fallback (b b' : Blanks) {primary other : Formula} {tp tq : List Char} :
      Prints .disjunct primary tp → Prints .disjunct other tq →
      Prints .whole (.fallback primary other) (tp ++ (b ++ (['?', '?'] ++ (b' ++ tq))))
  | group {place : Place} (hplace : place ≤ .negated) (b b' : Blanks)
      {inner : Formula} {t : List Char} :
      Prints .whole inner t → Prints place (.group inner) (bracketed b b' t)
  /-- The place asks for a formula that binds tighter, so it gets one in parentheses. -/
  | parentheses {place : Place} (hplace : place ≤ .negated) (b b' : Blanks)
      {f : Formula} {t : List Char} :
      f.place < place → Prints .whole f t → Prints place f (bracketed b b' t)

/-! ## 4. What a place keeps out -/

namespace Place

/-- The characters that stand at the top level of no text at the place: the comma, and the first
characters of the operators that bind looser. -/
def looser : Place → List Char
  | whole | branch => [',']
  | disjunct => [',', ':', '?']
  | conjunct => [',', ':', '?', '|']
  | negated => [',', ':', '?', '|', '&']
  | side => [',', ':', '?', '|', '&', '=', '!', '<', '>']

/-- The characters that no text at the place begins with. -/
def barred : Place → List Char
  | side => ['$', '=', '<', '>', '!', '(']
  | _ => ['$', '=', '<', '>']

theorem looser_subset {p q : Place} (h : p ≤ q) : p.looser ⊆ q.looser := by
  revert h
  cases p <;> cases q <;> decide

theorem barred_subset {p q : Place} (h : p ≤ q) : p.barred ⊆ q.barred := by
  revert h
  cases p <;> cases q <;> decide

theorem le_side (p : Place) : p ≤ .side := by
  cases p <;> decide

theorem visible_looser (p : Place) : Visible p.looser := by
  cases p <;> decide

end Place

/-- **What the scanner sees of a text at a place.** -/
structure Seen (place : Place) (t : List Char) : Prop where
  closed : Closed t
  tight : Tight t
  avoids : Shape.Avoids place.looser t
  first : ∀ c ∈ t.head?, c ∉ place.barred

/-- **What printed texts have in common**: at every place but the loosest, ternaries are whole. -/
structure Printed (place : Place) (t : List Char) : Prop extends Seen place t where
  transparent : place ≠ .whole → Transparent t

theorem Seen.mono {place q : Place} {t : List Char} (h : Seen q t) (hle : place ≤ q) :
    Seen place t where
  closed := h.closed
  tight := h.tight
  avoids := h.avoids.mono (Place.looser_subset hle)
  first c hc hmem := h.first c hc (Place.barred_subset hle hmem)

/-- Without question marks and colons the search for a colon passes over the text. -/
theorem Seen.printed {place : Place} {t : List Char} (h : Seen place t)
    (hplace : .disjunct ≤ place) : Printed place t :=
  ⟨h, fun _ => Transparent.of_not_mem
    (h.avoids '?' (Place.looser_subset hplace (by decide)))
    (h.avoids ':' (Place.looser_subset hplace (by decide)))⟩

namespace Printed

variable {place : Place} {t : List Char}

theorem mono {q : Place} (h : Printed q t) (hle : place ≤ q) : Printed place t where
  toSeen := h.toSeen.mono hle
  transparent hplace := h.transparent <| by
    rintro rfl
    revert hle hplace
    cases place <;> decide

/-- A text at a place, with blank characters around it. -/
theorem avoids_pad (h : Printed place t) (b b' : Blanks) :
    Shape.Avoids place.looser (b ++ (t ++ b')) :=
  Shape.avoids_pad place.visible_looser b.2 h.closed.balanced h.avoids b'.2

theorem closed_pad (h : Printed place t) (b b' : Blanks) : Closed (b ++ (t ++ b')) :=
  Shape.closed_pad b.2 h.closed b'.2

end Printed

theorem head?_append_of_tight {a : List Char} (h : Tight a) (b : List Char) :
    (a ++ b).head? = a.head? := by
  obtain ⟨c, rest, rfl, -⟩ := h.first
  rfl

theorem Literal.printed (l : Literal) : Printed .side l.text := by
  have hlooser : Foreign (Place.looser .side) := by decide
  have hbarred : Foreign (Place.barred .side) := by decide
  exact Seen.printed ⟨l.closed, l.tight, Literal.avoids hlooser,
    fun c hc hmem => Literal.head?_ne hbarred hmem hc⟩ (by decide)

/-! ## 5. Texts in parentheses and texts between operators -/

theorem Printed.bracketed {t : List Char} (h : Closed t) (b b' : Blanks) :
    Printed .negated (bracketed b b' t) := by
  have hbalanced := (Shape.closed_pad b.2 h b'.2).balanced
  refine Seen.printed ⟨Closed.enclosed .round hbalanced, Tight.of_ends (by decide) (by decide) _,
    Shape.Avoids.enclosed .round hbalanced (by decide), ?_⟩ (by decide)
  intro c hc
  obtain rfl : '(' = c := by simpa [FormLogic.bracketed] using hc
  decide

namespace Joined

variable {op text : List Char} {ts : List (List Char)}

theorem closed (h : Joined op ts text) (hop : Plain op)
    (hts : ∀ t ∈ ts, Closed t) : Closed text := by
  induction h with
  | one t => exact hts t List.mem_cons_self
  | cons t b b' _ ih =>
    have hrest := ih fun u hu => hts u (List.mem_cons_of_mem _ hu)
    refine (hts t List.mem_cons_self).append ((Shape.closed_of_blank b.2).append ?_)
    exact (Closed.of_plain hop).append ((Shape.closed_of_blank b'.2).append hrest)

theorem avoids (h : Joined op ts text) {chars : List Char} (hop : Plain op)
    (hno : Shape.Apart chars op) (hchars : Visible chars)
    (hts : ∀ t ∈ ts, Closed t ∧ Shape.Avoids chars t) : Shape.Avoids chars text := by
  induction h with
  | one t => exact (hts t List.mem_cons_self).2
  | cons t b b' _ ih =>
    have hrest := ih fun u hu => hts u (List.mem_cons_of_mem _ hu)
    obtain ⟨hclosed, ht⟩ := hts t List.mem_cons_self
    refine ht.append hclosed ((Shape.avoids_of_blank hchars b.2).append
      (Shape.closed_of_blank b.2) ?_)
    exact Shape.Avoids.append (Closed.of_plain hop) (Shape.Avoids.of_plain hop hno)
      ((Shape.avoids_of_blank hchars b'.2).append (Shape.closed_of_blank b'.2) hrest)

theorem tight (h : Joined op ts text) (hts : ∀ t ∈ ts, Tight t) : Tight text := by
  induction h with
  | one t => exact hts t List.mem_cons_self
  | cons t b b' _ ih =>
    have hrest := ih fun u hu => hts u (List.mem_cons_of_mem _ hu)
    simpa using (hts t List.mem_cons_self).append hrest (b ++ (op ++ b'))

theorem head?_mem (h : Joined op ts text) (hts : ∀ t ∈ ts, Tight t) :
    ∃ t ∈ ts, text.head? = t.head? := by
  cases h with
  | one => exact ⟨text, List.mem_cons_self, rfl⟩
  | cons t b b' _ =>
    exact ⟨t, List.mem_cons_self, head?_append_of_tight (hts t List.mem_cons_self) _⟩

/-- The texts are as much shorter than the joined text as there are operators. -/
theorem length_le (h : Joined op ts text) (hop : op ≠ []) :
    ts.length ≤ text.length + 1 ∧ ∀ t ∈ ts, t.length + ts.length ≤ text.length + 1 := by
  have hpos := List.length_pos_iff.mpr hop
  induction h with
  | one t => simp
  | cons t b b' _ ih =>
    obtain ⟨hle, hall⟩ := ih
    simp only [List.length_append, List.length_cons]
    refine ⟨by omega, ?_⟩
    intro u hu
    rcases List.mem_cons.mp hu with rfl | hu
    · omega
    · have := hall u hu
      omega

/-- Joining keeps what is seen of the texts, where the place allows the operator. -/
theorem seen {place : Place} (h : Joined op ts text) (hop : Plain op)
    (hno : Shape.Apart place.looser op) (hts : ∀ t ∈ ts, Seen place t) : Seen place text := by
  obtain ⟨t, ht, hhead⟩ := h.head?_mem fun t ht => (hts t ht).tight
  refine ⟨h.closed hop fun t ht => (hts t ht).closed, h.tight fun t ht => (hts t ht).tight,
    h.avoids hop hno place.visible_looser fun t ht =>
      ⟨(hts t ht).closed, (hts t ht).avoids⟩, ?_⟩
  rw [hhead]
  exact (hts t ht).first

/-- The case of two texts. -/
theorem seen_pair {place : Place} {a c : List Char} (b b' : Blanks)
    (hop : Plain op) (hno : Shape.Apart place.looser op)
    (ha : Seen place a) (hc : Seen place c) : Seen place (a ++ (b ++ (op ++ (b' ++ c)))) := by
  refine seen (.cons a b b' (.one c)) hop hno ?_
  intro t ht
  rcases (by simpa using ht : t = a ∨ t = c) with rfl | rfl
  · exact ha
  · exact hc

/-- **Between operators a text is cut into the texts that were joined.** -/
theorem split_eq {o : Char} {os : List Char} (h : Joined (o :: os) ts text)
    (hop : Plain (o :: os)) (ho : Visible [o])
    (hts : ∀ t ∈ ts, Balance.check t = .ok () ∧ Tight t ∧ o ∉ topText t) (b b' : Blanks) :
    (split (o :: os) (b ++ (text ++ b'))).map trim = ts := by
  have hpiece : ∀ t ∈ ts, ∀ b b' : Blanks, o ∉ topText (b ++ (t ++ b')) := by
    intro t ht b b'
    obtain ⟨hbalanced, -, hno⟩ := hts t ht
    have havoids : Shape.Avoids [o] t := List.forall_mem_singleton.mpr hno
    exact Shape.avoids_pad ho b.2 hbalanced havoids b'.2 o (List.mem_singleton_self o)
  induction h generalizing b with
  | one t =>
    rw [split_of_not_mem (hpiece t List.mem_cons_self b b'), List.map_singleton,
      (hts t List.mem_cons_self).2.1.trim_pad b.2 b'.2]
  | @cons t b₁ b₂ _ rest _ ih =>
    have hrest := ih (fun u hu => hts u (List.mem_cons_of_mem _ hu)) b₂
      fun u hu => hpiece u (List.mem_cons_of_mem _ hu)
    obtain ⟨hbalanced, htight, -⟩ := hts t List.mem_cons_self
    have htext : b.1 ++ ((t ++ (b₁.1 ++ ((o :: os) ++ (b₂.1 ++ rest)))) ++ b'.1)
        = (b ++ (t ++ b₁)) ++ ((o :: os) ++ (b₂ ++ (rest ++ b'))) := by
      simp
    rw [htext,
      split_append hop (Shape.balanced_pad b.2 hbalanced b₁.2) (hpiece t List.mem_cons_self b b₁),
      List.map_cons, htight.trim_pad b.2 b₁.2, hrest]

theorem balanced {o : Char} {os : List Char} (h : Joined (o :: os) ts text)
    (hop : Plain (o :: os)) (hts : ∀ t ∈ ts, Balance.check t = .ok ()) :
    Balance.check text = .ok () := by
  induction h with
  | one t => exact hts t List.mem_cons_self
  | cons t b b' _ ih =>
    have hrest := ih fun u hu => hts u (List.mem_cons_of_mem _ hu)
    have hafter := (Shape.closed_of_blank b'.2).balanced_append hrest
    exact balanced_append (hts t List.mem_cons_self)
      ((Shape.closed_of_blank b.2).balanced_append ((Closed.of_plain hop).balanced_append hafter))
      (unquoted_of_plain_before (Shape.plain_of_blank b.2) (hop o List.mem_cons_self) _)

end Joined

/-- **Text that can be an argument of a call**: balanced, with no blank character at its ends and
no comma at its top level. -/
structure IsArgument (t : List Char) : Prop where
  balanced : Balance.check t = .ok ()
  tight : Tight t
  single : ',' ∉ topText t

theorem Printed.isSide {t : List Char} (h : Printed .side t) : Shape.IsSide t :=
  ⟨h.closed.balanced, h.avoids.mono (by decide), h.tight.not_blank⟩

theorem Printed.isArgument {t : List Char} (h : Printed .whole t) : IsArgument t :=
  ⟨h.closed.balanced, h.tight, h.avoids ',' (by decide)⟩

theorem Literal.isArgument_of_mem {ls : List Literal} : ∀ t ∈ ls.map Literal.text, IsArgument t := by
  intro t ht
  obtain ⟨l, -, rfl⟩ := List.mem_map.mp ht
  exact (l.printed.mono (by decide)).isArgument

namespace Arguments

variable {ts : List (List Char)} {inside : List Char}

theorem balanced (h : Arguments ts inside) (hts : ∀ t ∈ ts, Balance.check t = .ok ()) :
    Balance.check inside = .ok () := by
  cases h with
  | blank b => exact (Shape.closed_of_blank b.2).balanced
  | list b b' hjoined => exact Shape.balanced_pad b.2 (hjoined.balanced (by decide) hts) b'.2

/-- The arguments between the parentheses of a call are found. -/
theorem arguments_eq (h : Arguments ts inside) (hts : ∀ t ∈ ts, IsArgument t) :
    Scan.arguments inside = ts := by
  cases h with
  | blank b => simp [Scan.arguments, trim_of_blank b.2]
  | @list b b' ts text hjoined =>
    have htight : Tight text := hjoined.tight fun t ht => (hts t ht).tight
    have hcut : (split [','] text).map trim = ts := by
      simpa using hjoined.split_eq (by decide) (by decide)
        (fun t ht => ⟨(hts t ht).balanced, (hts t ht).tight, (hts t ht).single⟩) .none .none
    have hlast : ts.getLast? ≠ some [] := fun h =>
      (hts [] (List.mem_of_getLast? h)).tight.ne_nil rfl
    simp only [Scan.arguments, htight.trim_pad b.2 b'.2, hcut, if_neg hlast]
    rw [if_neg (by simpa using htight.ne_nil)]

end Arguments

/-- The items between the brackets of a list are found. -/
theorem Joined.items_eq {ts : List (List Char)} {text : List Char} (h : Joined [','] ts text)
    (hts : ∀ t ∈ ts, IsArgument t) (b b' : Blanks) : Scan.items (b ++ (text ++ b')) = ts := by
  rw [Scan.items, h.split_eq (by decide) (by decide)
    (fun t ht => ⟨(hts t ht).balanced, (hts t ht).tight, (hts t ht).single⟩) b b',
    List.filter_eq_self]
  intro t ht
  simpa using (hts t ht).tight.ne_nil

namespace Connective

theorem exists_symbol (k : Connective) :
    ∃ o os, k.symbol = o :: os ∧ Plain (o :: os) ∧ Visible [o] ∧ o ∈ k.tighter.looser := by
  cases k <;> exact ⟨_, _, rfl, by decide, by decide, by decide⟩

end Connective

/-- The text of a ternary, its parts with the blank characters around them. -/
theorem ternary_pad (tc tt tf : List Char) (b₁ b₂ b₃ b₄ : List Char) :
    tc ++ (b₁ ++ ('?' :: (b₂ ++ (tt ++ (b₃ ++ (':' :: (b₄ ++ tf)))))))
      = ([] ++ (tc ++ b₁)) ++ ('?' :: ((b₂ ++ (tt ++ b₃)) ++ (':' :: (b₄ ++ (tf ++ []))))) := by
  simp

theorem Helper.isWord_name (helper : Helper) : IsWord helper.name.toList := by
  cases helper <;> decide

/-! ## 6. Printed texts -/

/-- A word before balanced text in parentheses. -/
theorem Printed.parenthesized {name inside : List Char} (hname : IsWord name)
    (h : Balance.check inside = .ok ()) : Printed .side (name ++ ('(' :: (inside ++ [')']))) := by
  have hbarred : Foreign (Place.barred .side) := by decide
  refine Seen.printed ⟨hname.closed.append (Closed.enclosed .round h),
    hname.tight.append (Tight.of_ends (by decide) (by decide) inside) [],
    (hname.avoids (by decide)).append hname.closed (Shape.Avoids.enclosed .round h (by decide)),
    ?_⟩ (by decide)
  intro c hc hmem
  rw [head?_append_of_tight hname.tight] at hc
  exact hname.head?_ne (hbarred c hmem).1 hc

theorem Printed.call (helper : Helper) {inside : List Char} (h : Balance.check inside = .ok ()) :
    Printed .side (helper.name.toList ++ ('(' :: (inside ++ [')']))) :=
  Printed.parenthesized helper.isWord_name h

theorem Printed.negation {t : List Char} (h : Printed .negated t) (b : Blanks) :
    Printed .negated ('!' :: (b ++ t)) := by
  have hbang : Plain ['!'] := by decide
  have htight : Tight ['!'] := ⟨⟨'!', [], rfl, by decide⟩, ⟨[], '!', rfl, by decide⟩⟩
  refine Seen.printed ⟨(Closed.of_plain hbang).append ((Shape.closed_of_blank b.2).append h.closed),
    htight.append h.tight b, ?_, ?_⟩ (by decide)
  · exact Shape.Avoids.append (Closed.of_plain hbang) (Shape.Avoids.of_plain hbang (by decide)) <|
      (Shape.avoids_of_blank (by decide) b.2).append (Shape.closed_of_blank b.2) h.avoids
  · intro c hc
    obtain rfl : '!' = c := by simpa using hc
    decide

/-- A ternary is passed over by the search for the colon of one around it. -/
theorem Printed.ternary {tc tt tf : List Char} (hc : Printed .disjunct tc)
    (ht : Printed .branch tt) (hf : Printed .branch tf) (b₁ b₂ b₃ b₄ : Blanks) :
    Printed .branch (tc ++ (b₁ ++ ('?' :: (b₂ ++ (tt ++ (b₃ ++ (':' :: (b₄ ++ tf)))))))) := by
  have hbranches := Joined.seen_pair b₃ b₄ (by decide : Plain [':']) (by decide)
    ht.toSeen hf.toSeen
  refine ⟨Joined.seen_pair b₁ b₂ (by decide : Plain ['?']) (by decide)
    (hc.toSeen.mono (by decide)) hbranches, ?_⟩
  intro _
  have hcondition := hc.avoids_pad .none b₁
  rw [ternary_pad]
  exact Transparent.ternary (hc.closed_pad .none b₁)
    (hcondition '?' (by decide)) (hcondition ':' (by decide)) (ht.closed_pad b₂ b₃)
    (Shape.transparent_pad b₂.2 ht.closed (ht.transparent (by decide)) b₃.2)
    (Shape.transparent_pad b₄.2 hf.closed (hf.transparent (by decide)) Blank.nil)

/-- **What the scanner sees of a printed text is told by its place.** -/
theorem Prints.printed {place : Place} {f : Formula} {t : List Char} (h : Prints place f t) :
    Printed place t := by
  induction h with
  | literal place l => exact l.printed.mono place.le_side
  | call helper _ harguments ih =>
    refine Printed.call helper (harguments.balanced ?_)
    intro t ht
    obtain ⟨a, ha, rfl⟩ := List.mem_map.mp ht
    exact (ih a ha).closed.balanced
  | comparison hplace op b b' _ _ ihl ihr =>
    refine (Seen.printed (Joined.seen_pair b b' ?_ ?_ (ihl.toSeen.mono (by decide))
      (ihr.toSeen.mono (by decide))) (by decide)).mono hplace
    · exact Shape.plain_symbol op
    · cases op <;> decide
  | negation hplace b _ ih => exact (ih.negation b).mono hplace
  | logical k hplace _ _ hjoined ih =>
    refine (Seen.printed (hjoined.seen ?_ ?_ ?_) ?_).mono hplace
    · cases k <;> decide
    · cases k <;> decide
    · intro t ht
      obtain ⟨o, ho, rfl⟩ := List.mem_map.mp ht
      exact (ih o ho).toSeen
    · cases k <;> decide
  | ternary hplace b₁ b₂ b₃ b₄ _ _ _ ihc iht ihf =>
    exact (ihc.ternary iht ihf b₁ b₂ b₃ b₄).mono hplace
  | fallback b b' _ _ ihp ihq =>
    exact ⟨Joined.seen_pair b b' (by decide) (by decide) (ihp.toSeen.mono (by decide))
      (ihq.toSeen.mono (by decide)), fun h => absurd rfl h⟩
  | group hplace b b' _ ih => exact (Printed.bracketed ih.closed b b').mono hplace
  | parentheses hplace b b' _ _ ih => exact (Printed.bracketed ih.closed b b').mono hplace

/-! ## 7. Every formula of the grammar is printed -/

/-- **The formulas of the grammar**, on a side of a comparison or anywhere else: a call is a side
of a comparison, a comparison is none, and a connective has two operands or more. -/
inductive Formula.Formed : (side : Bool) → Formula → Prop where
  | literal (side : Bool) (l : Literal) : Formed side (.literal l)
  | call (helper : Helper) {arguments : List Formula} :
      (∀ a ∈ arguments, Formed false a) → Formed true (.call helper arguments)
  | comparison (op : Comparison) {left right : Formula} :
      Formed true left → Formed true right → Formed false (.comparison op left right)
  | negation {inner : Formula} : Formed false inner → Formed false (.negation inner)
  | logical (k : Connective) {operands : List Formula} :
      2 ≤ operands.length → (∀ o ∈ operands, Formed false o) →
      Formed false (.logical k operands)
  | ternary {condition whenTrue whenFalse : Formula} :
      Formed false condition → Formed false whenTrue → Formed false whenFalse →
      Formed false (.ternary condition whenTrue whenFalse)
  | group {inner : Formula} : Formed false inner → Formed false (.group inner)
  | fallback {primary other : Formula} :
      Formed false primary → Formed false other → Formed false (.fallback primary other)

namespace Place

/-- Whether the place is a side of a comparison. -/
def isSide : Place → Bool
  | side => true
  | _ => false

theorem isSide_eq_false_iff (p : Place) : p.isSide = false ↔ p ≤ .negated := by
  cases p <;> decide

end Place

theorem Joined.exists_text (op t : List Char) (ts : List (List Char)) :
    ∃ text, Joined op (t :: ts) text := by
  induction ts generalizing t with
  | nil => exact ⟨t, .one t⟩
  | cons u ts ih =>
    obtain ⟨rest, hrest⟩ := ih u
    exact ⟨_, .cons t .none .none hrest⟩

theorem Arguments.exists_text (ts : List (List Char)) : ∃ inside, Arguments ts inside := by
  cases ts with
  | nil => exact ⟨_, .blank .none⟩
  | cons t ts =>
    obtain ⟨text, htext⟩ := Joined.exists_text [','] t ts
    exact ⟨_, .list .none .none htext⟩

/-- Formulas that have texts one by one have them together. -/
theorem Prints.exists_texts {place : Place} {fs : List Formula}
    (h : ∀ f ∈ fs, ∃ t, Prints place f t) :
    ∃ ps : List (Formula × List Char), ps.map Prod.fst = fs ∧
      ∀ p ∈ ps, Prints place p.1 p.2 := by
  induction fs with
  | nil => exact ⟨[], rfl, by simp⟩
  | cons f fs ih =>
    obtain ⟨t, ht⟩ := h f List.mem_cons_self
    obtain ⟨ps, rfl, hps⟩ := ih fun g hg => h g (List.mem_cons_of_mem _ hg)
    exact ⟨(f, t) :: ps, rfl, List.forall_mem_cons.mpr ⟨ht, hps⟩⟩

namespace Formula.Formed

/-- A formula that is printed at its own place is printed at every place, in parentheses where
it has to be. -/
theorem exists_prints_of_place {f : Formula} (hown : ∀ place ≤ f.place, ∃ t, Prints place f t)
    {place : Place} (hplace : place ≤ .negated) : ∃ t, Prints place f t := by
  by_cases hle : place ≤ f.place
  · exact hown place hle
  · obtain ⟨t, ht⟩ := hown .whole (Nat.zero_le _)
    exact ⟨_, .parentheses hplace .none .none (Nat.lt_of_not_le hle) ht⟩

/-- **Every formula of the grammar has a text**, at every place for it. -/
theorem exists_prints {side : Bool} {f : Formula} (h : Formed side f) {place : Place}
    (hplace : place.isSide = side) : ∃ t, Prints place f t := by
  induction h generalizing place with
  | literal side l => exact ⟨_, .literal place l⟩
  | call helper _ ih =>
    obtain ⟨ps, rfl, hps⟩ := Prints.exists_texts fun a ha => @ih a ha .whole rfl
    obtain ⟨inside, hinside⟩ := Arguments.exists_text (ps.map Prod.snd)
    cases place with
    | side => exact ⟨_, .call helper hps hinside⟩
    | _ => exact Bool.noConfusion hplace
  | comparison op _ _ ihl ihr =>
    rw [Place.isSide_eq_false_iff] at hplace
    obtain ⟨tl, hl⟩ := @ihl .side rfl
    obtain ⟨tr, hr⟩ := @ihr .side rfl
    exact ⟨_, .comparison hplace op .none .none hl hr⟩
  | negation _ ih =>
    rw [Place.isSide_eq_false_iff] at hplace
    obtain ⟨t, ht⟩ := @ih .negated rfl
    exact ⟨_, .negation hplace .none ht⟩
  | logical k hlen _ ih =>
    rw [Place.isSide_eq_false_iff] at hplace
    obtain ⟨ps, rfl, hps⟩ := Prints.exists_texts fun o ho =>
      @ih o ho k.place (by cases k <;> rfl)
    refine exists_prints_of_place ?_ hplace
    intro q hq
    have hk : q ≤ k.place := by cases k <;> exact hq
    rw [List.length_map] at hlen
    obtain ⟨p, qs, rfl⟩ := List.exists_cons_of_length_pos (Nat.lt_of_lt_of_le Nat.zero_lt_two hlen)
    obtain ⟨text, htext⟩ := Joined.exists_text k.symbol p.2 (qs.map Prod.snd)
    exact ⟨text, .logical k hk hlen hps htext⟩
  | ternary _ _ _ ihc iht ihf =>
    rw [Place.isSide_eq_false_iff] at hplace
    obtain ⟨tc, hc⟩ := @ihc .disjunct rfl
    obtain ⟨tt, ht⟩ := @iht .branch rfl
    obtain ⟨tf, hf⟩ := @ihf .branch rfl
    refine exists_prints_of_place ?_ hplace
    intro q hq
    exact ⟨_, .ternary hq .none .none .none .none hc ht hf⟩
  | group _ ih =>
    rw [Place.isSide_eq_false_iff] at hplace
    obtain ⟨t, ht⟩ := @ih .whole rfl
    exact ⟨_, .group hplace .none .none ht⟩
  | @fallback primary other _ _ ihp ihq =>
    rw [Place.isSide_eq_false_iff] at hplace
    obtain ⟨tp, hp⟩ := @ihp .disjunct rfl
    obtain ⟨tq, hq⟩ := @ihq .disjunct rfl
    refine exists_prints_of_place ?_ hplace
    intro q hle
    have hwhole : q ≤ .whole := hle
    obtain rfl : q = .whole := by
      cases q with
      | whole => rfl
      | _ => exact absurd hwhole (by decide)
    exact ⟨_, .fallback .none .none hp hq⟩

end Formula.Formed

end FormLogic
