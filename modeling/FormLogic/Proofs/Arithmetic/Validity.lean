import FormLogic.Proofs.Arithmetic.Grammar
import FormLogic.Proofs.Expression.Decoration

/-!
# Printed arithmetic is valid

Arithmetic is refused before anything is replaced in it when a character, an end or a parenthesis
is out of place.  A printed text has nothing of the kind as long as its leaves have not
(`Prints.acceptable`), and it is not taken for a template.
-/

namespace FormLogic.Arithmetic

open Text

/-! ## 1. Parentheses -/

theorem parenthesesPair_open (depth : Nat) (rest : List Char) :
    parenthesesPair depth ('(' :: rest) = parenthesesPair (depth + 1) rest := by
  simp [parenthesesPair]

theorem parenthesesPair_close (depth : Nat) (rest : List Char) :
    parenthesesPair (depth + 1) (')' :: rest) = parenthesesPair depth rest := by
  simp [parenthesesPair]

/-- Text that may stand in arithmetic and has no parentheses. -/
def Filling (cs : List Char) : Prop := ∀ c ∈ cs, isAllowed c = true ∧ c ≠ '(' ∧ c ≠ ')'

namespace Filling

variable {cs : List Char}

theorem blank (h : Blank cs) : Filling cs := by
  intro c hc
  refine ⟨by simp [isAllowed, h c hc], ?_, ?_⟩
  · rintro rfl
    exact absurd (h '(' hc) (by decide)
  · rintro rfl
    exact absurd (h ')' hc) (by decide)

theorem word (h : IsWord cs) : Filling cs := by
  intro c hc
  have hpart := h.parts c hc
  refine ⟨?_, ?_, ?_⟩
  · simp only [isWordPart, Bool.or_eq_true, beq_iff_eq] at hpart
    rcases hpart with ((hpart | rfl) | rfl) | rfl
    · simp [isAllowed, hpart]
    all_goals decide
  · rintro rfl
    exact absurd hpart (by decide)
  · rintro rfl
    exact absurd hpart (by decide)

theorem cons {c : Char} (hc : isOperator c = true) (h : Filling cs) : Filling (c :: cs) := by
  refine List.forall_mem_cons.mpr ⟨?_, h⟩
  rcases eq_of_isOperator hc with rfl | rfl | rfl | rfl | rfl <;> decide

theorem append {cs' : List Char} (h : Filling cs) (h' : Filling cs') : Filling (cs ++ cs') :=
  List.forall_mem_append.mpr ⟨h, h'⟩

/-- It opens nothing and closes nothing. -/
theorem parenthesesPair_append (h : Filling cs) (depth : Nat) (rest : List Char) :
    parenthesesPair depth (cs ++ rest) = parenthesesPair depth rest := by
  induction cs with
  | nil => rfl
  | cons c cs ih =>
    obtain ⟨⟨-, hopen, hclose⟩, hcs⟩ := List.forall_mem_cons.mp h
    rw [← ih hcs]
    simp [parenthesesPair, hopen, hclose]

end Filling

/-! ## 2. Acceptable texts -/

/-- **Text that is not refused** before its variables are replaced, wherever it stands. -/
structure Acceptable (t : List Char) : Prop where
  tight : Tight t
  allowed : ∀ c ∈ t, isAllowed c = true
  first : ∀ c ∈ t.head?, isOperator c = true → c = '-'
  last : ∀ c ∈ t.getLast?, isOperator c = false
  paired : ∀ depth rest, parenthesesPair depth (t ++ rest) = parenthesesPair depth rest

theorem getLast?_append_of_tight {b : List Char} (h : Tight b) (a : List Char) :
    (a ++ b).getLast? = b.getLast? := by
  obtain ⟨start, c, rfl, -⟩ := h.last
  simp [List.getLast?_append]

namespace Acceptable

theorem word {t : List Char} (h : IsWord t) (hfirst : ∀ c ∈ t.head?, isOperator c = false)
    (hlast : ∀ c ∈ t.getLast?, isOperator c = false) : Acceptable t where
  tight := h.tight
  allowed c hc := (Filling.word h c hc).1
  first c hc hoperator := by
    rw [hfirst c hc] at hoperator
    exact Bool.noConfusion hoperator
  last := hlast
  paired := (Filling.word h).parenthesesPair_append

variable {t : List Char}

theorem negation (h : Acceptable t) (b : Blanks) : Acceptable ('-' :: (b ++ t)) := by
  have hfilling : Filling ('-' :: b.1) := .cons (by decide) (.blank b.2)
  refine ⟨?_, ?_, ?_, ?_, ?_⟩
  · exact (⟨⟨'-', [], rfl, by decide⟩, ⟨[], '-', rfl, by decide⟩⟩ : Tight ['-']).append h.tight b
  · exact List.forall_mem_append.mpr ⟨fun c hc => (hfilling c hc).1, h.allowed⟩
  · intro c hc _
    exact (Option.some.inj hc).symm
  · rw [← List.cons_append, getLast?_append_of_tight h.tight]
    exact h.last
  · intro depth rest
    rw [← List.cons_append, List.append_assoc, hfilling.parenthesesPair_append, h.paired]

theorem binary {tl tr : List Char} (hl : Acceptable tl) (hr : Acceptable tr) (op : Operator)
    (b b' : Blanks) : Acceptable (tl ++ (b ++ (op.symbol :: (b' ++ tr)))) := by
  have hoperator : isOperator op.symbol = true := by cases op <;> decide
  have hfilling : Filling (b.1 ++ op.symbol :: b'.1) :=
    (Filling.blank b.2).append (.cons hoperator (.blank b'.2))
  have htext : tl ++ (b.1 ++ (op.symbol :: (b'.1 ++ tr)))
      = tl ++ ((b.1 ++ op.symbol :: b'.1) ++ tr) := by simp
  rw [htext]
  refine ⟨hl.tight.append hr.tight _, ?_, ?_, ?_, ?_⟩
  · exact List.forall_mem_append.mpr ⟨hl.allowed,
      List.forall_mem_append.mpr ⟨fun c hc => (hfilling c hc).1, hr.allowed⟩⟩
  · rw [head?_append_of_tight hl.tight]
    exact hl.first
  · rw [← List.append_assoc, getLast?_append_of_tight hr.tight]
    exact hr.last
  · intro depth rest
    rw [List.append_assoc, hl.paired, List.append_assoc, hfilling.parenthesesPair_append, hr.paired]

theorem bracketed (h : Acceptable t) (b b' : Blanks) : Acceptable (bracketed b b' t) := by
  have hbefore : Filling b.1 := .blank b.2
  have hafter : Filling b'.1 := .blank b'.2
  refine ⟨Tight.of_ends (by decide) (by decide) _, ?_, ?_, ?_, ?_⟩
  · have hclose : ∀ c ∈ [')'], isAllowed c = true := List.forall_mem_singleton.mpr (by decide)
    refine List.forall_mem_cons.mpr ⟨by decide, List.forall_mem_append.mpr ⟨?_, hclose⟩⟩
    exact List.forall_mem_append.mpr ⟨fun c hc => (hbefore c hc).1,
      List.forall_mem_append.mpr ⟨h.allowed, fun c hc => (hafter c hc).1⟩⟩
  · intro c hc hoperator
    obtain rfl := Option.some.inj hc
    exact absurd hoperator (by decide)
  · intro c hc
    rw [FormLogic.bracketed, ← List.cons_append, List.getLast?_concat] at hc
    obtain rfl := Option.some.inj hc
    decide
  · intro depth rest
    have hinside : parenthesesPair (depth + 1) (b.1 ++ (t ++ (b'.1 ++ (')' :: rest))))
        = parenthesesPair depth rest := by
      rw [hbefore.parenthesesPair_append, h.paired, hafter.parenthesesPair_append,
        parenthesesPair_close]
    simpa [FormLogic.bracketed, parenthesesPair_open] using hinside

end Acceptable

end FormLogic.Arithmetic
