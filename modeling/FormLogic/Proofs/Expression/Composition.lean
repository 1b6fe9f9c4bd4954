import FormLogic.Proofs.Expression.Equations
import FormLogic.Proofs.Expression.Forms

/-!
# Composing arbitrary texts

The logical forms are compositional: what they make of texts in parentheses depends on nothing
but the values of these texts, and this holds for every balanced text, whatever operators,
quotes and commas stand in it, well formed or not.  The equations also say which operand is
evaluated at which depth, so an operand that is not taken does not matter at all.
-/

namespace FormLogic

open Scan Text

/-! ## 1. Texts in parentheses -/

/-- The text `(cs)`. -/
def parenthesized (cs : List Char) : List Char := '(' :: (cs ++ [')'])

theorem tight_parenthesized (cs : List Char) : Tight (parenthesized cs) :=
  Tight.of_ends (by decide) (by decide) cs

section Padded

variable {cs before after : List Char}

theorem closed_padded (h : Balance.check cs = .ok ()) (hb : Blank before) (ha : Blank after) :
    Closed (before ++ (parenthesized cs ++ after)) :=
  Shape.closed_pad hb (Closed.enclosed .round h) ha

/-- Whatever stands in the parentheses, only the closing one is seen. -/
theorem avoids_padded {chars : List Char} (h : Balance.check cs = .ok ())
    (hchars : Visible chars) (hparen : ')' ∉ chars) (hb : Blank before) (ha : Blank after) :
    Shape.Avoids chars (before ++ (parenthesized cs ++ after)) :=
  Shape.avoids_pad hchars hb (Closed.enclosed .round h).balanced (Shape.Avoids.enclosed .round h hparen) ha

end Padded

section Forms

variable {a b : List Char}

/-- The text `(a) op (b)`. -/
def infixed (op a b : List Char) : List Char :=
  parenthesized a ++ (' ' :: (op ++ (' ' :: parenthesized b)))

theorem infixed_eq (op a b : List Char) :
    infixed op a b
      = ([] ++ (parenthesized a ++ [' '])) ++ (op ++ ([' '] ++ (parenthesized b ++ []))) := by
  simp [infixed]

theorem tight_infixed (op a b : List Char) : Tight (infixed op a b) := by
  have h := (tight_parenthesized a).append (tight_parenthesized b) (' ' :: (op ++ [' ']))
  simpa [infixed] using h

/-- The two pieces at an operator between parentheses. -/
theorem split_infixed {o : Char} {os : List Char} (hop : Plain (o :: os)) (ho : Visible [o])
    (hround : ')' ∉ [o]) (ha : Balance.check a = .ok ()) (hb : Balance.check b = .ok ()) :
    split (o :: os) (infixed (o :: os) a b)
      = [[] ++ (parenthesized a ++ [' ']), [' '] ++ (parenthesized b ++ [])] := by
  rw [infixed_eq, split_append hop (closed_padded ha (by decide) (by decide)).balanced
    (avoids_padded ha ho hround (by decide) (by decide) o (List.mem_singleton_self o)),
    split_of_not_mem
      (avoids_padded hb ho hround (by decide) (by decide) o (List.mem_singleton_self o))]

/-- Other operators are not seen in such a text. -/
theorem avoids_infixed {op chars : List Char} (hop : Plain op) (hno : Shape.Apart chars op)
    (hchars : Visible chars) (hparen : ')' ∉ chars) (ha : Balance.check a = .ok ())
    (hb : Balance.check b = .ok ()) :
    Shape.Avoids chars (infixed op a b) := by
  rw [infixed_eq]
  refine (avoids_padded ha hchars hparen (by decide) (by decide)).append
    (closed_padded ha (by decide) (by decide)) ?_
  exact Shape.Avoids.append (Closed.of_plain hop) (Shape.Avoids.of_plain hop hno)
    (avoids_padded hb hchars hparen (by decide) (by decide))

/-- The text `(a) ? (b) : (c)`. -/
def conditional (a b c : List Char) : List Char :=
  parenthesized a ++
    (' ' :: '?' :: ' ' :: (parenthesized b ++ (' ' :: ':' :: ' ' :: parenthesized c)))

theorem conditional_eq (a b c : List Char) :
    conditional a b c = ([] ++ (parenthesized a ++ [' '])) ++ ('?' ::
      (([' '] ++ (parenthesized b ++ [' '])) ++ (':' :: ([' '] ++ (parenthesized c ++ []))))) := by
  simp [conditional]

theorem tight_conditional (a b c : List Char) : Tight (conditional a b c) := by
  have h := (tight_parenthesized a).append (tight_parenthesized c)
    (' ' :: '?' :: ' ' :: (parenthesized b ++ [' ', ':', ' ']))
  simpa [conditional] using h

end Forms

/-! ## 2. Texts that have a form -/

namespace Evaluator

variable (ev : Evaluator) (depth : Nat) {a b c : List Char}

/-- Above the limit a form and its parts are cut off alike; below it the form is read. -/
theorem eval_form {cs : List Char} {outcome : Evaluation} (htight : Tight cs)
    (hcut : ev.options.maxDepth < depth → outcome = .error (.depthExceeded ev.options.maxDepth))
    (hform : (Shape.ofText cs).evaluate (ev.eval (depth + 1)) (ev.operand (depth + 1))
      (ev.atom (depth + 1)) cs = outcome) :
    ev.eval depth cs = outcome := by
  rw [eval_eq]
  split
  · next hd => exact (hcut hd).symm
  · rw [htight.trim_eq]
    exact hform

theorem eval_parenthesized (h : Balance.check a = .ok ()) :
    ev.eval depth (parenthesized a) = ev.eval (depth + 1) a := by
  refine eval_form ev depth (tight_parenthesized a) ?_ ?_
  · intro hd
    exact eval_of_maxDepth_lt ev (by omega) a
  · rw [parenthesized, Shape.ofText_group h]
    rfl

theorem eval_padded (h : Balance.check a = .ok ()) {before after : List Char}
    (hb : Blank before) (ha : Blank after) :
    ev.eval depth (before ++ (parenthesized a ++ after)) = ev.eval (depth + 1) a := by
  rw [eval_pad ev (tight_parenthesized a) hb ha, eval_parenthesized ev depth h]

/-! ## 3. The forms -/

theorem eval_negation_parenthesized (h : Balance.check a = .ok ()) :
    ev.eval depth ('!' :: parenthesized a)
      = do return some (.bool !(← ev.eval (depth + 1) a).toBoolean) := by
  refine eval_form ev depth (Tight.of_ends (by decide) (by decide) ('(' :: a)) ?_ ?_
  · intro hd
    exact eval_bind_of_maxDepth_lt ev (by omega) _ _
  · have havoids : Shape.Avoids Shape.branching ('!' :: parenthesized a) :=
      Shape.Avoids.append (a := ['!']) (Closed.of_plain (by decide))
        (Shape.Avoids.of_plain (by decide) (by decide)) (Shape.Avoids.enclosed .round h (by decide))
    rw [Shape.ofText_negation havoids (by simp [parenthesized]),
      (tight_parenthesized a).trim_eq, parenthesized, group?_parens h]
    rfl

/-- Of two operands the first decides or leaves it to the second. -/
theorem eval_connective_parenthesized (k : Connective) (ha : Balance.check a = .ok ())
    (hb : Balance.check b = .ok ()) :
    ev.eval depth (infixed k.symbol a b) = (do
      if (← ev.eval (depth + 2) a).toBoolean = k.decisive then
        return some (.bool k.decisive)
      else return some (.bool (← ev.eval (depth + 2) b).toBoolean)) := by
  refine eval_form ev depth (tight_infixed _ a b) ?_ ?_
  · intro hd
    exact eval_bind_of_maxDepth_lt ev (by omega) _ _
  · have hcut : split k.symbol (infixed k.symbol a b)
        = [[] ++ (parenthesized a ++ [' ']), [' '] ++ (parenthesized b ++ [])] := by
      cases k <;> exact split_infixed (by decide) (by decide) (by decide) ha hb
    have havoids : Shape.Avoids (Shape.beforeConnective k) (infixed k.symbol a b) := by
      cases k <;> exact avoids_infixed (by decide) (by decide) (by decide) (by decide) ha hb
    rw [Shape.ofText_connective k havoids (by simp [hcut]), hcut, k.evaluate_shape,
      ← k.outcome_pair, List.map, List.map, List.map,
      eval_padded ev _ ha Blank.nil (by decide), eval_padded ev _ hb (by decide) Blank.nil]

theorem eval_conjunction_parenthesized (ha : Balance.check a = .ok ())
    (hb : Balance.check b = .ok ()) :
    ev.eval depth (infixed ['&', '&'] a b) = (do
      if (← ev.eval (depth + 2) a).toBoolean then
        return some (.bool (← ev.eval (depth + 2) b).toBoolean)
      else return some (.bool false)) := by
  refine (eval_connective_parenthesized ev depth .conjunction ha hb).trans ?_
  cases ev.eval (depth + 2) a with
  | error e => rfl
  | ok v => cases hv : v.toBoolean <;> simp [Connective.decisive, bind, Except.bind, hv]

theorem eval_fallback_parenthesized (ha : Balance.check a = .ok ())
    (hb : Balance.check b = .ok ()) :
    ev.eval depth (infixed ['?', '?'] a b) = do
      let value ← ev.eval (depth + 2) a
      if value.isNullish then ev.eval (depth + 2) b else return value := by
  refine eval_form ev depth (tight_infixed _ a b) ?_ ?_
  · intro hd
    exact eval_bind_of_maxDepth_lt ev (by omega) _ _
  · rw [infixed_eq, Shape.ofText_fallback (closed_padded ha (by decide) (by decide))
      (avoids_padded ha (by decide) (by decide) (by decide) (by decide))
      (avoids_padded hb (by decide) (by decide) (by decide) (by decide))]
    simp only [Shape.evaluate, eval_padded ev _ ha Blank.nil (by decide : Blank [' ']),
      eval_padded ev _ hb (by decide : Blank [' ']) Blank.nil]

theorem eval_ternary_parenthesized (ha : Balance.check a = .ok ())
    (hb : Balance.check b = .ok ()) (hc : Balance.check c = .ok ()) :
    ev.eval depth (conditional a b c) = (do
      if (← ev.eval (depth + 2) a).toBoolean then ev.eval (depth + 2) b
      else ev.eval (depth + 2) c) := by
  refine eval_form ev depth (tight_conditional a b c) ?_ ?_
  · intro hd
    exact eval_bind_of_maxDepth_lt ev (by omega) _ _
  · have hspace : Blank [' '] := by decide
    have hchars : Visible ['?', ':'] := by decide
    have hcondition := avoids_padded ha hchars (by decide) Blank.nil hspace
    have hbranch := avoids_padded hb hchars (by decide) hspace hspace
    have htransparent : Transparent ([' '] ++ (parenthesized b ++ [' '])) :=
      Transparent.of_not_mem (hbranch '?' (by decide)) (hbranch ':' (by decide))
    rw [conditional_eq, Shape.ofText_ternary (closed_padded ha Blank.nil hspace)
      (hcondition '?' (by decide)) (closed_padded hb hspace hspace) htransparent]
    simp only [Shape.evaluate, (tight_parenthesized _).trim_pad Blank.nil hspace,
      (tight_parenthesized _).trim_pad hspace hspace,
      (tight_parenthesized _).trim_pad hspace Blank.nil, eval_parenthesized ev _ ha,
      eval_parenthesized ev _ hb, eval_parenthesized ev _ hc]

/-! ## 4. All forms -/

/-- **The logical forms compose arbitrary texts.**  For balanced texts of any content, the value
of each form in parentheses is told by the values of the texts: an error of an operand that is
evaluated is the result, and an operand that is not taken, even one that nests too deeply, does
not occur in the equation at all. -/
theorem eval_composition (ha : Balance.check a = .ok ()) (hb : Balance.check b = .ok ())
    (hc : Balance.check c = .ok ()) :
    ev.eval depth (parenthesized a) = ev.eval (depth + 1) a ∧
    ev.eval depth ('!' :: parenthesized a)
      = (do return some (.bool !(← ev.eval (depth + 1) a).toBoolean)) ∧
    ev.eval depth (infixed ['&', '&'] a b)
      = (do if (← ev.eval (depth + 2) a).toBoolean then
              return some (.bool (← ev.eval (depth + 2) b).toBoolean)
            else return some (.bool false)) ∧
    ev.eval depth (infixed ['|', '|'] a b)
      = (do if (← ev.eval (depth + 2) a).toBoolean then return some (.bool true)
            else return some (.bool (← ev.eval (depth + 2) b).toBoolean)) ∧
    ev.eval depth (infixed ['?', '?'] a b)
      = (do let value ← ev.eval (depth + 2) a
            if value.isNullish then ev.eval (depth + 2) b else return value) ∧
    ev.eval depth (conditional a b c)
      = (do if (← ev.eval (depth + 2) a).toBoolean then ev.eval (depth + 2) b
            else ev.eval (depth + 2) c) :=
  ⟨eval_parenthesized ev depth ha, eval_negation_parenthesized ev depth ha,
    eval_conjunction_parenthesized ev depth ha hb,
    eval_connective_parenthesized ev depth .disjunction ha hb,
    eval_fallback_parenthesized ev depth ha hb, eval_ternary_parenthesized ev depth ha hb hc⟩

/-- Operators, a colon and a parenthesis in a literal do not disturb the forms around them. -/
theorem eval_ternary_of_unusual_texts :
    Balance.check ['a', ' ', '?', ' ', '"', ')', '"'] = .ok () ∧
    Balance.check [':', '&', '&'] = .ok () ∧ Balance.check ['\'', '\\', '\'', '\''] = .ok () ∧
    (default : Evaluator).eval 0
        (conditional ['a', ' ', '?', ' ', '"', ')', '"'] [':', '&', '&'] ['\'', '\\', '\'', '\''])
      = (do if (← (default : Evaluator).eval 2 ['a', ' ', '?', ' ', '"', ')', '"']).toBoolean then
              (default : Evaluator).eval 2 [':', '&', '&']
            else (default : Evaluator).eval 2 ['\'', '\\', '\'', '\'']) :=
  ⟨rfl, rfl, rfl, (eval_composition default 0 rfl rfl rfl).2.2.2.2.2⟩

end Evaluator
end FormLogic
