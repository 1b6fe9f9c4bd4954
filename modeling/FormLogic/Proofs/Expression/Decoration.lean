import FormLogic.Expression.Mode
import FormLogic.Proofs.Expression.Contiguous
import FormLogic.Proofs.Text.Trim

/-!
# Decorated expressions

A form writes an expression bare, as a template `${ ... }` or as a statement `return ...;`.  A
template is asked about what stands in it, by every entry point (`answers_of_template`).
-/

namespace FormLogic

/-! ## 1. Taking decorations off -/

namespace Text

theorem dropLast?_eq_none {c : Char} {cs : List Char} (h : cs.getLast? ≠ some c) :
    dropLast? c cs = none := if_neg h

/-- What a template begins with. -/
def templateStart : List Char := ['$', '\x7b']

/-- What a statement begins with. -/
def statementStart : List Char := ['r', 'e', 't', 'u', 'r', 'n', ' ']

theorem stripTemplate_eq (cs : List Char) :
    stripTemplate cs =
      match (dropPrefix? templateStart (trim cs)).bind (dropLast? '\x7d') with
      | some inside => trim inside
      | none => trim cs := rfl

theorem stripStatement_of_bare {cs : List Char} (hreturn : ¬ statementStart <+: trim cs)
    (hsemicolon : (trim cs).getLast? ≠ some ';') : stripStatement cs = trim cs := by
  have hdrop : dropPrefix? ['r', 'e', 't', 'u', 'r', 'n', ' '] (trim cs) = none :=
    dropPrefix?_eq_none hreturn
  simp only [stripStatement, hdrop, dropLast?_eq_none hsemicolon]

/-- The text as a template. -/
def templated (cs : List Char) : List Char := templateStart ++ (cs ++ ['\x7d'])

theorem tight_templated (cs : List Char) : Tight (templated cs) :=
  Tight.of_ends (by decide) (by decide) ('\x7b' :: cs)

/-- **A template is what stands in it**, trimmed. -/
theorem stripTemplate_templated (cs : List Char) : stripTemplate (templated cs) = trim cs := by
  rw [stripTemplate_eq, (tight_templated cs).trim_eq, templated, dropPrefix?_append,
    Option.bind_some, dropLast?_eq_some_iff.mpr rfl]

/-- Nothing but a template has marks to take off. -/
theorem stripTemplate_of_ne_templated {cs : List Char} (h : ∀ inside, trim cs ≠ templated inside) :
    stripTemplate cs = trim cs := by
  have hnone : (dropPrefix? templateStart (trim cs)).bind (dropLast? '\x7d') = none := by
    rw [Option.eq_none_iff_forall_ne_some]
    intro inside hinside
    obtain ⟨rest, hrest, hlast⟩ := Option.bind_eq_some_iff.mp hinside
    refine h inside ?_
    rw [eq_append_of_dropPrefix? hrest, dropLast?_eq_some_iff.mp hlast, templated]
  rw [stripTemplate_eq, hnone]

theorem stripTemplate_of_bare {cs : List Char} (h : ¬ templateStart <+: trim cs) :
    stripTemplate cs = trim cs :=
  stripTemplate_of_ne_templated fun inside hinside => h ⟨inside ++ ['\x7d'], hinside.symm⟩

/-- What is left is trimmed already. -/
theorem trim_stripTemplate (cs : List Char) : trim (stripTemplate cs) = stripTemplate cs := by
  rw [stripTemplate_eq]
  split <;> exact trim_trim _

/-- A template is no statement. -/
theorem stripStatement_templated (cs : List Char) : stripStatement (templated cs) = templated cs := by
  have hreturn : ¬ statementStart <+: templated cs := by
    rintro ⟨rest, hrest⟩
    exact absurd (List.cons.inj hrest).1 (by decide)
  have hsemicolon : (templated cs).getLast? ≠ some ';' := by
    rw [templated, ← List.append_assoc, List.getLast?_concat]
    decide
  have htrim := (tight_templated cs).trim_eq
  rw [← htrim] at hreturn hsemicolon
  rw [stripStatement_of_bare hreturn hsemicolon, htrim]

end Text

open Text

namespace Evaluator

variable (ev : Evaluator)

/-! ## 2. Templates -/

/-- What `tryEvaluate` reads of an expression is the text without its template. -/
theorem tryEvaluate_congr {e e' : String} (h : stripTemplate e.toList = stripTemplate e'.toList) :
    ev.tryEvaluate e = ev.tryEvaluate e' := by
  simp only [tryEvaluate, h]

theorem arithmetic_congr {e e' : String} (h : stripTemplate e.toList = stripTemplate e'.toList) :
    ev.arithmetic e = ev.arithmetic e' := by
  simp only [arithmetic, h]

/-- **Templates are transparent.**  An expression that is no template itself has the same answers
in a template as without, errors included.  The three uses by a form, which take a statement's
decoration off before the template, agree as long as the expression is there and is no
statement. -/
theorem answers_of_template (e : String) (he : ¬ templateStart <+: trim e.toList) :
    let template := "$\x7b" ++ e ++ "\x7d"
    ev.tryEvaluate template = ev.tryEvaluate e ∧
    ev.evaluate template = ev.evaluate e ∧
    ev.evaluateBoolean template = ev.evaluateBoolean e ∧
    ev.arithmetic template = ev.arithmetic e ∧
    (trim e.toList ≠ [] → ¬ statementStart <+: trim e.toList →
      (trim e.toList).getLast? ≠ some ';' →
      ev.visibility template = ev.visibility e ∧
      ev.validation template = ev.validation e ∧
      ev.calculation template = ev.calculation e) := by
  intro template
  have htemplate : template.toList = templated e.toList := by
    simp [template, templated, templateStart]
  have hstrip : stripTemplate template.toList = stripTemplate e.toList := by
    rw [htemplate, stripTemplate_templated, stripTemplate_of_bare he]
  have htry := ev.tryEvaluate_congr hstrip
  refine ⟨htry, ?_, ?_, ev.arithmetic_congr hstrip, ?_⟩
  · rw [evaluate, htry, evaluate]
  · rw [evaluateBoolean, htry, evaluateBoolean]
  · intro hne hreturn hsemicolon
    have houter : stripStatement template.toList = templated e.toList := by
      rw [htemplate, stripStatement_templated]
    have hinner : stripStatement e.toList = trim e.toList :=
      stripStatement_of_bare hreturn hsemicolon
    have hbare : stripTemplate (trim e.toList) = trim e.toList := by
      rw [stripTemplate_of_bare (by rwa [trim_trim]), trim_trim]
    -- both are asked about a text that is there, and it is the same text
    have hmode : ev.tryEvaluate (String.ofList (templated e.toList))
        = ev.tryEvaluate (String.ofList (trim e.toList)) :=
      ev.tryEvaluate_congr <| by
        rw [String.toList_ofList, String.toList_ofList, stripTemplate_templated, hbare]
    have hthere : (templated e.toList).isEmpty = false := rfl
    have hthere' : (trim e.toList).isEmpty = false := by simpa using hne
    refine ⟨?_, ?_, ?_⟩
    · simp only [visibility, houter, hinner, hthere, hthere', hmode]
    · simp only [validation, houter, hinner, hthere, hthere', hmode]
    · have hblank : template.toList.all isBlank = false := by
        rw [htemplate]
        rfl
      have hblank' : e.toList.all isBlank = false := by
        rw [Bool.eq_false_iff]
        intro hall
        exact hne (trim_of_blank (List.all_eq_true.mp hall))
      simp only [calculation, houter, hinner, hblank, hblank', stripTemplate_templated, hbare]

/-- A template around a comparison with a no-break space in it. -/
theorem answers_of_templated_comparison :
    let ev : Evaluator := default
    let e := " amount\u00a0!= 500"
    ¬ templateStart <+: trim e.toList ∧ trim e.toList ≠ [] ∧
    ¬ statementStart <+: trim e.toList ∧ (trim e.toList).getLast? ≠ some ';' ∧
    ev.tryEvaluate ("$\x7b" ++ e ++ "\x7d") = ev.tryEvaluate e ∧
    ev.validation ("$\x7b" ++ e ++ "\x7d") = ev.validation e := by
  have hbare : ¬ templateStart <+: trim " amount\u00a0!= 500".toList := by decide
  have hne : trim " amount\u00a0!= 500".toList ≠ [] := by decide
  have hreturn : ¬ statementStart <+: trim " amount\u00a0!= 500".toList := by decide
  have hsemicolon : (trim " amount\u00a0!= 500".toList).getLast? ≠ some ';' := by decide
  obtain ⟨htry, -, -, -, hmodes⟩ := answers_of_template default " amount\u00a0!= 500" hbare
  exact ⟨hbare, hne, hreturn, hsemicolon, htry, (hmodes hne hreturn hsemicolon).2.1⟩

end Evaluator

end FormLogic
