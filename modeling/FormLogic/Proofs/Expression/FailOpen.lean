import FormLogic.Proofs.Expression.Decoration
import FormLogic.Proofs.Expression.Precedence

/-!
# Failing open

A form shows the field and accepts the value when nothing is left of an expression without its
decorations, or when that cannot be evaluated; otherwise the value decides.  `failsOpen_iff` says
exactly where this fails.

* The question whether there is an expression at all comes before the template is taken off.  So a
  template around nothing counts as an expression, of undefined value, and hides the field.
* One template is taken off, and no second one.  The marks of a template in a template are read as
  text of the expression, and as a rule they make the name of a variable out of it.
-/

namespace FormLogic

open Scan Text

/-! ## 1. What a form makes of an outcome -/

namespace Validation

/-- How the result of a validation expression is read. -/
def ofResolved : Resolved → Validation
  | some (.string text) => if text.isEmpty then .ofBool false else .message text
  | r => .ofBool r.toBoolean

theorem ofBool_ne_message (b : Bool) (text : String) : ofBool b ≠ message text := by
  cases b <;> exact nofun

theorem ofResolved_eq_message_iff {r : Resolved} {text : String} :
    ofResolved r = message text ↔ r = some (.string text) ∧ text ≠ "" := by
  unfold ofResolved
  split
  · next s =>
    by_cases hs : s = ""
    · subst hs
      simp [ofBool_ne_message]
    · have hkept : s = text → text ≠ "" := by
        rintro rfl
        exact hs
      simpa [hs] using hkept
  · next hno =>
    simpa [ofBool_ne_message] using fun h => absurd h (hno text)

/-- What is no message is read as a truth. -/
theorem ofResolved_eq_ofBool {r : Resolved} (h : ∀ text, ofResolved r ≠ message text) :
    ofResolved r = ofBool r.toBoolean := by
  revert h
  unfold ofResolved
  split
  · next s =>
    intro h
    by_cases hs : s = ""
    · subst hs
      rfl
    · exact absurd (if_neg (by simpa using hs)) (h s)
  · exact fun _ => rfl

/-- A verdict is the reading of a result when it is a message for just the texts that are not
empty, and the truth of the result when it is no message. -/
theorem eq_ofResolved_iff {verdict : Validation} {r : Resolved} :
    verdict = ofResolved r ↔
      (∀ text, verdict = message text ↔ r = some (.string text) ∧ text ≠ "") ∧
      ((∀ text, verdict ≠ message text) → verdict = ofBool r.toBoolean) := by
  constructor
  · rintro rfl
    exact ⟨fun _ => ofResolved_eq_message_iff, ofResolved_eq_ofBool⟩
  · rintro ⟨hmessage, htruth⟩
    by_cases h : ∃ text, ofResolved r = message text
    · obtain ⟨text, htext⟩ := h
      rw [htext, (hmessage text).mpr (ofResolved_eq_message_iff.mp htext)]
    · have hno : ∀ text, ofResolved r ≠ message text := not_exists.mp h
      have hother : ∀ text, verdict ≠ message text := fun text hverdict =>
        hno text (ofResolved_eq_message_iff.mpr ((hmessage text).mp hverdict))
      rw [htruth hother, ofResolved_eq_ofBool hno]

end Validation

/-- **What a form makes of an outcome**: whether it shows the field, and its verdict on the
value. -/
def Evaluation.answers : Evaluation → Bool × Validation
  | .error _ => (true, .valid)
  | .ok r => (r.toBoolean, .ofResolved r)

/-! ## 2. The marks of a template as text -/

section Marks

variable {inside : List Char}

theorem Text.plain_templateStart : Plain templateStart := by decide

theorem Text.plain_templateEnd : Plain ['\x7d'] := by decide

theorem Text.getLast?_templated_ne {c : Char} (hc : c ≠ '\x7d') (inside : List Char) :
    (templated inside).getLast? ≠ some c := by
  rw [templated, ← List.append_assoc, List.getLast?_concat]
  intro hlast
  exact hc (Option.some.inj hlast).symm

theorem Text.head?_templated_ne {c : Char} (hc : c ≠ '$') (inside : List Char) :
    (templated inside).head? ≠ some c := by
  intro hhead
  exact hc (Option.some.inj hhead).symm

/-- The marks are no brackets to the scanner. -/
theorem Scan.balanced_templated_iff :
    Balance.check (templated inside) = .ok () ↔ Balance.check inside = .ok () := by
  refine ⟨balanced_of_plain_around plain_templateStart plain_templateEnd, fun h => ?_⟩
  exact (Closed.of_plain plain_templateStart).balanced_append
    (balanced_append h (Closed.of_plain plain_templateEnd).balanced
      (unquoted_of_plain plain_templateEnd))

/-- Nor are they operators, so a text without any is an operand with its marks, too. -/
theorem Shape.ofText_templated (h : Balance.check inside = .ok ())
    (havoids : Avoids (branching ++ comparing) inside) :
    ofText (templated inside) = .operand := by
  have hend : Avoids (branching ++ comparing) (inside ++ ['\x7d']) :=
    havoids.append_of_unquoted h (unquoted_of_plain plain_templateEnd)
      (Avoids.of_plain plain_templateEnd (by decide))
  have hmarked : Avoids (branching ++ comparing) (templated inside) :=
    Avoids.append (Closed.of_plain plain_templateStart)
      (Avoids.of_plain plain_templateStart (by decide)) hend
  exact ofText_operand hmarked (head?_templated_ne (by decide) inside)
    (head?_templated_ne (by decide) inside) (getLast?_templated_ne (by decide) inside)
    (getLast?_templated_ne (by decide) inside)

/-- No literal begins or ends with a mark. -/
theorem Atom.ofText_templated (inside : List Char) : ofText (templated inside) = .path := by
  have hdollar : '$' ∈ templated inside := List.mem_append_left _ List.mem_cons_self
  have hquoted : quoted? (templated inside) = none :=
    quoted?_of_getLast?_ne (getLast?_templated_ne (by decide) inside)
      (getLast?_templated_ne (by decide) inside)
  rw [ofText_of_mem (by decide : isWordPart '$' = false) hdollar hquoted,
    bracketed?_of_head?_ne (head?_templated_ne (by decide) inside)]

/-- **The marks make a variable of a text without operators**, named by the text with its
marks. -/
theorem Evaluator.eval_templated (ev : Evaluator) (hdepth : 0 < ev.options.maxDepth)
    (h : Balance.check inside = .ok ())
    (havoids : Shape.Avoids (Shape.branching ++ Shape.comparing) inside) :
    ev.eval 0 (templated inside) = .ok (ev.context.resolve? (templated inside)) := by
  have htrim := (tight_templated inside).trim_eq
  have hcall : Call.ofText? (templated inside) = none :=
    Call.ofText?_of_getLast?_ne (getLast?_templated_ne (by decide) inside)
  rw [ev.eval_name hdepth (by rw [htrim, Shape.ofText_templated h havoids])
    (by rw [htrim, hcall]) (by rw [htrim, Atom.ofText_templated]), htrim]

end Marks

/-! ## 3. What a form asks -/

namespace Evaluator

variable (ev : Evaluator) {e : String}

/-- What stands in the statement that an expression is, or the expression itself. -/
def statementOf (e : String) : List Char := stripStatement e.toList

/-- What is left of an expression without its statement and its template. -/
def bodyOf (e : String) : List Char := stripTemplate (statementOf e)

/-- What stands in a template is evaluated as soon as it is balanced and there is anything. -/
theorem tryEvaluate_of_balanced (h : Balance.check (stripTemplate e.toList) = .ok ()) :
    ev.tryEvaluate e = if stripTemplate e.toList = [] then .ok none
      else ev.eval 0 (stripTemplate e.toList) := by
  simp only [tryEvaluate, h, List.isEmpty_iff]

theorem answers_of_not_balanced (h : Balance.check (stripTemplate e.toList) ≠ .ok ()) :
    (ev.tryEvaluate e).answers = (true, .valid) := by
  have hne : stripTemplate e.toList ≠ [] := by
    intro hnil
    rw [hnil] at h
    exact h rfl
  cases hcheck : Balance.check (stripTemplate e.toList) with
  | error fault => simp [tryEvaluate, hne, hcheck, Evaluation.answers]
  | ok u => exact absurd hcheck h

theorem modes_of_empty (h : statementOf e = []) :
    ev.visibility e = true ∧ ev.validation e = .valid := by
  rw [statementOf] at h
  simp [visibility, validation, h]

/-- **Visibility and validation are answers to one evaluation**, of what is left of the expression
without its statement. -/
theorem modes_eq (h : statementOf e ≠ []) :
    (ev.visibility e, ev.validation e)
      = (ev.tryEvaluate (String.ofList (statementOf e))).answers := by
  rw [statementOf] at h ⊢
  rw [visibility, validation, if_neg (by simpa using h), if_neg (by simpa using h)]
  cases ev.tryEvaluate (String.ofList (stripStatement e.toList)) with
  | error error => rfl
  | ok r =>
    rcases r with _ | v
    · rfl
    · cases v <;> rfl

theorem statementOf_ne_nil (h : bodyOf e ≠ []) : statementOf e ≠ [] := by
  intro hnil
  exact h (by rw [bodyOf, hnil]; rfl)

/-! ## 4. Failing open -/

/-- **The expression fails open.**  When nothing is left of it without its decorations, or what is
left cannot be evaluated, it neither hides the field nor blocks the value.  Otherwise its value
decides, and a text that is not empty is the message to show. -/
structure FailsOpen (e : String) : Prop where
  failing :
    bodyOf e = [] ∨ (∃ error, ev.tryEvaluate (String.ofList (bodyOf e)) = .error error) →
    ev.visibility e = true ∧ ev.validation e = .valid
  deciding : ∀ v, bodyOf e ≠ [] → ev.tryEvaluate (String.ofList (bodyOf e)) = .ok v →
    ev.visibility e = v.toBoolean ∧
    (∀ text, ev.validation e = .message text ↔ v = some (.string text) ∧ text ≠ "") ∧
    ((∀ text, ev.validation e ≠ .message text) → ev.validation e = .ofBool v.toBoolean)

/-- Where there is a body, the form's answers are to be those to its evaluation. -/
theorem failsOpen_iff_answers (h : bodyOf e ≠ []) :
    ev.FailsOpen e ↔ (ev.visibility e, ev.validation e)
      = (ev.tryEvaluate (String.ofList (bodyOf e))).answers := by
  cases houtcome : ev.tryEvaluate (String.ofList (bodyOf e)) with
  | error error =>
    rw [Evaluation.answers, Prod.mk.injEq]
    constructor
    · intro hopen
      exact hopen.failing (.inr ⟨error, houtcome⟩)
    · intro hmodes
      refine ⟨fun _ => hmodes, fun v _ hv => ?_⟩
      rw [houtcome] at hv
      cases hv
  | ok r =>
    rw [Evaluation.answers, Prod.mk.injEq, Validation.eq_ofResolved_iff]
    constructor
    · intro hopen
      exact hopen.deciding r h houtcome
    · intro hmodes
      refine ⟨?_, fun v _ hv => ?_⟩
      · rintro (hempty | ⟨error, herror⟩)
        · exact absurd hempty h
        · rw [houtcome] at herror
          cases herror
      · rw [houtcome] at hv
        obtain rfl := Except.ok.inj hv
        exact hmodes

/-- Where there is no body, there must be no statement either. -/
theorem failsOpen_iff_of_empty (h : bodyOf e = []) : ev.FailsOpen e ↔ statementOf e = [] := by
  constructor
  · intro hopen
    refine Decidable.byContradiction fun hne => ?_
    -- a statement that is there and nothing in it has the value undefined
    have hvalue : ev.tryEvaluate (String.ofList (statementOf e)) = .ok none := by
      rw [bodyOf] at h
      simp [tryEvaluate, h]
    have hmodes := ev.modes_eq hne
    rw [hvalue, (hopen.failing (.inl h)).1] at hmodes
    exact Bool.false_ne_true (Prod.mk.inj hmodes).1.symm
  · intro hempty
    exact ⟨fun _ => ev.modes_of_empty hempty, fun _ hne => absurd h hne⟩

/-- A body that is no template is what is evaluated. -/
theorem failsOpen_of_ne_templated (h : bodyOf e ≠ [])
    (hbody : ∀ inside, bodyOf e ≠ templated inside) : ev.FailsOpen e := by
  have htrim : trim (bodyOf e) = bodyOf e := trim_stripTemplate _
  have hstrip : stripTemplate (bodyOf e) = bodyOf e := by
    rw [stripTemplate_of_ne_templated (by rwa [htrim]), htrim]
  rw [ev.failsOpen_iff_answers h, ev.modes_eq (statementOf_ne_nil h)]
  refine congrArg Evaluation.answers (ev.tryEvaluate_congr ?_)
  rw [String.toList_ofList, String.toList_ofList, hstrip, bodyOf]

/-- **A template in a template** fails open just when its marks, which stay in the text that is
evaluated, make no difference to the form. -/
theorem failsOpen_iff_of_templated {inside : List Char} (h : bodyOf e = templated inside) :
    ev.FailsOpen e ↔ (Balance.check inside = .ok () →
      (ev.eval 0 (templated inside)).answers
        = Evaluation.answers (if Blank inside then .ok none else ev.eval 0 inside)) := by
  have hthere : templated inside ≠ [] := (tight_templated inside).ne_nil
  have hne : bodyOf e ≠ [] := by rwa [h]
  have houter : stripTemplate (String.ofList (statementOf e)).toList = templated inside := by
    rw [String.toList_ofList, ← bodyOf, h]
  have hinner : stripTemplate (String.ofList (bodyOf e)).toList = trim inside := by
    rw [String.toList_ofList, h, stripTemplate_templated]
  rw [ev.failsOpen_iff_answers hne, ev.modes_eq (statementOf_ne_nil hne)]
  by_cases hbalanced : Balance.check inside = .ok ()
  · rw [ev.tryEvaluate_of_balanced (by rwa [houter, balanced_templated_iff]), houter,
      if_neg hthere, ev.tryEvaluate_of_balanced (by rwa [hinner, Shape.balanced_trim_iff]), hinner,
      ev.eval_eq_of_trim_eq (trim_trim inside)]
    simp only [trim_eq_nil_iff, hbalanced, forall_const]
  · rw [ev.answers_of_not_balanced (by rwa [houter, ne_eq, balanced_templated_iff]),
      ev.answers_of_not_balanced (by rwa [hinner, ne_eq, Shape.balanced_trim_iff])]
    simp only [hbalanced, false_implies]

/-- **Expressions fail open, except for two kinds of templates.**  An expression whose body is empty
must be an empty statement, and not a template around nothing.  An expression whose body is a
template again must get the same answers with and without the marks of this one; where what it
encloses has no operator, the text with its marks is the name of a variable. -/
theorem failsOpen_iff (e : String) :
    (ev.FailsOpen e ↔
      (bodyOf e = [] → statementOf e = []) ∧
      ∀ inside, bodyOf e = templated inside → Balance.check inside = .ok () →
        (ev.eval 0 (templated inside)).answers
          = Evaluation.answers (if Blank inside then .ok none else ev.eval 0 inside)) ∧
    ∀ inside, 0 < ev.options.maxDepth → Balance.check inside = .ok () →
      Shape.Avoids (Shape.branching ++ Shape.comparing) inside →
      ev.eval 0 (templated inside) = .ok (ev.context.resolve? (templated inside)) := by
  refine ⟨?_, fun inside hdepth h havoids => ev.eval_templated hdepth h havoids⟩
  by_cases hempty : bodyOf e = []
  · have hno : ∀ inside, bodyOf e ≠ templated inside := fun inside h =>
      (tight_templated inside).ne_nil (h.symm.trans hempty)
    rw [ev.failsOpen_iff_of_empty hempty]
    exact ⟨fun h => ⟨fun _ => h, fun inside hinside => absurd hinside (hno inside)⟩,
      fun h => h.1 hempty⟩
  by_cases htemplate : ∃ inside, bodyOf e = templated inside
  · obtain ⟨inside, hinside⟩ := htemplate
    rw [ev.failsOpen_iff_of_templated hinside]
    constructor
    · intro h
      refine ⟨fun hnil => absurd hnil hempty, fun other hother => ?_⟩
      obtain rfl : inside = other :=
        List.append_cancel_right (List.append_cancel_left (hinside.symm.trans hother))
      exact h
    · intro h
      exact h.2 inside hinside
  · have hno : ∀ inside, bodyOf e ≠ templated inside := not_exists.mp htemplate
    exact ⟨fun _ => ⟨fun hnil => absurd hnil hempty, fun inside h => absurd h (hno inside)⟩,
      fun _ => ev.failsOpen_of_ne_templated hempty hno⟩

/-- A template around nothing hides the field, and so does a template in a template, although what
stands in it is true. -/
theorem not_failsOpen_of_templates :
    ¬ (default : Evaluator).FailsOpen "$\x7b\x7d" ∧
    ¬ (default : Evaluator).FailsOpen "$\x7b$\x7btrue\x7d\x7d" := by
  constructor
  · intro hopen
    have hstatement := (failsOpen_iff_of_empty default rfl).mp hopen
    exact absurd hstatement (by decide)
  · intro hopen
    have hbody : bodyOf "$\x7b$\x7btrue\x7d\x7d" = templated (Literal.bool true).text := rfl
    have hsame := (failsOpen_iff_of_templated default hbody).mp hopen rfl
    have hmarked : (default : Evaluator).eval 0 (templated (Literal.bool true).text) = .ok none :=
      eval_templated default (by decide) rfl (by decide)
    have hinside : (default : Evaluator).eval 0 (Literal.bool true).text
        = .ok (some (.bool true)) :=
      eval_literal default (Nat.zero_le _) (Literal.bool true) (by decide)
    rw [hmarked, if_neg (by decide), hinside] at hsame
    exact absurd hsame (by decide)

end Evaluator

end FormLogic
