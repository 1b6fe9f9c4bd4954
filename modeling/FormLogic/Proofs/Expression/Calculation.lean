import FormLogic.Proofs.Arithmetic.Substitution
import FormLogic.Proofs.Expression.Call
import FormLogic.Proofs.Expression.Composition
import FormLogic.Proofs.Expression.Dependency
import FormLogic.Proofs.Expression.GridCall
import FormLogic.Proofs.Expression.Heredity

/-!
# Calls in calculated fields

Whether a calculated field is arithmetic is decided by its characters, before the grammar is asked.
A call has the characters of arithmetic when its arguments have, and it is taken for arithmetic as
soon as one of these characters is an operator.  But arithmetic has no calls: a name before
parentheses is one literal, which is no number, so the call stands for zero, whatever its helper
would say (`arithmetic_spacedText`).  Every other call is left to the grammar, and the field holds
what it is evaluated to (`calculation_of_call`).
-/

namespace FormLogic

open Scan Text

/-! ## 1. Replacing variables in parentheses -/

namespace Arithmetic

/-- **Cutters inside parentheses pass over the text**, whatever operators are in it. -/
def Enclosable (t : List Char) : Prop :=
  ∀ (cuts : List Char → Char → Bool) (depth : Int) (before : List Char), 0 < depth →
    Passes cuts depth before t

namespace Enclosable

variable {t u : List Char}

theorem append (ht : Enclosable t) (hu : Enclosable u) : Enclosable (t ++ u) :=
  fun cuts depth before hdepth =>
    (ht cuts depth before hdepth).append (hu cuts depth (t.reverse ++ before) hdepth)

theorem of_no_parens (hopen : '(' ∉ t) (hclose : ')' ∉ t) : Enclosable t :=
  fun _ _ _ hdepth => Passes.of_forall hopen hclose (.inl (Int.ne_of_gt hdepth))

theorem parenthesized (h : Enclosable t) : Enclosable (parenthesized t) :=
  fun cuts depth before hdepth => Passes.parens (h cuts (depth + 1) ('(' :: before) (by omega))

theorem operandText (n : Binary64) : Enclosable (operandText n) :=
  fun _ _ _ hdepth => (stands_operandText n).isOperand.passes (.inl hdepth)

end Enclosable

section Substitute

variable (resolve : List Char → Resolved)

/-- A token that is written to its end is replaced by text that can stand in parentheses. -/
theorem exists_substitute_of_token {token : List Char} (htoken : ∀ c ∈ token, isTokenPart c = true)
    {rest : List Char} (hrest : EndsToken rest) :
    ∃ u, Enclosable u ∧ substitute resolve (token ++ rest) = u ++ substitute resolve rest := by
  have hno : ∀ {c}, isTokenPart c = false → c ∉ token := by
    intro c hc hm
    rw [htoken c hm] at hc
    exact Bool.noConfusion hc
  have hkept : Enclosable token := .of_no_parens (hno (by decide)) (hno (by decide))
  cases token with
  | nil => exact ⟨[], hkept, rfl⟩
  | cons c cs =>
    refine ⟨_, ?_, substitute_token htoken hrest⟩
    unfold tokenText
    split
    · exact hkept
    · exact .operandText _

/-- **Replacing the variables of balanced text** leaves its parentheses where they are.  `token` is
the beginning of a token that the text may go on with. -/
theorem exists_substitute_of_balanced {escaped : Bool} {cs : List Char} (h : Balanced escaped cs)
    (hallowed : ∀ c ∈ cs, isAllowed c = true) {token : List Char}
    (htoken : ∀ c ∈ token, isTokenPart c = true) {rest : List Char} (hrest : EndsToken rest) :
    ∃ u, Enclosable u ∧
      substitute resolve (token ++ (cs ++ rest)) = u ++ substitute resolve rest := by
  have hnone : ∀ c ∈ ([] : List Char), isTokenPart c = true := List.forall_mem_nil _
  induction h generalizing token rest with
  | empty => exact exists_substitute_of_token resolve htoken hrest
  | @ordinary _ c cs hbracket _ _ ih =>
    obtain ⟨-, hcs⟩ := List.forall_mem_cons.mp hallowed
    by_cases hpart : isTokenPart c = true
    · -- the token goes on
      have hlonger : ∀ d ∈ token ++ [c], isTokenPart d = true :=
        List.forall_mem_append.mpr ⟨htoken, List.forall_mem_singleton.mpr hpart⟩
      simpa using ih hcs hlonger hrest
    · have hends : isTokenPart c = false := by simpa using hpart
      obtain ⟨u, hu, hfront⟩ :=
        exists_substitute_of_token resolve htoken (.cons hends (cs ++ rest))
      obtain ⟨v, hv, hback⟩ := ih hcs hnone hrest
      have hopen : '(' ≠ c := by
        rintro rfl
        exact absurd hbracket (by decide)
      have hclose : ')' ≠ c := by
        rintro rfl
        exact absurd hbracket (by decide)
      have hc : Enclosable [c] := .of_no_parens (by simpa using hopen) (by simpa using hclose)
      refine ⟨u ++ ([c] ++ v), hu.append (hc.append hv), ?_⟩
      rw [List.nil_append] at hback
      rw [List.cons_append, hfront, substitute_cons hends, hback]
      simp
  | @literal quote _ _ hquote =>
    -- quotes are no characters of arithmetic
    have hnot : isAllowed quote = false := by
      rcases eq_of_isQuote hquote with rfl | rfl <;> decide
    rw [hallowed quote List.mem_cons_self] at hnot
    exact Bool.noConfusion hnot
  | @group _ o c inside cs hpair _ _ ihinside ih =>
    obtain ⟨ho, hmore⟩ := List.forall_mem_cons.mp hallowed
    obtain ⟨hinside, hmore⟩ := List.forall_mem_append.mp hmore
    obtain ⟨-, hcs⟩ := List.forall_mem_cons.mp hmore
    cases hpair with
    | square => exact absurd ho (by decide)
    | round =>
      have hopen : isTokenPart '(' = false := by decide
      have hclose : isTokenPart ')' = false := by decide
      obtain ⟨u, hu, hfront⟩ :=
        exists_substitute_of_token resolve htoken (.cons hopen (inside ++ ')' :: (cs ++ rest)))
      obtain ⟨v, hv, hmiddle⟩ := ihinside hinside hnone (.cons hclose (cs ++ rest))
      obtain ⟨w, hw, hback⟩ := ih hcs hnone hrest
      refine ⟨u ++ (parenthesized v ++ w), hu.append (hv.parenthesized.append hw), ?_⟩
      rw [List.nil_append] at hmiddle hback
      have htext : ('(' :: (inside ++ ')' :: cs)) ++ rest
          = '(' :: (inside ++ ')' :: (cs ++ rest)) := by simp
      rw [htext, hfront, substitute_cons hopen, hmiddle, substitute_cons hclose, hback]
      simp [FormLogic.parenthesized]

end Substitute

/-! ## 2. Names before parentheses -/

section Named

variable {name inside : List Char} (b : Blanks)

theorem isTokenPart_of_mem_identifier (hname : isIdentifier name = true) :
    ∀ c ∈ name, isTokenPart c = true := by
  intro c hc
  simp [isTokenPart, Path.isIdentifierPart_of_isIdentifier hname c hc]

/-- The parenthesis keeps the name from being a variable. -/
theorem exists_substitute_named (resolve : List Char → Resolved) (hname : isIdentifier name = true)
    (hinside : Balance.check inside = .ok ()) (hallowed : ∀ c ∈ inside, isAllowed c = true) :
    ∃ u, Enclosable u ∧ substitute resolve (name ++ (b ++ parenthesized inside))
      = name ++ (b ++ parenthesized u) := by
  have hopen : isTokenPart '(' = false := by decide
  have hclose : isTokenPart ')' = false := by decide
  have hends : EndsToken (b ++ parenthesized inside) := (EndsToken.cons hopen _).blank b.2
  have hcall : (trimStart (b ++ parenthesized inside)).head? = some '(' := by
    rw [trimStart, List.dropWhile_append_of_pos b.2]
    rfl
  have hnone : ∀ c ∈ ([] : List Char), isTokenPart c = true := List.forall_mem_nil _
  obtain ⟨u, hu, hsubstitute⟩ := exists_substitute_of_balanced resolve
    (balanced_iff.mpr hinside) hallowed hnone (.cons hclose [])
  refine ⟨u, hu, ?_⟩
  have hgroup : substitute resolve (parenthesized inside) = parenthesized u := by
    rw [List.nil_append, substitute_cons hclose, substitute] at hsubstitute
    rw [parenthesized, substitute_cons hopen, hsubstitute, parenthesized]
  have hblank : ∀ c ∈ b.1, isTokenPart c = false := fun c hc => isTokenPart_of_isBlank (b.2 c hc)
  obtain ⟨c, cs, rfl⟩ :=
    List.exists_cons_of_ne_nil (Path.isWord_of_isIdentifier hname).tight.ne_nil
  rw [substitute_token (isTokenPart_of_mem_identifier hname) hends, substitute_append hblank,
    hgroup, tokenText, if_pos]
  simp [hcall]

/-- **Arithmetic has no calls**: a name before parentheses is a literal as a whole. -/
theorem evaluate_named (hname : isIdentifier name = true) {u : List Char} (hu : Enclosable u)
    (maxDepth : Nat) :
    evaluate maxDepth 0 (name ++ (b ++ parenthesized u))
      = .ok (literal (name ++ (b ++ parenthesized u))) := by
  have hword := Path.isWord_of_isIdentifier hname
  have hapart : Shape.Apart ('(' :: ')' :: operators) name :=
    apart_of_isTokenPart (isTokenPart_of_mem_identifier hname)
  have hhead : ∀ c, c ∈ '(' :: ')' :: operators →
      (name ++ (b ++ parenthesized u)).head? ≠ some c := by
    intro c hc hm
    rw [head?_append_of_tight hword.tight] at hm
    exact hapart c hc (List.mem_of_head? hm)
  have huncut : ∀ l < Level.factor, cut l.cuts 0 [] (name ++ (b ++ parenthesized u))
      = (name ++ (b ++ parenthesized u), []) := by
    intro l hl
    have hunseen : Unseen .factor l.cuts 0 [] := .inr ⟨rfl, ⟨l, hl, rfl⟩, Fresh.nil⟩
    have hgroup : ∀ before, Passes l.cuts 0 before (parenthesized u) := fun before =>
      Passes.parens (hu l.cuts (0 + 1) ('(' :: before) (by decide))
    exact ((hunseen.passes_of_apart hapart _).append
      ((hunseen.passes_blank b.2 _).append (hgroup _))).cut_eq
  rw [evaluate_of_uncut (hword.tight.append (tight_parenthesized u) b) huncut (Nat.zero_le _),
    evaluateUncut_literal (hhead '(' (by decide)) (hhead '-' (by decide))]

end Named

/-- Blank characters around a text do not decide whether it is arithmetic. -/
theorem isArithmetic_trim (cs : List Char) : isArithmetic (trim cs) = isArithmetic cs := by
  obtain ⟨before, after, hb, ha, hcs⟩ := exists_trim cs
  have hallowed : ∀ {b : List Char}, Blank b → b.all isAllowed = true := fun h =>
    List.all_eq_true.mpr fun c hc => (Filling.blank h c hc).1
  have hoperator : ∀ {b : List Char}, Blank b → b.any isOperator = false := by
    intro b h
    refine List.any_eq_false.mpr fun c hc hop => ?_
    exact absurd (h c hc) (by simp [isBlank_of_isOperator hop])
  conv => rhs; rw [hcs]
  simp [isArithmetic, hallowed hb, hallowed ha, hoperator hb, hoperator ha]

end Arithmetic

/-! ## 3. Calls of helpers -/

/-- Two texts that begin with the same characters begin with the same identifier. -/
theorem identifier_eq_of_append_eq {name word rest rest' : List Char}
    (hname : isIdentifier name = true) (hword : isIdentifier word = true)
    (hrest : ∀ c ∈ rest.head?, isIdentifierPart c = false)
    (hrest' : ∀ c ∈ rest'.head?, isIdentifierPart c = false)
    (h : name ++ rest = word ++ rest') : name = word := by
  have hread := GridCall.identifier?_eq_some_iff.mpr ⟨rfl, hname, hrest⟩
  rw [GridCall.identifier?_eq_some_iff.mpr ⟨h, hword, hrest'⟩] at hread
  exact (Prod.mk.inj (Option.some.inj hread)).1.symm

namespace Helper

variable (helper : Helper) (b : Blanks) (inside : List Char)

/-- The text of a call with blank characters before its parenthesis. -/
def spacedText : List Char := helper.name.toList ++ (b ++ parenthesized inside)

/-- What no helper is called: neither a statement nor a grid expression nor the name of a number
begins like a call. -/
theorem name_ne : helper.name.toList ≠ ['r', 'e', 't', 'u', 'r', 'n'] ∧
    helper.name.toList ≠ ['g', 'r', 'i', 'd', 's'] ∧ helper.name.toList.head? ≠ some 'I' := by
  cases helper <;> decide

theorem tight_spacedText : Tight (helper.spacedText b inside) :=
  helper.isWord_name.tight.append (tight_parenthesized inside) b

theorem head?_spacedText : (helper.spacedText b inside).head? = helper.name.toList.head? :=
  head?_append_of_tight helper.isWord_name.tight _

/-- The name goes up to the first character that no identifier has. -/
theorem name_eq_of_spacedText_eq {word rest : List Char} {c : Char} (hword : isIdentifier word = true)
    (hc : isIdentifierPart c = false) (h : helper.spacedText b inside = word ++ c :: rest) :
    helper.name.toList = word := by
  have hends : Arithmetic.EndsToken (b ++ parenthesized inside) :=
    (Arithmetic.EndsToken.cons (by decide) _).blank b.2
  refine identifier_eq_of_append_eq helper.isIdentifier_name hword ?_ ?_ h
  · exact fun d hd => (Bool.or_eq_false_iff.mp (hends d hd)).1
  · intro d hd
    obtain rfl : c = d := by simpa using hd
    exact hc

variable {helper b inside}

/-- A call is no statement. -/
theorem stripStatement_spacedText {cs : List Char} (h : Text.trim cs = helper.spacedText b inside) :
    stripStatement cs = helper.spacedText b inside := by
  rw [← h]
  refine stripStatement_of_bare ?_ ?_
  · rintro ⟨rest, hrest⟩
    have hspace : isIdentifierPart ' ' = false := by decide
    have hkeyword : isIdentifier ['r', 'e', 't', 'u', 'r', 'n'] = true := by decide
    exact helper.name_ne.1
      (helper.name_eq_of_spacedText_eq b inside hkeyword hspace (h.symm.trans hrest.symm))
  · rw [h, spacedText, ← List.append_assoc,
      Arithmetic.getLast?_append_of_tight (tight_parenthesized inside), parenthesized,
      ← List.cons_append, List.getLast?_concat]
    decide

/-- A call is no template. -/
theorem stripTemplate_spacedText {cs : List Char} (h : Text.trim cs = helper.spacedText b inside) :
    stripTemplate cs = helper.spacedText b inside := by
  have hdollar : (helper.spacedText b inside).head? ≠ some '$' := by
    rw [head?_spacedText]
    exact helper.isWord_name.head?_ne (by decide)
  obtain ⟨before, after, hb, ha, hcs⟩ := exists_trim cs
  rw [hcs, h]
  exact Evaluator.stripTemplate_of_tight (helper.tight_spacedText b inside) hdollar ⟨before, hb⟩
    ⟨after, ha⟩

/-- A call is no grid expression. -/
theorem gridCall_spacedText (grids : Dict Grid) :
    GridCall.evaluate? (helper.spacedText b inside) grids = none := by
  rw [GridCall.evaluate?, Option.map_eq_none_iff, Option.eq_none_iff_forall_ne_some]
  intro call hcall
  obtain ⟨grid, rest, -, htext⟩ := GridCall.exists_gridText hcall
  rw [(helper.tight_spacedText b inside).trim_eq] at htext
  have hpoint : isIdentifierPart '.' = false := by decide
  have hkeyword : isIdentifier ['g', 'r', 'i', 'd', 's'] = true := by decide
  have htext : helper.spacedText b inside
      = ['g', 'r', 'i', 'd', 's'] ++ '.' :: (grid ++ '.' :: rest) := by
    simpa [GridCall.gridText] using htext
  exact helper.name_ne.2.1 (helper.name_eq_of_spacedText_eq b inside hkeyword hpoint htext)

/-- A call is no number. -/
theorem literal_spacedText : Arithmetic.literal (helper.spacedText b inside) = .zero := by
  obtain ⟨c, cs, hname, hstart⟩ :
      ∃ c cs, helper.name.toList = c :: cs ∧ isIdentifierStart c = true := by
    cases helper <;> exact ⟨_, _, rfl, rfl⟩
  have hc : 'I' ≠ c := by
    rintro rfl
    exact helper.name_ne.2.2 (by rw [hname]; rfl)
  have hnone : Number.lenient? (helper.spacedText b inside) = none := by
    rw [spacedText, hname, List.cons_append, Number.lenient?_of_isIdentifierStart hstart]
    simp [Number.infinityName, dropPrefix?, hc]
  rw [Arithmetic.literal, hnone]
  rfl

end Helper

/-! ## 4. Calculated fields -/

namespace Evaluator

variable (ev : Evaluator) {helper : Helper} {b : Blanks} {inside : List Char}

/-- **A call stands for zero in arithmetic**, whatever its helper would say. -/
theorem arithmetic_spacedText (hinside : Balance.check inside = .ok ())
    (hallowed : ∀ c ∈ inside, Arithmetic.isAllowed c = true) :
    ev.arithmetic (String.ofList (helper.spacedText b inside)) = .zero := by
  have htrim := (helper.tight_spacedText b inside).trim_eq
  obtain ⟨u, hu, hsubstitute⟩ := Arithmetic.exists_substitute_named b ev.context.resolve?
    helper.isIdentifier_name hinside hallowed
  have hvalue := Arithmetic.evaluate_named b helper.isIdentifier_name hu ev.options.maxDepth
  have hzero : Arithmetic.literal (helper.name.toList ++ (b ++ parenthesized u)) = .zero :=
    Helper.literal_spacedText
  rw [hzero] at hvalue
  rw [← Helper.spacedText] at hsubstitute
  simp only [arithmetic, String.toList_ofList, Helper.stripTemplate_spacedText htrim, hsubstitute,
    hvalue, ite_self]

/-- What a calculated field makes of a call goes by its characters. -/
theorem calculation_spacedText {e : String} {r : Resolved}
    (he : trim e.toList = helper.spacedText b inside) (hvalue : ev.tryEvaluate e = .ok r) :
    ev.calculation e =
      if Arithmetic.isArithmetic e.toList then
        some (.number (ev.arithmetic (String.ofList (helper.spacedText b inside))))
      else if r.isNullish then some (.number .zero) else r := by
  have hstrip := Helper.stripTemplate_spacedText (helper.tight_spacedText b inside).trim_eq
  have hblank : e.toList.all isBlank = false := by
    rw [Bool.eq_false_iff]
    intro hall
    have hnil := trim_of_blank (List.all_eq_true.mp hall)
    exact (helper.tight_spacedText b inside).ne_nil (he.symm.trans hnil)
  have htry : ev.tryEvaluate (String.ofList (helper.spacedText b inside)) = .ok r := by
    rw [← hvalue]
    refine ev.tryEvaluate_congr ?_
    rw [String.toList_ofList, hstrip, Helper.stripTemplate_spacedText he]
  have hroute : Arithmetic.isArithmetic (helper.spacedText b inside)
      = Arithmetic.isArithmetic e.toList := by
    rw [← he, Arithmetic.isArithmetic_trim]
  simp [calculation, hblank, Helper.stripStatement_spacedText he, hstrip,
    Helper.gridCall_spacedText, htry, hroute]

/-- What can be evaluated is balanced. -/
theorem balanced_of_tryEvaluate {e : String} {r : Resolved} (hvalue : ev.tryEvaluate e = .ok r)
    (hne : stripTemplate e.toList ≠ []) : Balance.check (stripTemplate e.toList) = .ok () := by
  rw [tryEvaluate, if_neg (by simpa using hne)] at hvalue
  split at hvalue
  · cases hvalue
  · assumption

/-- A call that can be evaluated is the name of its helper before balanced text in parentheses. -/
theorem exists_spacedText {e : String} {call : Call} {r : Resolved}
    (hcall : Call.ofText? e.toList = some call)
    (hhelper : Helper.ofName? (String.ofList call.name) = some helper)
    (hvalue : ev.tryEvaluate e = .ok r) :
    ∃ (b : Blanks) (inside : List Char),
      trim e.toList = helper.spacedText b inside ∧ Balance.check inside = .ok () := by
  obtain ⟨before, after, inside, hb, ha, htext, -, hgroup, -⟩ := Call.exists_of_ofText? hcall
  have hname : call.name = helper.name.toList := by
    rw [Helper.name_of_ofName? hhelper, String.toList_ofList]
  have htight := helper.tight_spacedText ⟨after, ha⟩ inside
  have he : trim e.toList = helper.spacedText ⟨after, ha⟩ inside := by
    rw [htext, hname, ← htight.trim_pad hb Blank.nil, List.append_nil]
    rfl
  have hstrip := Helper.stripTemplate_spacedText he
  have hbalanced := ev.balanced_of_tryEvaluate hvalue (by rw [hstrip]; exact htight.ne_nil)
  rw [hstrip] at hbalanced
  have hparens : Balance.check (parenthesized inside) = .ok () :=
    balanced_of_name_before Blank.nil helper.isIdentifier_name ha hbalanced
  exact ⟨⟨after, ha⟩, inside, he, balanced_of_group? hparens hgroup⟩

/-- A call with the characters of arithmetic and an operator among them is taken for arithmetic. -/
theorem calculation_of_arithmetic {e : String} {call : Call} {r : Resolved}
    (hcall : Call.ofText? e.toList = some call)
    (hhelper : Helper.ofName? (String.ofList call.name) = some helper)
    (hvalue : ev.tryEvaluate e = .ok r) (hroute : Arithmetic.isArithmetic e.toList = true) :
    ev.calculation e = some (.number .zero) := by
  obtain ⟨b, inside, he, hinside⟩ := ev.exists_spacedText hcall hhelper hvalue
  rw [ev.calculation_spacedText he hvalue, if_pos hroute]
  have hallowed : ∀ c ∈ inside, Arithmetic.isAllowed c = true := by
    rw [← Arithmetic.isArithmetic_trim, he] at hroute
    intro c hc
    refine List.all_eq_true.mp (Bool.and_eq_true_iff.mp hroute).1 c ?_
    simp [Helper.spacedText, parenthesized, hc]
  rw [ev.arithmetic_spacedText hinside hallowed]

/-- **What a calculated field holds where a call stands.**  It is what the call is evaluated to,
with zero for `null` and undefined, as long as the text has a character that arithmetic has not, or
has no operator; and a call that is taken for arithmetic stands for zero. -/
theorem calculation_of_call {e : String} {call : Call} {r : Resolved}
    (hcall : Call.ofText? e.toList = some call)
    (hhelper : Helper.ofName? (String.ofList call.name) = some helper)
    (hvalue : ev.tryEvaluate e = .ok r) :
    ev.calculation e =
      if Arithmetic.isArithmetic e.toList then some (.number .zero)
      else if r.isNullish then some (.number .zero) else r := by
  by_cases hroute : Arithmetic.isArithmetic e.toList = true
  · rw [if_pos hroute, ev.calculation_of_arithmetic hcall hhelper hvalue hroute]
  · obtain ⟨b, inside, he, -⟩ := ev.exists_spacedText hcall hhelper hvalue
    rw [ev.calculation_spacedText he hvalue, if_neg hroute, if_neg hroute]

/-- A call of one literal has the answer of its helper. -/
theorem tryEvaluate_call_literal (helper : Helper) (l : Literal) (hno : ¬ HidesContainment l.text)
    (hdepth : 2 ≤ ev.options.maxDepth) :
    ev.tryEvaluate (String.ofList (helper.callText l.text))
      = .ok (helper.apply [l.value ev.context] ev.context.user) := by
  have hargument : IsArgument l.text := (Prints.literal .whole l).printed.isArgument
  have harguments : Arguments [l.text] l.text := by
    simpa using Arguments.list .none .none (Joined.one l.text)
  have hprinted : Printed .side (helper.callText l.text) := Printed.call helper hargument.balanced
  have hdollar : (helper.callText l.text).head? ≠ some '$' := fun hm =>
    hprinted.first '$' hm (by decide)
  have hcall : ev.operand 1 (helper.callText l.text)
      = .ok (helper.apply [l.value ev.context] ev.context.user) := by
    rw [Helper.callText, operand_call ev helper harguments
      (List.forall_mem_singleton.mpr hargument), List.map_singleton,
      eval_literal ev (by omega) l (by omega)]
    rfl
  calc ev.tryEvaluate (String.ofList (helper.callText l.text))
      = ev.eval 0 (helper.callText l.text) := by
        simpa using
          ev.tryEvaluate_of_tight hprinted.tight hdollar hprinted.closed.balanced .none .none
    _ = ev.operand 1 (helper.callText l.text) := by
        rw [eval_of_tight ev (Nat.zero_le _) hprinted.tight,
          helper.ofText_callText_of_not_hides hargument.balanced hno]
        rfl
    _ = .ok (helper.apply [l.value ev.context] ev.context.user) := hcall

/-- The hyphen stands in a literal, and the quotes around it are no characters of arithmetic. -/
theorem calculation_of_call_of_hyphen :
    let e := "len('a-b')"
    Call.ofText? e.toList = some ⟨['l', 'e', 'n'], [['\'', 'a', '-', 'b', '\'']]⟩ ∧
    Helper.ofName? (String.ofList ['l', 'e', 'n']) = some .len ∧
    (default : Evaluator).tryEvaluate e = .ok (some (.number (.ofNat 3))) ∧
    (default : Evaluator).calculation e = some (.number (.ofNat 3)) := by
  intro e
  have hcall : Call.ofText? e.toList = some ⟨['l', 'e', 'n'], [['\'', 'a', '-', 'b', '\'']]⟩ := by
    decide
  have hhelper : Helper.ofName? (String.ofList ['l', 'e', 'n']) = some .len := by decide
  have hvalue : (default : Evaluator).tryEvaluate e = .ok (some (.number (.ofNat 3))) :=
    tryEvaluate_call_literal default .len (.string '\'' ['a', '-', 'b'] rfl (by simp [IsQuotable]))
      (not_hidesContainment (by decide)) (by decide)
  have hroute : Arithmetic.isArithmetic e.toList = false := by decide
  have hfield := calculation_of_call default hcall hhelper hvalue
  rw [if_neg (by simp [hroute])] at hfield
  exact ⟨hcall, hhelper, hvalue, hfield⟩

/-- `abs(-3)` is 3, and a calculated field takes it for arithmetic. -/
theorem not_calculation_of_call_of_sign :
    ¬ ∀ (ev : Evaluator) (e : String) (call : Call) (helper : Helper) (r : Resolved),
        Call.ofText? e.toList = some call →
        Helper.ofName? (String.ofList call.name) = some helper →
        ev.tryEvaluate e = .ok r →
        ev.calculation e = if r.isNullish then some (.number .zero) else r := by
  intro h
  let negative : Literal := .number (Binary64.ofNat 3).neg (by decide +kernel)
  have hcall : Call.ofText? "abs(-3)".toList = some ⟨['a', 'b', 's'], [['-', '3']]⟩ := by decide
  have hhelper : Helper.ofName? (String.ofList ['a', 'b', 's']) = some .abs := by decide
  have htext : "abs(-3)" = String.ofList (Helper.abs.callText negative.text) := by decide +kernel
  have habs : ∀ (n : Binary64) (user : User),
      Helper.abs.apply [some (.number n)] user = some (.number n.abs) := fun _ _ => rfl
  have hthree : (Binary64.ofNat 3).neg.abs = .ofNat 3 := by decide +kernel
  have hvalue : (default : Evaluator).tryEvaluate "abs(-3)" = .ok (some (.number (.ofNat 3))) := by
    rw [htext, tryEvaluate_call_literal default .abs negative
      (not_hidesContainment (by decide +kernel)) (by decide), ← hthree, ← habs]
    rfl
  have hthere : ∀ n, ¬ Resolved.isNullish (some (.number n)) = true := fun _ => Bool.false_ne_true
  have hfield := h default "abs(-3)" _ _ _ hcall hhelper hvalue
  rw [calculation_of_arithmetic default hcall hhelper hvalue (by decide), if_neg (hthere _)]
    at hfield
  have hzero : Binary64.zero = .ofNat 3 := Value.number.inj (Option.some.inj hfield)
  exact absurd hzero (by decide +kernel)

end Evaluator

end FormLogic
