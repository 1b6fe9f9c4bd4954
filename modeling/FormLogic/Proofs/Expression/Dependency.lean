import FormLogic.Proofs.Expression.Contiguous
import FormLogic.Proofs.Expression.Equations
import FormLogic.Session

/-!
# What an expression can depend on

An expression depends on a part of the context only if its text names that part.  Everything
that is looked up during an evaluation is a piece of the expression: paths, the names of
helpers, the tokens of arithmetic and the names of grids.  So two contexts that answer alike to
all pieces of a text (`Alike`) give it the same results, errors included, whichever way it is
evaluated, and contexts that differ in one part only are alike to a text that does not name it.
-/

namespace FormLogic

/-! ## 1. The parts of a context and their names -/

/-- **A part of a context**: one entry of the form or of the process, or one of the other
entries as a whole. -/
inductive ContextPart where
  | form (key : String)
  | process (key : String)
  | user
  | grids
  | task
  | value
deriving DecidableEq, Repr

namespace ContextPart

/-- The words of which a text has to contain one in order to depend on the part.  The user is
also read by the helpers, whose names all contain `has`. -/
def names : ContextPart → List String
  | form key => [key, "form"]
  | process key => [key, "process"]
  | user => ["user", "has"]
  | grids => ["grids"]
  | task => ["task"]
  | value => ["value"]

/-- The two contexts are the same outside the part. -/
def DifferOnlyIn (part : ContextPart) (c c' : Context) : Prop :=
  match part with
  | form key => (∃ form, c' = { c with form }) ∧
      ∀ k, k ≠ key → Dict.get? c.form k = Dict.get? c'.form k
  | process key => (∃ process, c' = { c with process }) ∧
      ∀ k, k ≠ key → Dict.get? c.process k = Dict.get? c'.process k
  | user => ∃ user, c' = { c with user }
  | grids => ∃ grids, c' = { c with grids }
  | task => ∃ task?, c' = { c with task? }
  | value => ∃ value?, c' = { c with value? }

end ContextPart

/-! ## 2. Contexts that are alike to a text -/

namespace Context

/-- **Contexts that a text cannot tell apart**: they resolve its pieces alike, and have the same
user and the same grids where it names these. -/
structure Alike (text : List Char) (c c' : Context) : Prop where
  resolve : ∀ path, path <:+: text → c.resolve? path = c'.resolve? path
  user : ['h', 'a', 's'] <:+: text → c.user = c'.user
  grids : ['g', 'r', 'i', 'd', 's'] <:+: text → c.grids = c'.grids

/-- A piece of a text can tell apart no more than the text. -/
theorem Alike.mono {text piece : List Char} {c c' : Context} (h : Alike text c c')
    (hp : piece <:+: text) : Alike piece c c' where
  resolve path hpath := h.resolve path (hpath.trans hp)
  user hname := h.user (hname.trans hp)
  grids hname := h.grids (hname.trans hp)

/-- The segments of a path are pieces of it. -/
theorem infix_of_mem_segments_go {cs segment : List Char} {s : String}
    (h : s ∈ segments.go cs segment) : s.toList <:+: segment.reverse ++ cs := by
  induction cs generalizing segment with
  | nil =>
    obtain rfl : s = String.ofList segment.reverse := by simpa [segments.go] using h
    simp
  | cons c cs ih =>
    simp only [segments.go] at h
    split at h
    · rcases List.mem_cons.mp h with rfl | h
      · simpa using (List.prefix_append segment.reverse (c :: cs)).isInfix
      · exact (ih h).trans ⟨segment.reverse ++ [c], [], by simp⟩
    · simpa using ih h

theorem infix_of_mem_segments {path : List Char} {s : String} (h : s ∈ segments path) :
    s.toList <:+: path := infix_of_mem_segments_go h

end Context

/-! ## 3. Contexts that differ in one part -/

namespace ContextPart

variable {part : ContextPart} {c c' : Context}

/-- Every entry of the contexts whose name is none of the part's names is the same. -/
theorem DifferOnlyIn.entries (h : part.DifferOnlyIn c c') :
    ("form" ∉ part.names → c.form = c'.form) ∧
    ("process" ∉ part.names → c.process = c'.process) ∧
    ("user" ∉ part.names → c.user = c'.user) ∧
    ("grids" ∉ part.names → c.grids = c'.grids) ∧
    ("task" ∉ part.names → c.task? = c'.task?) ∧
    ("value" ∉ part.names → c.value? = c'.value?) := by
  cases part with
  | form key =>
    obtain ⟨⟨form, rfl⟩, -⟩ := h
    simp [names]
  | process key =>
    obtain ⟨⟨process, rfl⟩, -⟩ := h
    simp [names]
  | user | grids | task | value =>
    obtain ⟨_, rfl⟩ := h
    simp [names]

/-- Every named value of the form and of the process whose name is none of the part's names is
the same. -/
theorem DifferOnlyIn.get? (h : part.DifferOnlyIn c c') {key : String} (hkey : key ∉ part.names) :
    Dict.get? c.form key = Dict.get? c'.form key ∧
      Dict.get? c.process key = Dict.get? c'.process key := by
  cases part with
  | form k =>
    obtain ⟨⟨form, rfl⟩, hform⟩ := h
    exact ⟨hform key (by rintro rfl; simp [names] at hkey), rfl⟩
  | process k =>
    obtain ⟨⟨process, rfl⟩, hprocess⟩ := h
    exact ⟨rfl, hprocess key (by rintro rfl; simp [names] at hkey)⟩
  | user | grids | task | value =>
    obtain ⟨_, rfl⟩ := h
    exact ⟨rfl, rfl⟩

theorem DifferOnlyIn.root? (h : part.DifferOnlyIn c c') {key : String} (hkey : key ∉ part.names) :
    c.root? key = c'.root? key := by
  obtain ⟨hform, hprocess, huser, hgrids, htask, hvalue⟩ := h.entries
  unfold Context.root?
  split
  · rw [hform hkey]
  · rw [hprocess hkey]
  · rw [huser hkey]
  · rw [hgrids hkey]
  · rw [htask hkey]
  · rw [hvalue hkey]
  · rfl

/-- **A path that names no part does not reach it**, whichever of the form, the process and the
other entries answers. -/
theorem DifferOnlyIn.walk? (h : part.DifferOnlyIn c c') {path : List String}
    (hpath : ∀ n ∈ part.names, n ∉ path) : c.walk? path = c'.walk? path := by
  cases path with
  | nil => rfl
  | cons head rest =>
    have hhead : head ∉ part.names := fun hmem => hpath head hmem List.mem_cons_self
    obtain ⟨hform, hprocess, huser, -⟩ := h.entries
    obtain ⟨hformKey, hprocessKey⟩ := h.get? hhead
    unfold Context.walk?
    split
    · rfl
    · next heq => rw [hform (by simp_all)]
    · next heq => rw [hprocess (by simp_all)]
    · next heq => rw [huser (by simp_all)]
    · next heq =>
      obtain ⟨rfl, rfl⟩ := List.cons.inj heq
      simp only [Dict.walk?, hformKey, hprocessKey, h.root? hhead]

/-- Contexts that differ only in a part are alike to every text without its names. -/
theorem DifferOnlyIn.alike (h : part.DifferOnlyIn c c') {text : List Char}
    (hnames : ∀ n ∈ part.names, ¬ n.toList <:+: text) : Context.Alike text c c' := by
  obtain ⟨-, -, -, hgrids, -⟩ := h.entries
  refine ⟨?_, ?_, ?_⟩
  · intro path hpath
    refine h.walk? fun n hn hmem => hnames n hn ?_
    exact (Context.infix_of_mem_segments hmem).trans hpath
  · intro hhas
    cases part with
    | user => exact absurd hhas (hnames "has" (by simp [names]))
    | form | process =>
      obtain ⟨⟨_, rfl⟩, -⟩ := h
      rfl
    | grids | task | value =>
      obtain ⟨_, rfl⟩ := h
      rfl
  · intro hg
    exact hgrids fun hmem => hnames "grids" hmem hg

end ContextPart

/-! ## 4. Evaluation in contexts that are alike -/

/-- A helper reads the user only if its name contains `has`. -/
theorem Helper.apply_user (helper : Helper) (args : List Resolved) {u u' : User}
    (h : ['h', 'a', 's'] <:+: helper.name.toList → u = u') :
    helper.apply args u = helper.apply args u' := by
  cases helper with
  | hasRole | hasGroup | hasAnyRole | hasAnyGroup | hasAllRoles | hasAllGroups =>
    rw [h (by decide)]
  | _ => rfl

theorem Helper.name_of_ofName? {name : String} {helper : Helper}
    (h : Helper.ofName? name = some helper) : helper.name = name := by
  simpa using List.find?_some h

namespace Evaluator

/-- Contexts that are alike to a text are alike to this reading of it, at every depth. -/
def Respects (read : Evaluator → Nat → List Char → Evaluation) (options : Options)
    (c c' : Context) (cs : List Char) : Prop :=
  Context.Alike cs c c' → ∀ depth, read ⟨c, options⟩ depth cs = read ⟨c', options⟩ depth cs

variable {c c' : Context} (options : Options)

/-- **Contexts that are alike to a text give it the same value**, at every depth and under every
limit. -/
theorem respects (cs : List Char) :
    Respects eval options c c' cs ∧ Respects operand options c c' cs
      ∧ Respects atom options c c' cs := by
  refine induction_on_length (E := Respects eval options c c')
    (O := Respects operand options c c') (A := Respects atom options c c')
    ?atom ?operand ?eval cs
  case atom =>
    intro cs ih halike depth
    rw [atom_eq, atom_eq, halike.resolve _ (Text.infix_trim cs)]
    rw [Atom.evaluate_congr]
    intro body hb i hi
    have hlt := Atom.length_lt_of_list hb
    have hle := Scan.length_le_of_mem_items hi
    have htrim := Text.length_trim_le cs
    have hin : i <:+: cs :=
      (Scan.infix_of_mem_items hi).trans ((Atom.infix_of_list hb).trans (Text.infix_trim cs))
    exact ih i (by omega) (halike.mono hin) (depth + 1)
  case operand =>
    intro cs ih hatom halike depth
    rw [operand_eq, operand_eq, hatom halike depth]
    cases hc : Call.ofText? cs with
    | none => rfl
    | some call =>
      have hargs : call.arguments.map ((⟨c, options⟩ : Evaluator).eval depth)
          = call.arguments.map ((⟨c', options⟩ : Evaluator).eval depth) :=
        List.map_congr_left fun a ha =>
          ih a (Call.length_lt_of_ofText? hc ha)
            (halike.mono (Call.infix_of_mem_arguments hc ha)) depth
      simp only [Call.evaluate, hargs]
      cases hn : Helper.ofName? (String.ofList call.name) with
      | none => rfl
      | some helper =>
        have huser : ∀ args, helper.apply args c.user = helper.apply args c'.user := by
          refine fun args => Helper.apply_user helper args fun hhas => halike.user ?_
          rw [Helper.name_of_ofName? hn] at hhas
          exact (by simpa using hhas : _ <:+: call.name).trans (Call.infix_name hc)
        simp only [huser]
  case eval =>
    intro cs ih htrim halike depth
    have hpart : ∀ p ∈ (Shape.ofText (Text.trim cs)).parts, p.length < cs.length :=
      fun p hp => Shape.length_lt_of_part rfl hp
    have hparts : ∀ p ∈ (Shape.ofText (Text.trim cs)).parts, Context.Alike p c c' :=
      fun p hp => halike.mono ((Shape.infix_of_mem_parts hp).trans (Text.infix_trim cs))
    rw [eval_eq, eval_eq]
    rw [Shape.evaluate_congr]
    · exact fun p hp => (ih p (hpart p hp)).1 (hparts p hp) (depth + 1)
    · exact fun p hp => (ih p (hpart p hp)).2.1 (hparts p hp) (depth + 1)
    · exact fun p hp => (ih p (hpart p hp)).2.2 (hparts p hp) (depth + 1)
    · intro p hp i hi
      have hle := Scan.length_le_of_mem_items hi
      have hlt := hpart p hp
      exact (ih i (by omega)).2.2 ((hparts p hp).mono (Scan.infix_of_mem_items hi)) (depth + 1)
    · exact htrim (halike.mono (Text.infix_trim cs)) (depth + 1)

theorem tryEvaluate_eq_of_alike (expression : String)
    (h : Context.Alike expression.toList c c') :
    (⟨c, options⟩ : Evaluator).tryEvaluate expression
      = (⟨c', options⟩ : Evaluator).tryEvaluate expression := by
  simp only [tryEvaluate,
    (respects options _).1 (h.mono (Text.infix_stripTemplate expression.toList)) 0]

/-! ## 5. Arithmetic and grid expressions -/

/-- Only tokens of a text are looked up when its variables are replaced. -/
theorem substitute_congr {resolve resolve' : List Char → Resolved} {cs : List Char}
    (h : ∀ token, token <:+: cs → resolve token = resolve' token) :
    Arithmetic.substitute resolve cs = Arithmetic.substitute resolve' cs := by
  induction cs using Arithmetic.substitute.induct with
  | case1 => simp [Arithmetic.substitute]
  | case2 c rest hc tail ih =>
    have htoken : c :: rest.takeWhile Arithmetic.isTokenPart <:+: c :: rest :=
      ((List.prefix_cons_inj c).mpr (List.takeWhile_prefix _)).isInfix
    have htail : tail <:+: c :: rest := List.infix_cons (List.dropWhile_suffix _).isInfix
    rw [Arithmetic.substitute, Arithmetic.substitute, if_pos hc, if_pos hc]
    simp only [Arithmetic.tokenText, h _ htoken, tail, ih fun t ht => h t (ht.trans htail)]
  | case3 c rest hc ih =>
    rw [Arithmetic.substitute, Arithmetic.substitute, if_neg hc, if_neg hc,
      ih fun t ht => h t (List.infix_cons ht)]

theorem arithmetic_eq_of_alike (expression : String)
    (h : Context.Alike expression.toList c c') :
    (⟨c, options⟩ : Evaluator).arithmetic expression
      = (⟨c', options⟩ : Evaluator).arithmetic expression := by
  have hsubstitute :
      Arithmetic.substitute c.resolve? (Text.stripTemplate expression.toList)
        = Arithmetic.substitute c'.resolve? (Text.stripTemplate expression.toList) :=
    substitute_congr fun token ht => h.resolve token (ht.trans (Text.infix_stripTemplate _))
  simp only [arithmetic, hsubstitute]

/-- A grid expression contains the word `grids`. -/
theorem infix_of_gridCall {cs : List Char} {call : GridCall}
    (h : GridCall.ofText? cs = some call) : ['g', 'r', 'i', 'd', 's'] <:+: cs := by
  obtain ⟨rest, hrest, -⟩ := Option.bind_eq_some_iff.mp h
  have hcs := Text.eq_append_of_dropPrefix? hrest
  exact List.IsInfix.trans ⟨[], '.' :: rest, by simp [hcs]⟩ (Text.infix_trim cs)

theorem gridCall_eq_of_alike {cs : List Char} (h : Context.Alike cs c c') :
    GridCall.evaluate? cs c.grids = GridCall.evaluate? cs c'.grids := by
  unfold GridCall.evaluate?
  cases hcall : GridCall.ofText? cs with
  | none => rfl
  | some call => rw [h.grids (infix_of_gridCall hcall)]

/-! ## 6. Every way to evaluate -/

/-- Contexts that are alike to an expression give the same answer to every question about it. -/
theorem ask_eq_of_alike (q : Query) {expression : String}
    (h : Context.Alike expression.toList c c') :
    (⟨c, options⟩ : Evaluator).ask q expression = (⟨c', options⟩ : Evaluator).ask q expression := by
  have hstatement : Context.Alike (Text.stripStatement expression.toList) c c' :=
    h.mono (Text.infix_stripStatement _)
  have hboth := hstatement.mono (Text.infix_stripTemplate _)
  have hwhole := tryEvaluate_eq_of_alike options expression h
  have hinner := tryEvaluate_eq_of_alike options
    (String.ofList (Text.stripStatement expression.toList)) (by simpa using hstatement)
  have hcalculated :
      (⟨c, options⟩ : Evaluator).calculation expression
        = (⟨c', options⟩ : Evaluator).calculation expression := by
    simp only [calculation, gridCall_eq_of_alike hboth,
      arithmetic_eq_of_alike options (String.ofList _) (by simpa using hboth),
      tryEvaluate_eq_of_alike options (String.ofList _) (by simpa using hboth)]
  cases q with
  | result => simp only [ask, hwhole]
  | value => simp only [ask, evaluate, hwhole]
  | boolean => simp only [ask, evaluateBoolean, hwhole]
  | visibility => simp only [ask, visibility, hinner]
  | validation => simp only [ask, validation, hinner]
  | calculation => simp only [ask, hcalculated]
  | arithmetic => simp only [ask, arithmetic_eq_of_alike options expression h]
  | grid => simp only [ask, gridFunction?, gridCall_eq_of_alike h]

/-- **An expression depends only on what it names.**  Contexts that differ only in a part give
the same answer, errors included, to every question about an expression that contains none of
the names of the part. -/
theorem ask_eq_of_differOnlyIn (part : ContextPart) (h : part.DifferOnlyIn c c') (q : Query)
    (expression : String) (hnames : ∀ n ∈ part.names, ¬ n.toList <:+: expression.toList) :
    (⟨c, options⟩ : Evaluator).ask q expression = (⟨c', options⟩ : Evaluator).ask q expression :=
  ask_eq_of_alike options q (h.alike hnames)

/-- A rule over two fields gives the same answer whatever a third field holds. -/
theorem visibility_eq_of_other_field :
    (⟨{ form := [("count", .null), ("total", .bool true)] }, {}⟩ : Evaluator).ask .visibility
        "!total && isEmpty(note)"
      = (⟨{ form := [("count", .bool true), ("total", .bool true)] }, {}⟩ : Evaluator).ask
        .visibility "!total && isEmpty(note)" := by
  refine ask_eq_of_differOnlyIn {} (.form "count") ⟨⟨_, rfl⟩, fun k hk => ?_⟩ _ _ ?_
  · simp [Dict.get?, Ne.symm hk]
  · simp [ContextPart.names]
    decide

end Evaluator

end FormLogic
