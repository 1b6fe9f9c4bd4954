import FormLogic.Proofs.Expression.Literal

/-!
# Longer paths

Walking down a path is walking down its parts one after the other (`Value.walk?_append`).  A name
can stand for several values, a form field before a process variable before an entry of the context,
and a path is walked down from the first of them from which all of it can be walked
(`Context.walk?_cons`).  So a longer path leads on from the value of the shorter one where that can
be walked, and otherwise from a value that this one shadows (`Context.resolve?_dotted`).
-/

namespace FormLogic

/-! ## 1. Walking down in parts -/

namespace Value

variable (v : Value) (segment : String)

/-- Nothing can be walked down from a number. -/
theorem walk?_number (x : Binary64) {path : List String} (hpath : path ≠ []) :
    (number x).walk? path = none := by
  obtain ⟨segment, rest, rfl⟩ := List.exists_cons_of_ne_nil hpath
  rfl

/-- Where more segments follow, `length` is a segment like any other. -/
theorem walk?_cons_of_ne_nil {rest : List String} (hrest : rest ≠ []) :
    v.walk? (segment :: rest) = (v.get? segment).bind (·.walk? rest) := by
  rw [walk?]
  exact fun _ _ _ hnil => hrest hnil

theorem walk?_singleton (h : ∀ items, v = list items → segment ≠ "length") :
    v.walk? [segment] = v.get? segment := by
  rw [walk?]
  · exact Option.bind_fun_some _
  · exact fun items hv hlength _ => h items hv hlength

/-- The length of a list leads nowhere, and a list has no item of that name. -/
theorem walk?_cons_eq_bind {rest : List String} (hrest : rest ≠ []) :
    v.walk? (segment :: rest) = (v.walk? [segment]).bind (·.walk? rest) := by
  by_cases h : ∃ items, v = list items ∧ segment = "length"
  case neg =>
    have hother : ∀ items, v = list items → segment ≠ "length" :=
      fun items hv hlength => h ⟨items, hv, hlength⟩
    rw [v.walk?_cons_of_ne_nil segment hrest, v.walk?_singleton segment hother]
  case pos =>
    obtain ⟨items, rfl, rfl⟩ := h
    have hitem : (list items).get? "length" = none := rfl
    have hlength : (list items).walk? ["length"] = some (number (.ofNat items.length)) := rfl
    rw [walk?_cons_of_ne_nil _ _ hrest, hitem, hlength, Option.bind_none, Option.bind_some,
      walk?_number _ hrest]

/-- **Walking down a path is walking down its parts.** -/
theorem walk?_append (p q : List String) : v.walk? (p ++ q) = (v.walk? p).bind (·.walk? q) := by
  induction p generalizing v with
  | nil => rfl
  | cons segment p ih =>
    by_cases hempty : p ++ q = []
    · obtain ⟨rfl, rfl⟩ := List.append_eq_nil_iff.mp hempty
      exact (Option.bind_fun_some _).symm
    · rw [List.cons_append, v.walk?_cons_eq_bind segment hempty]
      by_cases hp : p = []
      · rw [hp, List.nil_append]
      · rw [v.walk?_cons_eq_bind segment hp, Option.bind_assoc]
        exact congrArg _ (funext ih)

end Value

/-- A map of named values is walked down like one. -/
theorem Dict.walk?_eq (d : Dict Value) (path : List String) :
    Dict.walk? d path = (Value.map d).walk? path := by
  cases path <;> rfl

/-! ## 2. The segments of a longer path -/

theorem segments_go_point (p cs segment : List Char) :
    segments.go (p ++ '.' :: cs) segment = segments.go p segment ++ segments cs := by
  induction p generalizing segment with
  | nil => rfl
  | cons c p ih =>
    simp only [List.cons_append, segments.go]
    split <;> simp [ih]

/-- **The segments of a path that goes on** are those of the path and the further ones. -/
theorem segments_dotted (p : List Char) {qs : List (List Char)} (hqs : ∀ q ∈ qs, '.' ∉ q) :
    segments (dotted p qs) = segments p ++ qs.map String.ofList := by
  cases qs with
  | nil => simp [dotted]
  | cons q qs =>
    obtain ⟨hq, hqs⟩ := List.forall_mem_cons.mp hqs
    have hmore : segments (q ++ qs.flatMap ('.' :: ·)) = (q :: qs).map String.ofList := by
      rw [segments, Path.segments_go_append hq, Path.segments_go_flatMap hqs]
      simp
    rw [← hmore]
    exact segments_go_point p _ []

/-- Every path has a first segment, if only an empty one. -/
theorem exists_segments (p : List Char) : ∃ name rest, segments p = name :: rest := by
  have hgo : ∀ segment, ∃ name rest, segments.go p segment = name :: rest := by
    induction p with
    | nil => exact fun segment => ⟨_, _, rfl⟩
    | cons c p ih =>
      intro segment
      rw [segments.go]
      split
      · exact ⟨_, _, rfl⟩
      · exact ih _
  exact hgo []

/-! ## 3. The values at a path -/

namespace Context

variable (c : Context)

/-- The names of the parts of the context that a path can be pinned to. -/
def partNames : List String := ["form", "process", "user"]

/-- **The values of a name**, each of which shadows those behind it: the part of the context that it
names, or else the form field, the process variable and the entry of the context. -/
def named : String → List Value
  | "form" => [.map c.form]
  | "process" => [.map c.process]
  | "user" => [c.user.toValue]
  | name => (Dict.get? c.form name).toList ++ (Dict.get? c.process name).toList
      ++ (c.root? name).toList

/-- A name of a part has no other value. -/
theorem named_of_mem_partNames {name : String} (h : name ∈ partNames) :
    ∃ v, c.named name = [v] := by
  simp only [partNames, List.mem_cons, List.not_mem_nil, or_false] at h
  rcases h with rfl | rfl | rfl <;> exact ⟨_, rfl⟩

/-- **A path is walked down from the first value of its name from which all of it can be walked.** -/
theorem walk?_cons (name : String) (rest : List String) :
    c.walk? (name :: rest) = (c.named name).findSome? (·.walk? rest) := by
  have htoList : ∀ o : Option Value, o.toList.findSome? (·.walk? rest) = o.bind (·.walk? rest) := by
    intro o
    cases o <;> simp
  by_cases hform : name = "form"
  · subst hform
    exact (Dict.walk?_eq c.form rest).trans (by simp [named])
  by_cases hprocess : name = "process"
  · subst hprocess
    exact (Dict.walk?_eq c.process rest).trans (by simp [named])
  by_cases huser : name = "user"
  · subst huser
    simp [walk?, named]
  · simp [walk?, named, Dict.walk?, htoList]

/-- **The values at a path**: where it leads from the values of its name. -/
def valuesAt : List String → List Value
  | [] => []
  | name :: rest => (c.named name).filterMap (·.walk? rest)

/-- The first of them is the value of the path. -/
theorem resolve?_eq_head? (p : List Char) : c.resolve? p = (c.valuesAt (segments p)).head? := by
  obtain ⟨name, rest, hsegments⟩ := exists_segments p
  rw [resolve?, hsegments, walk?_cons, valuesAt, List.head?_filterMap]

/-- **A path that goes on** leads on from the first value at the shorter path from which the further
segments can be walked. -/
theorem resolve?_dotted (p : List Char) {qs : List (List Char)} (hqs : ∀ q ∈ qs, '.' ∉ q) :
    c.resolve? (dotted p qs)
      = (c.valuesAt (segments p)).findSome? (·.walk? (qs.map String.ofList)) := by
  obtain ⟨name, rest, hsegments⟩ := exists_segments p
  rw [resolve?, segments_dotted p hqs, hsegments, List.cons_append, walk?_cons, valuesAt,
    ← List.head?_filterMap, ← List.head?_filterMap, List.filterMap_filterMap]
  simp only [Value.walk?_append]

/-- **Where a path that goes on leads.**  If the shorter path has a value and the further segments
can be walked down from it, that is the value of the longer one.  If they cannot, and the path is
pinned to a part of the context, the longer one has no value.  Any other path leads on from the
first of the values that are shadowed by this one, of the same path among the process variables and
the entries of the context, from which the segments can be walked, if there is such a value. -/
theorem resolve?_onward {p : List Char} {v : Value} (hv : c.resolve? p = some v)
    {qs : List (List Char)} (hqs : ∀ q ∈ qs, '.' ∉ q) :
    let names := qs.map String.ofList
    ∃ shadowed, c.valuesAt (segments p) = v :: shadowed ∧
      (∀ w, v.walk? names = some w → c.resolve? (dotted p qs) = some w) ∧
      (v.walk? names = none → c.resolve? (dotted p qs) = shadowed.findSome? (·.walk? names)) ∧
      (∀ name ∈ partNames, (segments p).head? = some name →
        c.resolve? (dotted p qs) = v.walk? names) := by
  intro names
  rw [resolve?_eq_head?] at hv
  obtain ⟨shadowed, hvalues⟩ := List.head?_eq_some_iff.mp hv
  have honward := c.resolve?_dotted p hqs
  rw [hvalues, List.findSome?_cons] at honward
  refine ⟨shadowed, hvalues, fun w hw => ?_, fun hnone => ?_, fun name hname hhead => ?_⟩
  · rw [honward, hw]
  · rw [honward, hnone]
  · obtain ⟨rest, hsegments⟩ := List.head?_eq_some_iff.mp hhead
    obtain ⟨part, hpart⟩ := c.named_of_mem_partNames hname
    have hempty : shadowed = [] := by
      have hlength := congrArg List.length hvalues
      rw [hsegments, valuesAt, hpart] at hlength
      have hle := List.length_filterMap_le (·.walk? rest) [part]
      simp only [List.length_cons, List.length_nil] at hlength hle
      exact List.eq_nil_of_length_eq_zero (by omega)
    rw [honward, hempty]
    cases v.walk? names <;> rfl

/-- A form field and a process variable of one name, each with its own entries. -/
def Shadowing.fieldAndVariable : Context where
  form := [("a", .map [("x", .bool false), ("list", .list [.null])])]
  process := [("a", .map [("y", .bool true)])]

/-- The field is what `a` stands for and its entries come first; the entry that only the variable
has is found there; with the part named, it is not. -/
theorem resolve?_onward_of_field_and_variable :
    let c := Shadowing.fieldAndVariable
    c.resolve? "a.list.length".toList = some (.number (.ofNat 1)) ∧
      c.resolve? "a.y".toList = some (.bool true) ∧
      c.resolve? "form.a.y".toList = none := by
  have hlist : ∀ q ∈ [['l', 'i', 's', 't'], ['l', 'e', 'n', 'g', 't', 'h']], '.' ∉ q := by decide
  have hy : ∀ q ∈ [['y']], '.' ∉ q := by decide
  refine ⟨?_, ?_, ?_⟩
  · obtain ⟨_, -, hwalked, -⟩ :=
      resolve?_onward Shadowing.fieldAndVariable (p := ['a']) rfl hlist
    exact hwalked _ rfl
  · obtain ⟨_, hvalues, -, hfurther, -⟩ :=
      resolve?_onward Shadowing.fieldAndVariable (p := ['a']) rfl hy
    obtain ⟨-, rfl⟩ := List.cons.inj hvalues
    exact hfurther rfl
  · obtain ⟨_, -, -, -, hpart⟩ :=
      resolve?_onward Shadowing.fieldAndVariable (p := "form.a".toList) rfl hy
    exact hpart "form" (by decide) rfl

/-- The longer path need not lead on from the value of the shorter one. -/
theorem not_resolve?_onward_of_shadowed :
    ¬ ∀ (c : Context) (p : List Char) (v : Value) (qs : List (List Char)), qs ≠ [] →
      (∀ q ∈ qs, '.' ∉ q) → c.resolve? p = some v →
        c.resolve? (dotted p qs) = v.walk? (qs.map String.ofList) := by
  intro h
  have hfield := h Shadowing.fieldAndVariable ['a'] _ [['y']] (by decide) (by decide) rfl
  have hvariable : Shadowing.fieldAndVariable.resolve? (dotted ['a'] [['y']]) = some (.bool true) :=
    rfl
  rw [hvariable] at hfield
  exact Option.some_ne_none _ hfield

end Context

end FormLogic
