import FormLogic.Context.Decode

/-!
# Contexts and patches of the same document

A document can be read as a context or as a patch.  The two readings take the same fields by the
same readers; they differ in what they make of a field that is missing, and in that a patch takes
`null` for a missing field where a context needs form, process, user and grids to be there or to be
left out (`Record.get_eq_some_iff`).  So a document that is a context is also a patch, and the patch
makes that context of the empty one (`Context.ofDocument_eq_some_iff_patch`).
-/

namespace FormLogic

/-! ## 1. One field -/

namespace Record

variable {α : Type}

theorem getOptional_of_field {r : Record} {name : String} {d : Document}
    (read? : Document → Option α) (hfield : r.field? name = some d) (hd : d ≠ .null) :
    r.getOptional name read? = (read? d).map some := by
  unfold getOptional
  rw [hfield]
  cases d with
  | null => exact absurd rfl hd
  | bool | integer | double | string | list | entries | unreadable => rfl

/-- **A field with a default, read as an optional one.**  The readings agree but for `null`, which
the reader of the field does not take. -/
theorem get_eq_some_iff {r : Record} {name : String} {read? : Document → Option α} {default x : α}
    (hnull : read? .null = none) :
    r.get name read? default = some x ↔ r.field? name ≠ some .null ∧
      ∃ o, r.getOptional name read? = some o ∧ o.getD default = x := by
  cases hfield : r.field? name with
  | none => simp [get, getOptional, hfield]
  | some d =>
    by_cases hd : d = .null
    · simp [get, hfield, hd, hnull]
    · rw [getOptional_of_field read? hfield hd]
      cases hread : read? d <;> simp [get, hfield, hd, hread]

end Record

/-! ## 2. What is read of a whole document -/

/-- A context is its fields, each with its default. -/
theorem Context.ofDocument?_eq_some_iff_fields {d : Document} {c : Context} :
    Context.ofDocument? d = some c ↔ ∃ r, Record.ofExtendedDocument? d = some r ∧
      r.get "form" Document.values? [] = some c.form ∧
      r.get "process" Document.values? [] = some c.process ∧
      r.get "user" User.ofDocument? {} = some c.user ∧
      r.get "grids" (Document.dict? Grid.ofDocument?) [] = some c.grids ∧
      r.getOptional "task" Task.ofDocument? = some c.task? ∧
      r.getOptional "value" Value.ofDocument? = some c.value? := by
  obtain ⟨form, process, user, grids, task, value⟩ := c
  simp only [Context.ofDocument?, Context.ofBaseRecord?, Option.bind_eq_bind,
    Option.bind_eq_some_iff, Option.pure_def, Option.some.injEq, Context.mk.injEq]
  constructor
  · rintro ⟨r, hr, _, ⟨_, hform, _, hprocess, _, huser, rfl⟩, _, hgrids, _, htask, _, hvalue,
      rfl, rfl, rfl, rfl, rfl, rfl⟩
    exact ⟨r, hr, hform, hprocess, huser, hgrids, htask, hvalue⟩
  · rintro ⟨r, hr, hform, hprocess, huser, hgrids, htask, hvalue⟩
    exact ⟨r, hr, _, ⟨_, hform, _, hprocess, _, huser, rfl⟩, _, hgrids, _, htask, _, hvalue,
      rfl, rfl, rfl, rfl, rfl, rfl⟩

/-- A patch is its fields, each of which may be absent. -/
theorem ExtendedPatch.ofDocument?_eq_some_iff_fields {d : Document} {p : ExtendedPatch} :
    ExtendedPatch.ofDocument? d = some p ↔ ∃ r, Record.ofExtendedDocument? d = some r ∧
      r.getOptional "form" Document.values? = some p.form? ∧
      r.getOptional "process" Document.values? = some p.process? ∧
      r.getOptional "user" User.ofDocument? = some p.user? ∧
      r.getOptional "grids" (Document.dict? Grid.ofDocument?) = some p.grids? ∧
      r.getOptional "task" Task.ofDocument? = some p.task? ∧
      r.getOptional "value" Value.ofDocument? = some p.value? := by
  obtain ⟨⟨form, process, user⟩, grids, task, value⟩ := p
  simp only [ExtendedPatch.ofDocument?, Patch.ofRecord?, Option.bind_eq_bind,
    Option.bind_eq_some_iff, Option.pure_def, Option.some.injEq, ExtendedPatch.mk.injEq]
  constructor
  · rintro ⟨r, hr, _, ⟨_, hform, _, hprocess, _, huser, rfl⟩, _, hgrids, _, htask, _, hvalue,
      hbase, rfl, rfl, rfl⟩
    obtain ⟨rfl, rfl, rfl⟩ := Patch.mk.inj hbase
    exact ⟨r, hr, hform, hprocess, huser, hgrids, htask, hvalue⟩
  · rintro ⟨r, hr, hform, hprocess, huser, hgrids, htask, hvalue⟩
    exact ⟨r, hr, _, ⟨_, hform, _, hprocess, _, huser, rfl⟩, _, hgrids, _, htask, _, hvalue,
      rfl, rfl, rfl, rfl⟩

/-! ## 3. Context and patch -/

/-- The entries that a context has in any case, empty ones where a document leaves them out. -/
def Context.requiredNames : List String := ["form", "process", "user", "grids"]

/-- The empty context takes over what a patch carries. -/
theorem Context.empty_applyExtended (p : ExtendedPatch) :
    Context.empty.applyExtended p = {
      form := p.form?.getD []
      process := p.process?.getD []
      user := p.user?.getD {}
      grids := p.grids?.getD []
      task? := p.task?
      value? := p.value? } := by
  simp [Context.applyExtended, Context.apply, Context.empty]

/-- **The two ways to make a context of a document agree.**  A document is a context just when it is
a patch, none of the required entries being `null`, and then the patch makes that context of the
empty one. -/
theorem Context.ofDocument_eq_some_iff_patch {d : Document} {c : Context} :
    Context.ofDocument? d = some c ↔
      (∃ p, ExtendedPatch.ofDocument? d = some p ∧ Context.empty.applyExtended p = c) ∧
      ∀ r, Record.ofExtendedDocument? d = some r →
        ∀ name ∈ Context.requiredNames, r.field? name ≠ some .null := by
  rw [Context.ofDocument?_eq_some_iff_fields]
  simp only [ExtendedPatch.ofDocument?_eq_some_iff_fields,
    Record.get_eq_some_iff (rfl : Document.values? .null = none),
    Record.get_eq_some_iff (rfl : User.ofDocument? .null = none),
    Record.get_eq_some_iff (rfl : Document.dict? Grid.ofDocument? .null = none)]
  constructor
  · rintro ⟨r, hr, ⟨hform, form, hform', heqf⟩, ⟨hprocess, process, hprocess', heqp⟩,
      ⟨huser, user, huser', hequ⟩, ⟨hgrids, grids, hgrids', heqg⟩, htask, hvalue⟩
    refine ⟨⟨⟨⟨form, process, user⟩, grids, c.task?, c.value?⟩,
      ⟨r, hr, hform', hprocess', huser', hgrids', htask, hvalue⟩, ?_⟩, ?_⟩
    · rw [Context.empty_applyExtended, heqf, heqp, hequ, heqg]
    · intro r' hr'
      obtain rfl := Option.some.inj (hr.symm.trans hr')
      simpa [Context.requiredNames] using ⟨hform, hprocess, huser, hgrids⟩
  · rintro ⟨⟨p, ⟨r, hr, hform, hprocess, huser, hgrids, htask, hvalue⟩, rfl⟩, hnull⟩
    rw [Context.empty_applyExtended]
    have hnull := hnull r hr
    simp only [Context.requiredNames, List.mem_cons, List.not_mem_nil, or_false, forall_eq_or_imp,
      forall_eq] at hnull
    obtain ⟨hform', hprocess', huser', hgrids'⟩ := hnull
    exact ⟨r, hr, ⟨hform', _, hform, rfl⟩, ⟨hprocess', _, hprocess, rfl⟩, ⟨huser', _, huser, rfl⟩,
      ⟨hgrids', _, hgrids, rfl⟩, htask, hvalue⟩

/-- A patch takes `null` for a missing entry, a context does not. -/
example : (ExtendedPatch.ofDocument? (.entries [("form", .null)])).isSome = true ∧
    (Context.ofDocument? (.entries [("form", .null)])).isSome = false := by
  constructor <;> rfl

end FormLogic
