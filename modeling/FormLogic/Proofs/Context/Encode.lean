import FormLogic.Context.Encode
import FormLogic.Proofs.Context.Decode
import FormLogic.Proofs.Value.Document

/-!
# Contexts are stored without loss

The document of a context is read as that context again, field by field: what one side leaves out
the other takes for absent, and the names agree (`Context.ofDocument?_toDocument_eq`).  The one loss
is an explicit `null` as the value under validation, which a document cannot tell from no value.

Numbers have to be finite, and maps ordered, which they are in every context that was read
(`Context.ordered_of_ofDocument?`).
-/

namespace FormLogic

/-! ## 1. Lists, maps and records -/

namespace Document

variable {α : Type} {read? : Document → Option α} {write : α → Document}

theorem list?_map {xs : List α} (h : ∀ x ∈ xs, read? (write x) = some x) :
    list? read? (.list (xs.map write)) = some xs := by
  rw [list?]
  induction xs with
  | nil => rfl
  | cons x xs ih =>
    simp [h x List.mem_cons_self, ih fun y hy => h y (List.mem_cons_of_mem _ hy)]

theorem list?_ofTexts (texts : List String) : list? text? (ofTexts texts) = some texts :=
  list?_map fun _ _ => rfl

theorem exists_of_mem_list? {d : Document} {xs : List α} (h : d.list? read? = some xs) :
    ∀ x ∈ xs, ∃ d', read? d' = some x := by
  cases d with
  | list items =>
    rw [list?] at h
    induction items generalizing xs with
    | nil =>
      obtain rfl := Option.some.inj h
      exact fun _ hx => nomatch hx
    | cons item items ih =>
      simp only [List.mapM_cons, Option.bind_eq_bind, Option.bind_eq_some_iff, Option.pure_def,
        Option.some.injEq] at h
      obtain ⟨y, hy, ys, hys, rfl⟩ := h
      exact List.forall_mem_cons.mpr ⟨⟨item, hy⟩, ih hys⟩
  | _ => exact nomatch h

theorem dict?_entries (es : List (String × Document)) :
    dict? read? (.entries es)
      = (es.mapM fun e => (read? e.2).bind fun x => some (e.1, x)).bind fun entries =>
          some (Dict.ofList entries) := rfl

theorem dict?_map {d : Dict α} (hd : d.Ordered) (h : ∀ e ∈ d, read? (write e.2) = some e.2) :
    dict? read? (.entries (d.map fun e => (e.1, write e.2))) = some d := by
  have hentries : (d.map fun e => (e.1, write e.2)).mapM
      (fun e => (read? e.2).bind fun x => some (e.1, x)) = some d := by
    clear hd
    induction d with
    | nil => rfl
    | cons e d ih =>
      rw [List.map_cons, List.mapM_cons, h e List.mem_cons_self,
        ih fun e' he' => h e' (List.mem_cons_of_mem _ he')]
      rfl
  rw [dict?_entries, hentries, Option.bind_some, Dict.ofList_eq_self hd]

theorem ordered_of_dict? {d : Document} {m : Dict α} (h : d.dict? read? = some m) :
    m.Ordered ∧ ∀ e ∈ m, ∃ d', read? d' = some e.2 := by
  cases d with
  | entries es =>
    obtain ⟨entries, hentries, hm⟩ := Option.bind_eq_some_iff.mp h
    obtain rfl := Option.some.inj hm
    refine ⟨Dict.ordered_ofList entries, fun e he => ?_⟩
    replace he := Dict.mem_ofList he
    clear h hm
    induction es generalizing entries with
    | nil =>
      obtain rfl := Option.some.inj hentries
      exact nomatch he
    | cons first es ih =>
      simp only [List.mapM_cons, Option.bind_eq_bind, Option.bind_eq_some_iff, Option.pure_def,
        Option.some.injEq] at hentries
      obtain ⟨_, ⟨x, hx, rfl⟩, rest, hrest, rfl⟩ := hentries
      rcases List.mem_cons.mp he with rfl | he
      · exact ⟨_, hx⟩
      · exact ih rest hrest he
  | _ => exact nomatch h

end Document

namespace Record

variable {α : Type} {r : Record} {name : String} {read? : Document → Option α}

/-- Fields of known and different names are the record. -/
theorem ofEntries?_eq_self (names : List String) (es : List (String × Document))
    (hknown : ∀ e ∈ es, e.1 ∈ names) (hnodup : (es.map Prod.fst).Nodup) :
    ofEntries? names es = some es := by
  have hfilter : es.filter (fun e => names.contains e.1) = es :=
    List.filter_eq_self.mpr fun e he => List.contains_iff_mem.mpr (hknown e he)
  have hread : ofEntries? names es = if ((es.filter fun e => names.contains e.1).map Prod.fst).Nodup
      then some (es.filter fun e => names.contains e.1) else none := rfl
  rw [hread, hfilter, if_pos hnodup]

theorem get_eq_default_or {default x : α} (h : r.get name read? default = some x) :
    x = default ∨ ∃ d, read? d = some x := by
  unfold get at h
  split at h
  · exact .inr ⟨_, h⟩
  · exact .inl (Option.some.inj h).symm

/-- An optional field that is written where it is set. -/
theorem getOptional_of_map (write : α → Document) {o : Option α}
    (hfield : r.field? name = o.map write) (hread : ∀ x ∈ o, read? (write x) = some x)
    (hnull : ∀ x, write x ≠ .null) : r.getOptional name read? = some o := by
  cases o with
  | none => simp [getOptional, hfield]
  | some x => rw [getOptional_of_field read? hfield (hnull x), hread x rfl, Option.map_some]

theorem exists_of_getOptional {x : α} (h : r.getOptional name read? = some (some x)) :
    ∃ d, read? d = some x := by
  unfold getOptional at h
  split at h
  · exact nomatch h
  · exact nomatch h
  · obtain ⟨y, hy, hx⟩ := Option.map_eq_some_iff.mp h
    obtain rfl := Option.some.inj hx
    exact ⟨_, hy⟩

end Record

/-! ## 2. The values of a context -/

theorem Value.mem_entriesNumbers {x : Binary64} {es : List (String × Value)} :
    x ∈ Value.entriesNumbers es ↔ ∃ e ∈ es, x ∈ e.2.numbers := by
  induction es with
  | nil => simp [Value.entriesNumbers]
  | cons e es ih => simp [Value.entriesNumbers, ih]

/-- **A value that a document holds exactly**: its maps are in order and its numbers finite. -/
structure Value.Storable (v : Value) : Prop where
  ordered : v.Ordered
  finite : ∀ x ∈ v.numbers, x.isFinite = true

theorem Value.Storable.entry {d : Dict Value} (h : (Value.map d).Storable) {e : String × Value}
    (he : e ∈ d) : e.2.Storable :=
  ⟨Value.entriesOrdered_iff.mp h.ordered.2 e he,
    fun x hx => h.finite x (Value.mem_entriesNumbers.mpr ⟨e, he, hx⟩)⟩

theorem Value.Storable.ofDocument?_toDocument {v : Value} (h : v.Storable) :
    Value.ofDocument? v.toDocument = some v :=
  Value.ofDocument?_toDocument h.ordered h.finite

/-- The rows of a grid, wherever they stand, as values. -/
def Grid.values (g : Grid) : List Value :=
  (g.rows ++ g.selectedRows?.getD [] ++ g.selectedRow?.toList).map .map

/-- All values that a context is made of. -/
def Context.values (c : Context) : List Value :=
  .map c.form :: .map c.process :: (c.grids.flatMap fun e => e.2.values) ++ c.value?.toList

/-- All numbers in a context, at any depth. -/
def Context.numbers (c : Context) : List Binary64 := c.values.flatMap Value.numbers

/-- The entries of every map in the context ascend by key. -/
structure Context.Ordered (c : Context) : Prop where
  grids : Dict.Ordered c.grids
  values : ∀ v ∈ c.values, v.Ordered

theorem Value.entriesToDocuments_eq_map (number : Binary64 → Document)
    (es : List (String × Value)) :
    Value.entriesToDocuments number es = es.map fun e => (e.1, e.2.toDocumentBy number) := by
  induction es with
  | nil => rfl
  | cons e es ih => simp [Value.entriesToDocuments, ih]

theorem Document.values?_ofValues {d : Dict Value} (h : (Value.map d).Storable) :
    Document.values? (.ofValues d) = some d := by
  have hentries : Document.ofValues d = .entries (d.map fun e => (e.1, e.2.toDocument)) :=
    congrArg Document.entries (Value.entriesToDocuments_eq_map _ d)
  rw [Document.values?, hentries,
    Document.dict?_map h.ordered.1 fun e he => (h.entry he).ofDocument?_toDocument]

/-! ## 3. Writing and reading the parts -/

/-- The entries of a document that is a map. -/
def Document.fields : Document → Record
  | .entries es => es
  | _ => []

theorem User.ofDocument?_toDocument (u : User) : User.ofDocument? u.toDocument = some u := by
  let names := ["id", "username", "roles", "groups"]
  have hrecord : Record.ofDocument? names u.toDocument = some u.toDocument.fields :=
    Record.ofEntries?_eq_self names u.toDocument.fields
      (by simp [toDocument, Document.fields, names]) (by simp [toDocument, Document.fields])
  have hid : u.toDocument.fields.get "id" Document.text? "" = some u.id := rfl
  have husername : u.toDocument.fields.get "username" Document.text? "" = some u.username := rfl
  have hroles :
      u.toDocument.fields.get "roles" (Document.list? Document.text?) [] = some u.roles :=
    Document.list?_ofTexts u.roles
  have hgroups :
      u.toDocument.fields.get "groups" (Document.list? Document.text?) [] = some u.groups :=
    Document.list?_ofTexts u.groups
  rw [User.ofDocument?, hrecord, Option.bind_eq_bind, Option.bind_some, hid, husername, hroles,
    hgroups]
  rfl

theorem Task.ofDocument?_toDocument (t : Task) : Task.ofDocument? t.toDocument = some t := by
  let names := ["id", "name", "taskDefinitionKey"]
  have hrecord : Record.ofDocument? names t.toDocument = some t.toDocument.fields :=
    Record.ofEntries?_eq_self names t.toDocument.fields
      (by simp [toDocument, Document.fields, names]) (by simp [toDocument, Document.fields])
  have hid : t.toDocument.fields.get "id" Document.text? "" = some t.id := rfl
  have hname : t.toDocument.fields.get "name" Document.text? "" = some t.name := rfl
  have hkey :
      t.toDocument.fields.get "taskDefinitionKey" Document.text? "" = some t.definitionKey := rfl
  rw [Task.ofDocument?, hrecord, Option.bind_eq_bind, Option.bind_some, hid, hname, hkey]
  rfl

theorem Document.list?_rows {rows : List Row} (h : ∀ row ∈ rows, (Value.map row).Storable) :
    Document.list? Document.values? (.list (rows.map .ofValues)) = some rows :=
  Document.list?_map fun row hrow => Document.values?_ofValues (h row hrow)

theorem Grid.ofDocument?_toDocument {g : Grid} (h : ∀ v ∈ g.values, v.Storable) :
    Grid.ofDocument? g.toDocument = some g := by
  let names := ["rows", "selectedRows", "selectedRow"]
  obtain ⟨rows, selectedRows, selectedRow⟩ := g
  have hvalues : ∀ row ∈ rows ++ selectedRows.getD [] ++ selectedRow.toList,
      (Value.map row).Storable := fun row hrow => h _ (List.mem_map_of_mem hrow)
  let d : Document := Grid.toDocument ⟨rows, selectedRows, selectedRow⟩
  have hrecord : Record.ofDocument? names d = some d.fields := by
    refine Record.ofEntries?_eq_self names d.fields ?_ ?_ <;>
      cases selectedRows <;> cases selectedRow <;> simp [d, toDocument, Document.fields, names]
  have hrows : d.fields.get "rows" (Document.list? Document.values?) [] = some rows :=
    Document.list?_rows fun row hrow =>
      hvalues row (List.mem_append_left _ (List.mem_append_left _ hrow))
  have hselectedRows :
      d.fields.getOptional "selectedRows" (Document.list? Document.values?)
        = some selectedRows := by
    refine Record.getOptional_of_map (fun rows => .list (rows.map .ofValues)) ?_ ?_
      (fun _ => nofun)
    · cases selectedRows <;> cases selectedRow <;> rfl
    · rintro rows' rfl
      exact Document.list?_rows fun row hrow =>
        hvalues row (List.mem_append_left _ (List.mem_append_right _ hrow))
  have hselectedRow : d.fields.getOptional "selectedRow" Document.values? = some selectedRow := by
    refine Record.getOptional_of_map .ofValues ?_ ?_ (fun _ => nofun)
    · cases selectedRows <;> cases selectedRow <;> rfl
    · rintro row rfl
      exact Document.values?_ofValues (hvalues row (by simp))
  rw [Grid.ofDocument?, hrecord, Option.bind_eq_bind, Option.bind_some, hrows, hselectedRows,
    hselectedRow]
  rfl

/-! ## 4. Writing and reading a context -/

theorem Value.toDocument_ne_null {v : Value} (hne : v ≠ .null)
    (hfinite : ∀ x ∈ v.numbers, x.isFinite = true) : v.toDocument ≠ .null := by
  cases v with
  | null => exact absurd rfl hne
  | number x =>
    have hx : x.toDocument = .double x := if_pos (hfinite x (List.mem_singleton_self x))
    show x.toDocument ≠ .null
    rw [hx]
    exact nofun
  | bool | string | list | map => exact nofun

/-- An optional value comes back, an explicit `null` as no value. -/
theorem Record.getOptional_value {r : Record} {name : String} {o : Option Value}
    (hfield : r.field? name = o.map Value.toDocument) (h : ∀ v ∈ o, v.Storable) :
    r.getOptional name Value.ofDocument? = some (o.filter (!·.isNull)) := by
  cases o with
  | none => simp [getOptional, hfield]
  | some v =>
    by_cases hv : v = .null
    · subst hv
      simp only [getOptional, hfield]
      rfl
    · have hkept : (some v).filter (!·.isNull) = some v := by
        cases v with
        | null => exact absurd rfl hv
        | _ => rfl
      rw [getOptional_of_field _ hfield (Value.toDocument_ne_null hv (h v rfl).finite),
        (h v rfl).ofDocument?_toDocument, Option.map_some, hkept]

theorem Document.isReadable_ofValues {d : Dict Value} (h : (Value.map d).Storable) :
    (Document.ofValues d).isReadable = true := by
  rw [isReadable, ofValues, h.ofDocument?_toDocument, Option.isSome_some]

theorem User.isReadable_toDocument (u : User) : u.toDocument.isReadable = true := by
  have htexts : ∀ texts : List String,
      Value.listOfDocuments? (texts.map .string) = some (texts.map .string) := by
    intro texts
    induction texts with
    | nil => rfl
    | cons text texts ih => simp [Value.listOfDocuments?, Value.ofDocument?, ih]
  simp [Document.isReadable, toDocument, Document.ofTexts, Value.ofDocument?,
    Value.entriesOfDocuments?, htexts]

/-- **A context that a document holds exactly**, but for a `null` as its value. -/
structure Context.Storable (c : Context) : Prop where
  ordered : Dict.Ordered c.grids
  values : ∀ v ∈ c.values, v.Storable

theorem Context.Ordered.storable {c : Context} (h : c.Ordered)
    (hfinite : ∀ x ∈ c.numbers, x.isFinite = true) : c.Storable :=
  ⟨h.grids, fun v hv =>
    ⟨h.values v hv, fun x hx => hfinite x (List.mem_flatMap.mpr ⟨v, hv, hx⟩)⟩⟩

namespace Context.Storable

variable {c : Context} (h : c.Storable)

include h

theorem form : (Value.map c.form).Storable := h.values _ (by simp [Context.values])

theorem process : (Value.map c.process).Storable := h.values _ (by simp [Context.values])

theorem grid {e : String × Grid} (he : e ∈ c.grids) : ∀ v ∈ e.2.values, v.Storable := fun v hv =>
  h.values v <| List.mem_cons_of_mem _ <| List.mem_cons_of_mem _ <| List.mem_append_left _ <|
    List.mem_flatMap.mpr ⟨e, he, hv⟩

theorem value {v : Value} (hv : v ∈ c.value?) : v.Storable :=
  h.values v <| List.mem_cons_of_mem _ <| List.mem_cons_of_mem _ <| List.mem_append_right _ <|
    Option.mem_toList.mpr hv

/-- All fields of the document are known and different, and those that have no reader of their own
are readable. -/
theorem ofExtendedDocument?_toDocument :
    Record.ofExtendedDocument? c.toDocument = some c.toDocument.fields := by
  have hform := Document.isReadable_ofValues h.form
  have hprocess := Document.isReadable_ofValues h.process
  clear h
  obtain ⟨form, process, user, grids, task, value⟩ := c
  let d : Document := Context.toDocument ⟨form, process, user, grids, task, value⟩
  have hreadable :
      (d.fields.all fun e => Context.extendedNames.contains e.1 || e.2.isReadable) = true := by
    cases task <;> cases value <;>
      simp [d, toDocument, Document.fields, Context.extendedNames, hform, hprocess,
        user.isReadable_toDocument]
  refine (if_pos hreadable).trans
    (Record.ofEntries?_eq_self (baseNames ++ extendedNames) d.fields ?_ ?_) <;>
    cases task <;> cases value <;>
      simp [d, toDocument, Document.fields, baseNames, extendedNames]

end Context.Storable

theorem Context.field?_task (c : Context) :
    c.toDocument.fields.field? "task" = c.task?.map Task.toDocument := by
  obtain ⟨form, process, user, grids, task, value⟩ := c
  cases task <;> cases value <;> rfl

theorem Context.field?_value (c : Context) :
    c.toDocument.fields.field? "value" = c.value?.map Value.toDocument := by
  obtain ⟨form, process, user, grids, task, value⟩ := c
  cases task <;> cases value <;> rfl

/-- **A context is stored without loss.**  The document of a context of finite numbers is read as
the context again; only a value that is an explicit `null` comes back as no value. -/
theorem Context.ofDocument?_toDocument_eq {c : Context} (hordered : c.Ordered)
    (hfinite : ∀ x ∈ c.numbers, x.isFinite = true) :
    Context.ofDocument? c.toDocument
      = some { c with value? := c.value?.filter (!·.isNull) } := by
  have h := hordered.storable hfinite
  refine Context.ofDocument?_eq_some_iff_fields.mpr
    ⟨c.toDocument.fields, h.ofExtendedDocument?_toDocument, ?_, ?_, ?_, ?_, ?_, ?_⟩
  · exact Document.values?_ofValues h.form
  · exact Document.values?_ofValues h.process
  · exact c.user.ofDocument?_toDocument
  · exact Document.dict?_map h.ordered fun e he => Grid.ofDocument?_toDocument (h.grid he)
  · exact Record.getOptional_of_map Task.toDocument c.field?_task
      (fun t _ => t.ofDocument?_toDocument) (fun _ => nofun)
  · exact Record.getOptional_value c.field?_value fun _ hv => h.value hv

/-- A context with a value in every entry, the last of which is an explicit `null`. -/
theorem Context.ofDocument?_toDocument_eq_of_null_value :
    let c : Context := {
      form := [("prices", .list [.number (.ofNat 1000), .map [("a", .null)], .string "x"])]
      process := [("a", .bool true)]
      user := { id := "u1", roles := ["admin"] }
      grids := [("items", { rows := [[("price", .number .one)]], selectedRow? := some [] })]
      task? := some { definitionKey := "approve" }
      value? := some .null }
    c.Ordered ∧ (∀ x ∈ c.numbers, x.isFinite = true) ∧
      Context.ofDocument? c.toDocument = some { c with value? := none } := by
  intro c
  have hordered : c.Ordered := by
    constructor
    · exact List.pairwise_singleton _ _
    · simp [c, Context.values, Grid.values, Value.Ordered, Value.entriesOrdered, Value.listOrdered,
        Dict.Ordered]
  have hnumbers : c.numbers = [.ofNat 1000, .one] := rfl
  have hfinite : ∀ x ∈ c.numbers, x.isFinite = true := by
    rw [hnumbers]
    decide +kernel
  exact ⟨hordered, hfinite, Context.ofDocument?_toDocument_eq hordered hfinite⟩

/-! ## 5. What is read is ordered -/

theorem Document.ordered_of_values? {d : Document} {m : Dict Value} (h : d.values? = some m) :
    (Value.map m).Ordered := by
  obtain ⟨hordered, hread⟩ := Document.ordered_of_dict? h
  refine ⟨hordered, Value.entriesOrdered_iff.mpr fun e he => ?_⟩
  obtain ⟨d', hd'⟩ := hread e he
  exact Value.ordered_of_ofDocument? d' hd'

theorem Record.ordered_of_get {r : Record} {name : String} {m : Dict Value}
    (h : r.get name Document.values? [] = some m) : (Value.map m).Ordered := by
  rcases Record.get_eq_default_or h with rfl | ⟨d, hd⟩
  · exact ⟨List.Pairwise.nil, trivial⟩
  · exact Document.ordered_of_values? hd

theorem Document.ordered_of_rows {d : Document} {rows : List Row}
    (h : d.list? Document.values? = some rows) : ∀ row ∈ rows, (Value.map row).Ordered := by
  intro row hrow
  obtain ⟨d', hd'⟩ := Document.exists_of_mem_list? h row hrow
  exact Document.ordered_of_values? hd'

theorem Grid.ordered_of_ofDocument? {d : Document} {g : Grid} (h : Grid.ofDocument? d = some g) :
    ∀ v ∈ g.values, v.Ordered := by
  obtain ⟨r, -, h⟩ := Option.bind_eq_some_iff.mp h
  obtain ⟨rows, hrows, h⟩ := Option.bind_eq_some_iff.mp h
  obtain ⟨selectedRows, hselectedRows, h⟩ := Option.bind_eq_some_iff.mp h
  obtain ⟨selectedRow, hselectedRow, h⟩ := Option.bind_eq_some_iff.mp h
  obtain rfl := Option.some.inj h
  intro v hv
  obtain ⟨row, hrow, rfl⟩ := List.mem_map.mp hv
  rcases List.mem_append.mp hrow with hrow | hrow
  · rcases List.mem_append.mp hrow with hrow | hrow
    · rcases Record.get_eq_default_or hrows with rfl | ⟨d, hd⟩
      · exact nomatch hrow
      · exact Document.ordered_of_rows hd row hrow
    · cases selectedRows with
      | none => exact nomatch hrow
      | some rows' =>
        obtain ⟨d, hd⟩ := Record.exists_of_getOptional hselectedRows
        exact Document.ordered_of_rows hd row hrow
  · cases selectedRow with
    | none => exact nomatch hrow
    | some row' =>
      obtain rfl := List.mem_singleton.mp hrow
      obtain ⟨d, hd⟩ := Record.exists_of_getOptional hselectedRow
      exact Document.ordered_of_values? hd

/-- **Every context that is read is ordered**, whatever order its document has. -/
theorem Context.ordered_of_ofDocument? {d : Document} {c : Context}
    (h : Context.ofDocument? d = some c) : c.Ordered := by
  obtain ⟨r, -, hform, hprocess, -, hgrids, -, hvalue⟩ :=
    Context.ofDocument?_eq_some_iff_fields.mp h
  have hgrids : c.grids.Ordered ∧ ∀ e ∈ c.grids, ∀ v ∈ e.2.values, v.Ordered := by
    rcases Record.get_eq_default_or hgrids with hnone | ⟨d, hd⟩
    · rw [hnone]
      exact ⟨List.Pairwise.nil, fun _ he => nomatch he⟩
    · obtain ⟨hordered, hread⟩ := Document.ordered_of_dict? hd
      refine ⟨hordered, fun e he => ?_⟩
      obtain ⟨d', hd'⟩ := hread e he
      exact Grid.ordered_of_ofDocument? hd'
  refine ⟨hgrids.1, fun v hv => ?_⟩
  rcases List.mem_append.mp hv with hv | hv
  · rcases List.mem_cons.mp hv with rfl | hv
    · exact Record.ordered_of_get hform
    rcases List.mem_cons.mp hv with rfl | hv
    · exact Record.ordered_of_get hprocess
    · obtain ⟨e, he, hv⟩ := List.mem_flatMap.mp hv
      exact hgrids.2 e he v hv
  · rw [Option.mem_toList] at hv
    rw [Option.mem_def.mp hv] at hvalue
    obtain ⟨d, hd⟩ := Record.exists_of_getOptional hvalue
    exact Value.ordered_of_ofDocument? d hd

end FormLogic
