import FormLogic.Document

/-!
# Values and their documents

Written as a document and read again, a value is the same but for its numbers: what becomes of
these is for the way they are written to say (`Value.ofDocument?_toDocumentBy`).  Reading puts the
entries of a map in order, so a value has to have them in order to begin with; every value that
was read has (`Value.ordered_of_ofDocument?`).
-/

namespace FormLogic

/-! ## 1. Maps -/

namespace Dict

variable {α : Type} {d : Dict α}

theorem mem_insert {key : String} {value : α} {e : String × α} (h : e ∈ insert d key value) :
    e = (key, value) ∨ e ∈ d := by
  induction d with
  | nil => exact .inl (List.mem_singleton.mp h)
  | cons head d ih =>
    obtain ⟨k, v⟩ := head
    simp only [insert] at h
    split at h
    · exact List.mem_cons.mp h
    split at h
    · exact (List.mem_cons.mp h).imp_right (List.mem_cons_of_mem _)
    · rcases List.mem_cons.mp h with rfl | h
      · exact .inr List.mem_cons_self
      · exact (ih h).imp_right (List.mem_cons_of_mem _)

theorem Ordered.insert (h : d.Ordered) (key : String) (value : α) :
    Ordered (insert d key value) := by
  induction d with
  | nil => exact List.pairwise_singleton _ _
  | cons head d ih =>
    obtain ⟨k, v⟩ := head
    obtain ⟨hhead, hd⟩ := List.pairwise_cons.mp h
    simp only [Dict.insert]
    split
    · next hlt =>
      refine List.pairwise_cons.mpr ⟨?_, h⟩
      rintro e he
      rcases List.mem_cons.mp he with rfl | he
      · exact hlt
      · exact String.lt_trans hlt (hhead e he)
    split
    · next heq =>
      subst heq
      exact List.pairwise_cons.mpr ⟨hhead, hd⟩
    · next hge hne =>
      refine List.pairwise_cons.mpr ⟨?_, ih hd⟩
      rintro e he
      rcases mem_insert he with rfl | he
      · exact (Std.lt_trichotomy k key).resolve_right (not_or.mpr ⟨Ne.symm hne, hge⟩)
      · exact hhead e he

/-- **Entries in any order make an ordered map.** -/
theorem ordered_ofList (entries : List (String × α)) : Ordered (ofList entries) := by
  have key : ∀ d : Dict α, d.Ordered →
      Ordered (entries.foldl (fun d e => Dict.insert d e.1 e.2) d) := by
    induction entries with
    | nil => exact fun _ h => h
    | cons e entries ih => exact fun d h => ih _ (h.insert e.1 e.2)
  exact key [] List.Pairwise.nil

theorem mem_ofList {entries : List (String × α)} {e : String × α} (h : e ∈ ofList entries) :
    e ∈ entries := by
  have key : ∀ d : Dict α, e ∈ entries.foldl (fun d e => Dict.insert d e.1 e.2) d →
      e ∈ d ∨ e ∈ entries := by
    clear h
    induction entries with
    | nil => exact fun _ h => .inl h
    | cons first entries ih =>
      intro d hd
      rcases ih _ hd with hd | hd
      · rcases mem_insert hd with rfl | hd
        · exact .inr List.mem_cons_self
        · exact .inl hd
      · exact .inr (List.mem_cons_of_mem _ hd)
  exact (key [] h).resolve_left List.not_mem_nil

theorem insert_of_forall_lt {key : String} (h : ∀ e ∈ d, e.1 < key) (value : α) :
    insert d key value = d ++ [(key, value)] := by
  induction d with
  | nil => rfl
  | cons head d ih =>
    obtain ⟨k, v⟩ := head
    have hk : k < key := h _ List.mem_cons_self
    have hne : key ≠ k := fun heq => String.lt_irrefl k (heq ▸ hk)
    simp [insert, String.lt_asymm hk, hne, ih fun e he => h e (List.mem_cons_of_mem _ he)]

/-- **An ordered map is made of its entries.** -/
theorem ofList_eq_self (h : d.Ordered) : ofList d = d := by
  have key : ∀ rest front : Dict α, Ordered (front ++ rest) →
      rest.foldl (fun d e => Dict.insert d e.1 e.2) front = front ++ rest := by
    intro rest
    induction rest with
    | nil => simp
    | cons e rest ih =>
      obtain ⟨k, v⟩ := e
      intro front h
      have hlast : ∀ e' ∈ front, e'.1 < k :=
        fun e' he' => (List.pairwise_append.mp h).2.2 e' he' _ List.mem_cons_self
      simp only [List.foldl_cons]
      rw [insert_of_forall_lt hlast, ih _ (by simpa using h)]
      simp
  exact key d [] h

end Dict

/-! ## 2. Order and numbers of a value -/

namespace Value

mutual

/-- The entries of every map in the value ascend by key. -/
def Ordered : Value → Prop
  | .list items => listOrdered items
  | .map es => Dict.Ordered es ∧ entriesOrdered es
  | _ => True

def listOrdered : List Value → Prop
  | [] => True
  | v :: vs => v.Ordered ∧ listOrdered vs

def entriesOrdered : List (String × Value) → Prop
  | [] => True
  | (_, v) :: es => v.Ordered ∧ entriesOrdered es

end

mutual

/-- All numbers in a value, at any depth. -/
def numbers : Value → List Binary64
  | .number x => [x]
  | .list items => listNumbers items
  | .map es => entriesNumbers es
  | _ => []

def listNumbers : List Value → List Binary64
  | [] => []
  | v :: vs => v.numbers ++ listNumbers vs

def entriesNumbers : List (String × Value) → List Binary64
  | [] => []
  | (_, v) :: es => v.numbers ++ entriesNumbers es

end

mutual

/-- The value with something else in place of each of its numbers. -/
def mapNumbers (f : Binary64 → Value) : Value → Value
  | .number x => f x
  | .list items => .list (listMapNumbers f items)
  | .map es => .map (entriesMapNumbers f es)
  | v => v

def listMapNumbers (f : Binary64 → Value) : List Value → List Value
  | [] => []
  | v :: vs => v.mapNumbers f :: listMapNumbers f vs

def entriesMapNumbers (f : Binary64 → Value) : List (String × Value) → List (String × Value)
  | [] => []
  | (key, v) :: es => (key, v.mapNumbers f) :: entriesMapNumbers f es

end

theorem entriesOrdered_iff {es : List (String × Value)} :
    entriesOrdered es ↔ ∀ e ∈ es, e.2.Ordered := by
  induction es with
  | nil => simp [entriesOrdered]
  | cons e es ih => simp [entriesOrdered, ih]

theorem listMapNumbers_eq_map (f : Binary64 → Value) (vs : List Value) :
    listMapNumbers f vs = vs.map (mapNumbers f) := by
  induction vs with
  | nil => rfl
  | cons v vs ih => rw [listMapNumbers, ih, List.map_cons]

@[simp] theorem map_fst_entriesMapNumbers (f : Binary64 → Value) (es : List (String × Value)) :
    (entriesMapNumbers f es).map Prod.fst = es.map Prod.fst := by
  induction es with
  | nil => rfl
  | cons e es ih => simp [entriesMapNumbers, ih]

/-- Order is a matter of the keys. -/
theorem ordered_entriesMapNumbers (f : Binary64 → Value) {es : Dict Value}
    (h : Dict.Ordered es) : Dict.Ordered (entriesMapNumbers f es) := by
  have hkeys : (es.map Prod.fst).Pairwise (· < ·) := List.pairwise_map.mpr h
  rw [← map_fst_entriesMapNumbers f] at hkeys
  exact List.pairwise_map.mp hkeys

section Same

variable {f : Binary64 → Value}

mutual

/-- Where every number stays, the value stays. -/
theorem mapNumbers_eq_self : ∀ v : Value, (∀ x ∈ v.numbers, f x = .number x) → v.mapNumbers f = v
  | .number x, h => h x (List.mem_singleton_self x)
  | .list items, h => congrArg Value.list (listMapNumbers_eq_self items h)
  | .map es, h => congrArg Value.map (entriesMapNumbers_eq_self es h)
  | .null, _ | .bool _, _ | .string _, _ => rfl

theorem listMapNumbers_eq_self :
    ∀ vs : List Value, (∀ x ∈ listNumbers vs, f x = .number x) → listMapNumbers f vs = vs
  | [], _ => rfl
  | v :: vs, h => by
    have hv := mapNumbers_eq_self v fun x hx => h x (List.mem_append_left _ hx)
    have hvs := listMapNumbers_eq_self vs fun x hx => h x (List.mem_append_right _ hx)
    rw [listMapNumbers, hv, hvs]

theorem entriesMapNumbers_eq_self : ∀ es : List (String × Value),
    (∀ x ∈ entriesNumbers es, f x = .number x) → entriesMapNumbers f es = es
  | [], _ => rfl
  | (key, v) :: es, h => by
    have hv := mapNumbers_eq_self v fun x hx => h x (List.mem_append_left _ hx)
    have hes := entriesMapNumbers_eq_self es fun x hx => h x (List.mem_append_right _ hx)
    rw [entriesMapNumbers, hv, hes]

end

end Same

/-! ## 3. Writing and reading -/

section Written

variable {number : Binary64 → Document} {f : Binary64 → Value}

mutual

/-- **A value that is written is read again**, with its numbers as they come back. -/
theorem ofDocument?_toDocumentBy (hnumber : ∀ x, ofDocument? (number x) = some (f x)) :
    ∀ v : Value, v.Ordered → ofDocument? (v.toDocumentBy number) = some (v.mapNumbers f)
  | .number x, _ => hnumber x
  | .list items, h => by
    have hitems := listOfDocuments?_listToDocuments hnumber items h
    simp [toDocumentBy, ofDocument?, mapNumbers, hitems]
  | .map es, h => by
    have hes := entriesOfDocuments?_entriesToDocuments hnumber es h.2
    simp [toDocumentBy, ofDocument?, mapNumbers, hes,
      Dict.ofList_eq_self (ordered_entriesMapNumbers f h.1)]
  | .null, _ | .bool _, _ | .string _, _ => rfl

theorem listOfDocuments?_listToDocuments (hnumber : ∀ x, ofDocument? (number x) = some (f x)) :
    ∀ vs : List Value, listOrdered vs →
      listOfDocuments? (listToDocuments number vs) = some (listMapNumbers f vs)
  | [], _ => rfl
  | v :: vs, h => by
    simp [listToDocuments, listOfDocuments?, listMapNumbers,
      ofDocument?_toDocumentBy hnumber v h.1, listOfDocuments?_listToDocuments hnumber vs h.2]

theorem entriesOfDocuments?_entriesToDocuments
    (hnumber : ∀ x, ofDocument? (number x) = some (f x)) :
    ∀ es : List (String × Value), entriesOrdered es →
      entriesOfDocuments? (entriesToDocuments number es) = some (entriesMapNumbers f es)
  | [], _ => rfl
  | (key, v) :: es, h => by
    simp [entriesToDocuments, entriesOfDocuments?, entriesMapNumbers,
      ofDocument?_toDocumentBy hnumber v h.1,
      entriesOfDocuments?_entriesToDocuments hnumber es h.2]

end

end Written

/-- A value of finite numbers is read back as it was stored. -/
theorem ofDocument?_toDocument {v : Value} (hordered : v.Ordered)
    (hfinite : ∀ x ∈ v.numbers, x.isFinite = true) : ofDocument? v.toDocument = some v := by
  let stored (x : Binary64) : Value := if x.isFinite then .number x else .null
  have hnumber : ∀ x : Binary64, ofDocument? x.toDocument = some (stored x) := by
    intro x
    simp only [Binary64.toDocument, stored]
    split <;> rfl
  rw [toDocument, ofDocument?_toDocumentBy hnumber v hordered,
    mapNumbers_eq_self v fun x hx => if_pos (hfinite x hx)]

mutual

/-- **Every value that is read is ordered.** -/
theorem ordered_of_ofDocument? : ∀ (d : Document) {v : Value}, ofDocument? d = some v → v.Ordered
  | .null, _, h | .bool _, _, h | .integer _, _, h | .double _, _, h | .string _, _, h => by
    obtain rfl := Option.some.inj h
    exact trivial
  | .list items, _, h => by
    obtain ⟨vs, hvs, h⟩ := Option.bind_eq_some_iff.mp h
    obtain rfl := Option.some.inj h
    exact listOrdered_of_listOfDocuments? items hvs
  | .entries es, _, h => by
    obtain ⟨vs, hvs, h⟩ := Option.bind_eq_some_iff.mp h
    obtain rfl := Option.some.inj h
    have hes := entriesOrdered_iff.mp (entriesOrdered_of_entriesOfDocuments? es hvs)
    exact ⟨Dict.ordered_ofList vs, entriesOrdered_iff.mpr fun e he => hes e (Dict.mem_ofList he)⟩
  | .unreadable, _, h => nomatch h

theorem listOrdered_of_listOfDocuments? :
    ∀ (ds : List Document) {vs : List Value}, listOfDocuments? ds = some vs → listOrdered vs
  | [], _, h => by
    obtain rfl := Option.some.inj h
    exact trivial
  | d :: ds, _, h => by
    obtain ⟨v, hv, h⟩ := Option.bind_eq_some_iff.mp h
    obtain ⟨vs, hvs, h⟩ := Option.bind_eq_some_iff.mp h
    obtain rfl := Option.some.inj h
    exact ⟨ordered_of_ofDocument? d hv, listOrdered_of_listOfDocuments? ds hvs⟩

theorem entriesOrdered_of_entriesOfDocuments? : ∀ (ds : List (String × Document))
    {es : List (String × Value)}, entriesOfDocuments? ds = some es → entriesOrdered es
  | [], _, h => by
    obtain rfl := Option.some.inj h
    exact trivial
  | (_, d) :: ds, _, h => by
    obtain ⟨v, hv, h⟩ := Option.bind_eq_some_iff.mp h
    obtain ⟨es, hes, h⟩ := Option.bind_eq_some_iff.mp h
    obtain rfl := Option.some.inj h
    exact ⟨ordered_of_ofDocument? d hv, entriesOrdered_of_entriesOfDocuments? ds hes⟩

end

end Value

end FormLogic
