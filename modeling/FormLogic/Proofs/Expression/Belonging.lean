import FormLogic.Expression.Helper

/-!
# Roles and groups

A helper asks whether the user has one role or group, has one of several, or has all of several.
Several names are given as one list or as so many arguments, and both ways give the same names
(`Gives.names_eq`), also where there is one name or none.  The helpers for several names answer as
the helper for one does, name by name; so the order of the names and their number do not count, and
further names can only open what asks for any of them and only close what asks for all
(`apply_names`).
-/

namespace FormLogic

theorem Value.display_string (s : String) : (Value.string s).display = s := by
  rw [Value.display]

/-- **What a user can belong to.** -/
inductive Belonging where
  | role
  | group
deriving DecidableEq, Repr

namespace Belonging

/-- The helper that asks for one name. -/
def one : Belonging → Helper
  | role => .hasRole
  | group => .hasGroup

/-- The helper that asks for one of several names. -/
def any : Belonging → Helper
  | role => .hasAnyRole
  | group => .hasAnyGroup

/-- The helper that asks for all of several names. -/
def all : Belonging → Helper
  | role => .hasAllRoles
  | group => .hasAllGroups

/-- The names of what the user belongs to. -/
def held (b : Belonging) (user : User) : List String :=
  match b with
  | role => user.roles
  | group => user.groups

/-! ## 1. Two ways to give names -/

/-- **Names as the arguments of a helper**: in one list, or one by one. -/
inductive Gives : List String → List Resolved → Prop
  | list (names : List String) : Gives names [some (.list (names.map .string))]
  | each (names : List String) : Gives names (names.map fun name => some (.string name))

/-- **Both ways give the same names.** -/
theorem Gives.names_eq {names : List String} {args : List Resolved} (h : Gives names args) :
    Helper.names args = names := by
  cases h with
  | list =>
    rw [Helper.names, List.map_map]
    exact List.map_id'' Value.display_string names
  | each =>
    unfold Helper.names
    split
    · next items hargs =>
      -- a single string is no list
      obtain ⟨name, rest, -, hname, -⟩ := List.map_eq_cons_iff.mp hargs
      cases hname
    · rw [List.map_map]
      exact List.map_id'' Value.display_string names

/-! ## 2. Answers -/

/-- Whether the user belongs to what a name stands for. -/
def holds (b : Belonging) (user : User) (name : String) : Bool := (b.held user).contains name

theorem hasRole_eq (user : User) : user.hasRole = role.holds user := by
  funext name
  rw [Bool.eq_iff_iff]
  simp [User.hasRole, holds, held]

theorem hasGroup_eq (user : User) : user.hasGroup = group.holds user := by
  funext name
  rw [Bool.eq_iff_iff]
  simp [User.hasGroup, holds, held]

section Answers

variable (b : Belonging) (user : User)

/-- The helper for one name tells whether the user holds it. -/
theorem apply_one (name : String) :
    b.one.apply [some (.string name)] user = some (.bool (b.holds user name)) := by
  have htext : Helper.text [some (.string name)] 0 = name := Value.display_string name
  cases b with
  | role => rw [one, Helper.apply, htext, hasRole_eq]
  | group => rw [one, Helper.apply, htext, hasGroup_eq]

variable {names : List String} {args : List Resolved}

/-- It is enough to hold one of the names. -/
theorem apply_any (h : Gives names args) :
    b.any.apply args user = some (.bool (names.any (b.holds user))) := by
  cases b with
  | role => rw [any, Helper.apply, h.names_eq, hasRole_eq]
  | group => rw [any, Helper.apply, h.names_eq, hasGroup_eq]

/-- All the names have to be held. -/
theorem apply_all (h : Gives names args) :
    b.all.apply args user = some (.bool (names.all (b.holds user))) := by
  cases b with
  | role => rw [all, Helper.apply, h.names_eq, hasRole_eq]
  | group => rw [all, Helper.apply, h.names_eq, hasGroup_eq]

variable {more : List String} {moreArgs : List Resolved}

/-- **Further names do not close what asks for any of them.** -/
theorem apply_any_mono (h : Gives names args) (hmore : Gives more moreArgs) (hsub : names ⊆ more)
    (htrue : b.any.apply args user = some (.bool true)) :
    b.any.apply moreArgs user = some (.bool true) := by
  rw [apply_any b user h, Option.some.injEq, Value.bool.injEq, List.any_eq_true] at htrue
  obtain ⟨name, hname, hholds⟩ := htrue
  rw [apply_any b user hmore, List.any_eq_true.mpr ⟨name, hsub hname, hholds⟩]

/-- **Further names do not open what asks for all of them.** -/
theorem apply_all_anti (h : Gives names args) (hmore : Gives more moreArgs) (hsub : names ⊆ more)
    (hfalse : b.all.apply args user = some (.bool false)) :
    b.all.apply moreArgs user = some (.bool false) := by
  rw [apply_all b user h, Option.some.injEq, Value.bool.injEq, List.all_eq_false] at hfalse
  obtain ⟨name, hname, hholds⟩ := hfalse
  rw [apply_all b user hmore, List.all_eq_false.mpr ⟨name, hsub hname, hholds⟩]

end Answers

/-! ## 3. One name and several -/

/-- **The helpers for several names answer as the helper for one does.**  Given in a list or one by
one, no name or many: "any" is true when the helper for one name is true of some of them, and "all"
when it is true of each.  Whatever their order and however often they are repeated, names that come
in addition never make "any" false that was true, nor "all" true that was false. -/
theorem apply_names (b : Belonging) (user : User) :
    (∀ name, b.one.apply [some (.string name)] user = some (.bool (b.holds user name))) ∧
    (∀ names args, Gives names args →
      b.any.apply args user = some (.bool (names.any (b.holds user))) ∧
      b.all.apply args user = some (.bool (names.all (b.holds user)))) ∧
    (∀ names args more moreArgs, Gives names args → Gives more moreArgs → names ⊆ more →
      (b.any.apply args user = some (.bool true) →
        b.any.apply moreArgs user = some (.bool true)) ∧
      (b.all.apply args user = some (.bool false) →
        b.all.apply moreArgs user = some (.bool false))) := by
  refine ⟨apply_one b user, ?_, ?_⟩
  · intro names args h
    exact ⟨apply_any b user h, apply_all b user h⟩
  · intro names args more moreArgs h hmore hsub
    exact ⟨apply_any_mono b user h hmore hsub, apply_all_anti b user h hmore hsub⟩

/-- A single argument that looks like a list, the empty list, and a list in another order. -/
theorem apply_names_of_unusual_names :
    let user : User := { roles := ["[a,b]", ""] }
    (Gives ["[a,b]"] [some (.string "[a,b]")] ∧
      Belonging.role.any.apply [some (.string "[a,b]")] user = some (.bool true)) ∧
    (Gives [] [some (.list [])] ∧
      Belonging.role.any.apply [some (.list [])] user = some (.bool false) ∧
      Belonging.role.all.apply [some (.list [])] user = some (.bool true)) ∧
    (Gives ["", "x"] [some (.string ""), some (.string "x")] ∧
      Gives ["x", "", "x"] [some (.list [.string "x", .string "", .string "x"])] ∧
      ["", "x"] ⊆ ["x", "", "x"] ∧
      Belonging.role.any.apply [some (.list [.string "x", .string "", .string "x"])] user
        = some (.bool true) ∧
      Belonging.role.all.apply [some (.list [.string "x", .string "", .string "x"])] user
        = some (.bool false)) := by
  intro user
  obtain ⟨-, hanswers, hmono⟩ := apply_names .role user
  have hone : Gives ["[a,b]"] [some (.string "[a,b]")] := .each ["[a,b]"]
  have hnone : Gives [] [some (.list [])] := .list []
  have hfew : Gives ["", "x"] [some (.string ""), some (.string "x")] := .each ["", "x"]
  have hmany : Gives ["x", "", "x"] [some (.list [.string "x", .string "", .string "x"])] :=
    .list ["x", "", "x"]
  have hsub : ["", "x"] ⊆ ["x", "", "x"] := by decide
  obtain ⟨hany, hall⟩ := hmono _ _ _ _ hfew hmany hsub
  exact ⟨⟨hone, (hanswers _ _ hone).1⟩, ⟨hnone, (hanswers _ _ hnone).1, (hanswers _ _ hnone).2⟩,
    hfew, hmany, hsub, hany (hanswers _ _ hfew).1, hall (hanswers _ _ hfew).2⟩

end Belonging

end FormLogic
