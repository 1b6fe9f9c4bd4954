import FormLogic.Context

/-!
# Dotted paths

A variable of an expression is a path of segments between points.  A path that begins with
`form`, `process` or `user` stays in that part of the context.  Any other path is tried
among the form fields, then the process variables, then the entries of the context itself.
-/

namespace FormLogic

/-- The segments of a path: what stands between the points. -/
def segments (path : List Char) : List String := go path []
where
  go : List Char → List Char → List String
    | [], segment => [String.ofList segment.reverse]
    | c :: cs, segment =>
      if c = '.' then String.ofList segment.reverse :: go cs [] else go cs (c :: segment)

/-- **Walks down from a value.**  A last segment `length` on a list is its size. -/
def Value.walk? (v : Value) : List String → Option Value
  | [] => some v
  | segment :: rest =>
    match v, segment, rest with
    | .list items, "length", [] => some (.number (.ofNat items.length))
    | _, _, _ => (v.get? segment).bind (·.walk? rest)

/-- Walks down from a map of named values; the map itself for no segments. -/
def Dict.walk? (d : Dict Value) : List String → Option Value
  | [] => some (.map d)
  | name :: rest => (Dict.get? d name).bind (·.walk? rest)

namespace Context

/-- An entry of the context as a value. -/
def root? (c : Context) : String → Option Value
  | "form" => some (.map c.form)
  | "process" => some (.map c.process)
  | "user" => some c.user.toValue
  | "grids" => some (.map (c.grids.map fun (name, grid) => (name, grid.toValue)))
  | "task" => c.task?.map Task.toValue
  | "value" => c.value?
  | _ => none

/-- The value at a path given by its segments. -/
def walk? (c : Context) : List String → Option Value
  | [] => none
  | "form" :: rest => Dict.walk? c.form rest
  | "process" :: rest => Dict.walk? c.process rest
  | "user" :: rest => c.user.toValue.walk? rest
  | head :: rest =>
    Dict.walk? c.form (head :: rest)
      <|> Dict.walk? c.process (head :: rest)
      <|> (c.root? head).bind (·.walk? rest)

/-- **The value of a variable.** -/
def resolve? (c : Context) (path : List Char) : Resolved := c.walk? (segments path)

end Context

end FormLogic
