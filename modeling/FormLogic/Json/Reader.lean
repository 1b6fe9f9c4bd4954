import FormLogic.Json.Token

/-!
# Reading JSON text

The tokens of a text drive a machine that keeps a stack of open containers.  Containers may
nest 127 deep; a container that lies deeper is still checked for its form but has no value.
-/

namespace FormLogic.Json

/-- An open container: what it holds so far, the last one first, and in a map the key whose
value comes next. -/
inductive Frame where
  | list (items : List Document)
  | entries (es : List (String × Document)) (readable : Bool) (key? : Option String)

/-- What the next token has to be. -/
inductive Expects where
  | value
  /-- A value, or the end of an empty list. -/
  | firstItem
  /-- A key, or the end of an empty map. -/
  | firstKey
  | key
  | colon
  /-- A comma or the end of the container. -/
  | next
  | nothing
deriving DecidableEq

/-- **The state of the reader.** -/
structure State where
  stack : List Frame
  expects : Expects
  /-- The whole document, once it is complete. -/
  done? : Option Document

namespace State

def start : State := ⟨[], .value, none⟩

/-- The greatest depth of nesting. -/
def maxNesting : Nat := 127

/-- A complete value: the whole document, or the next item or entry of the innermost
container. -/
def push (stack : List Frame) (d : Document) : State :=
  match stack with
  | [] => ⟨[], .nothing, some d⟩
  | .list items :: outer => ⟨.list (d :: items) :: outer, .next, none⟩
  | .entries es readable key? :: outer =>
    match key? with
    | some key => ⟨.entries ((key, d) :: es) readable none :: outer, .next, none⟩
    | none => ⟨.entries es readable none :: outer, .next, none⟩

/-- Closes the innermost container, which lies under `outer`. -/
def close (d : Document) (outer : List Frame) : State :=
  push outer (if outer.length < maxNesting then d else .unreadable)

/-- Moves past a token; no value where the token does not fit. -/
def step? (s : State) (t : Token) : Option State :=
  match s.expects, t, s.stack with
  | .value, .leaf d, stack | .firstItem, .leaf d, stack => some (push stack d)
  | .value, .openList, stack | .firstItem, .openList, stack =>
    some ⟨.list [] :: stack, .firstItem, none⟩
  | .value, .openEntries, stack | .firstItem, .openEntries, stack =>
    some ⟨.entries [] true none :: stack, .firstKey, none⟩
  | .firstKey, .leaf (.string key), .entries es readable _ :: outer
  | .key, .leaf (.string key), .entries es readable _ :: outer =>
    some ⟨.entries es readable (some key) :: outer, .colon, none⟩
  | .firstKey, .leaf .unreadable, .entries es _ _ :: outer
  | .key, .leaf .unreadable, .entries es _ _ :: outer =>
    some ⟨.entries es false none :: outer, .colon, none⟩
  | .colon, .colon, stack => some ⟨stack, .value, none⟩
  | .next, .comma, .list items :: outer => some ⟨.list items :: outer, .value, none⟩
  | .next, .comma, .entries es readable _ :: outer =>
    some ⟨.entries es readable none :: outer, .key, none⟩
  | .next, .closeList, .list items :: outer | .firstItem, .closeList, .list items :: outer =>
    some (close (.list items.reverse) outer)
  | .next, .closeEntries, .entries es readable _ :: outer
  | .firstKey, .closeEntries, .entries es readable _ :: outer =>
    some (close (if readable then .entries es.reverse else .unreadable) outer)
  | _, _, _ => none

end State

/-- **Reads a document** from JSON text; no value when the text is not JSON. -/
def read? (text : List Char) : Option Document := do
  let tokens ← Token.tokens? text
  let s ← tokens.foldlM State.step? State.start
  s.done?

end FormLogic.Json
