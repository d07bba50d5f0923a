/-!
# Bindings

Values under distinct names, in the order in which the names were first bound. Binding a name again
replaces its value and keeps its place.
-/

namespace Clickstream

/-- Values under names. -/
abbrev Bindings (α : Type) := List (String × α)

namespace Bindings

variable {α : Type}

/-- The names, in order. -/
def names (bindings : Bindings α) : List String :=
  bindings.map (·.1)

/-- The value under a name. -/
def get? : Bindings α → String → Option α
  | [], _ => none
  | (bound, value) :: rest, name => if bound = name then some value else get? rest name

/-- Binds a name: in its place, or at the end if it is new. -/
def set : Bindings α → String → α → Bindings α
  | [], name, value => [(name, value)]
  | (bound, old) :: rest, name, value =>
    if bound = name then (name, value) :: rest else (bound, old) :: set rest name value

/-- Binds all names of the second list. -/
def update (bindings more : Bindings α) : Bindings α :=
  more.foldl (fun result binding => result.set binding.1 binding.2) bindings

/-- The name is bound to a value that differs from the given one. -/
def conflicts [BEq α] (bindings : Bindings α) (name : String) (value : α) : Bool :=
  match bindings.get? name with
  | some old => !(old == value)
  | none => false

/-- Adds the bindings of a list. The first conflicting name is the error. -/
def extend [BEq α] (bindings : Bindings α) : Bindings α → Except String (Bindings α)
  | [] => .ok bindings
  | (name, value) :: rest =>
    if bindings.conflicts name value then .error name else (bindings.set name value).extend rest

/-- Adds the bindings of several lists, from the left. -/
def extendAll [BEq α] (bindings : Bindings α) : List (Bindings α) → Except String (Bindings α)
  | [] => .ok bindings
  | source :: rest =>
    match bindings.extend source with
    | .error name => .error name
    | .ok bindings => bindings.extendAll rest

/-- Combines the bindings of several lists into one. The value of a name is that of the last list
that binds it, and its place that of the first one. -/
def merge [BEq α] (sources : List (Bindings α)) : Except String (Bindings α) :=
  extendAll [] sources

end Bindings

end Clickstream
