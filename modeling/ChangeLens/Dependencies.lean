import ChangeLens.Source

/-!
# `ChangeLens.Dependencies`: what a dependency list holds

Effects list the values they depend on. The list may be written in place or elsewhere: spreads and
identifiers are followed through the nearest declaration in scope. No name is followed twice along
one chain, so cyclic declarations end; a name that cannot be followed keeps its own text.
-/

set_option autoImplicit false

namespace ChangeLens

namespace Source

/-- The first of the cursors with the greatest start, no later than `limit`. -/
def latestBefore? (limit : Nat) : List Cursor → Option Cursor
  | [] => none
  | cursor :: rest =>
    match latestBefore? limit rest with
    | none => if cursor.node.label.start ≤ limit then some cursor else none
    | some best =>
      if cursor.node.label.start ≤ limit && best.node.label.start ≤ cursor.node.label.start then
        some cursor
      else some best

/-- The first of the cursors with the smallest start. -/
def earliest? : List Cursor → Option Cursor
  | [] => none
  | cursor :: rest =>
    match earliest? rest with
    | none => some cursor
    | some best =>
      if cursor.node.label.start ≤ best.node.label.start then some cursor else some best

/-- Among the declarators of one scope, the latest before the reference, else the earliest. -/
def preferred? (reference : Tree) (owned : List Cursor) : Option Cursor :=
  (latestBefore? reference.label.start owned).or (earliest? owned)

/-- The declarators that a scope encloses directly. -/
def ownedBy (source : Source) (scope : Tree) (candidates : List Cursor) : List Cursor :=
  candidates.filter fun cursor => (source.enclosingScope? cursor).any (·.same scope)

/-- The declarator that `name` refers to at a node. The innermost scope that directly holds one
decides. -/
def nearestDeclaration? (source : Source) (name : String) (reference : Cursor) : Option Cursor :=
  (source.scopeChain reference).findSome? fun scope =>
    preferred? reference.node (source.ownedBy scope (source.declarators name))

/-- The number of declared names that are not being followed. -/
def unseen (source : Source) (seen : List String) : Nat :=
  source.declaredNames.countP (!seen.contains ·)

/-- Following one more declared name leaves fewer names to follow. -/
theorem unseen_cons_lt (source : Source) {seen : List String} {name : String}
    (declared : source.declaredNames.contains name = true) (fresh : seen.contains name = false) :
    source.unseen (name :: seen) < source.unseen seen := by
  unfold unseen
  have mem : name ∈ source.declaredNames := by simpa using declared
  -- What is unseen with `name` on the way was unseen before; `name` itself is not any more.
  have fewer : ∀ a, (!(name :: seen).contains a) = true → (!seen.contains a) = true := by
    intro a h
    simp only [List.contains_cons, Bool.not_or, Bool.and_eq_true] at h
    exact h.2
  generalize source.declaredNames = names at mem
  clear declared
  induction names with
  | nil => cases mem
  | cons first rest ih =>
    have le := List.countP_mono_left (l := rest) (fun a _ => fewer a)
    -- At `name` the count drops by one, and at no other name does it grow.
    rcases List.mem_cons.1 mem with rfl | mem
    · rw [List.countP_cons_of_neg (by simp), List.countP_cons_of_pos (by rw [fresh]; rfl)]
      omega
    · have lt := ih mem
      rw [List.countP_cons, List.countP_cons]
      have : (if (!(name :: seen).contains first) = true then 1 else 0)
          ≤ (if (!seen.contains first) = true then 1 else 0) := by
        split
        · rename_i h
          exact Nat.le_of_eq (if_pos (fewer first h)).symm
        · omega
      omega

/-- What stands inside all wrappers is not larger than the whole. -/
theorem size_unwrapCursor_le (cursor : Cursor) :
    (unwrapCursor cursor).node.size ≤ cursor.node.size := by
  fun_induction unwrapCursor cursor with
  | case1 cursor inner h ih =>
    have := size_lt_of_wrapped? h
    exact Nat.le_trans ih (by simpa [Cursor.down] using Nat.le_of_lt this)
  | case2 => exact Nat.le_refl _

/-- What an element of an array spreads is smaller than the array. -/
theorem size_lt_of_spreadArgument? {array element argument : Tree}
    (mem : element ∈ array.parts) (h : spreadArgument? element = some argument) :
    argument.size < array.size := by
  unfold spreadArgument? at h
  split at h
  · have inner : argument ∈ element.parts := List.mem_of_mem_head? (Option.mem_def.2 h)
    exact Nat.lt_trans (Tree.size_lt_of_mem_children (List.mem_filter.1 inner).1)
      (Tree.size_lt_of_mem_children (List.mem_filter.1 mem).1)
  · cases h

/-- What one element of the array at `array` stands for: a spread that can be followed stands for
what it leads to, as `follow` says, and everything else for its own text. -/
def expandElement (source : Source) (element : Tree)
    (follow : (argument : Tree) → spreadArgument? element = some argument →
      Option (List String)) : List String :=
  match h : spreadArgument? element with
  | some argument => (follow argument h).getD [source.normalized element]
  | none => [source.normalized element]

mutual

/-- The entries of a dependency list. -/
def dependencies (source : Source) (seen : List String) (cursor : Cursor) : List String :=
  let inner := unwrapCursor cursor
  if inner.kind == "array" then
    inner.node.parts.attach.flatMap fun element =>
      source.expandElement element.1 fun argument _ =>
        source.followSpread seen ((inner.down element.1).down argument)
  else (source.followName seen inner).getD [source.normalized inner.node]
-- A spread stands below the array, and a name uses up one of the names left to follow. The factor
-- leaves room for the step from `followSpread` back to an array of the same size.
termination_by (source.unseen seen, 2 * cursor.node.size)
decreasing_by
  · apply Prod.Lex.right
    have hs := size_lt_of_spreadArgument? element.2 (by assumption)
    have hu := size_unwrapCursor_le cursor
    simp only [Cursor.down, inner] at *
    omega
  · apply Prod.Lex.right
    have hu := size_unwrapCursor_le cursor
    have : 0 < (unwrapCursor cursor).node.size := by
      cases (unwrapCursor cursor).node; rw [Tree.size]; omega
    omega

/-- What a spread leads to, if it can be followed. -/
def followSpread (source : Source) (seen : List String) (cursor : Cursor) : Option (List String) :=
  let inner := unwrapCursor cursor
  if inner.kind == "array" then some (source.dependencies seen inner)
  else source.followName seen inner
termination_by (source.unseen seen, 2 * cursor.node.size + 1)
decreasing_by
  · apply Prod.Lex.right
    have hu := size_unwrapCursor_le cursor
    omega
  · apply Prod.Lex.right
    omega

/-- What a name leads to: the list that its nearest declaration starts with. -/
def followName (source : Source) (seen : List String) (cursor : Cursor) : Option (List String) :=
  match source.identifierName? cursor.node with
  | none => none
  | some name =>
    if _h : source.declaredNames.contains name = true ∧ seen.contains name = false then
      match source.nearestDeclaration? name cursor with
      | none => none
      | some declarator =>
        match initializer? declarator.node with
        | none => none
        | some value =>
          -- Only a list or another name is followed; any other value keeps the name's own text.
          let inner := unwrapCursor (declarator.down value)
          if inner.kind == "array" || inner.kind == "identifier" then
            some (source.dependencies (name :: seen) inner)
          else none
    else none
termination_by (source.unseen seen, 0)
decreasing_by
  apply Prod.Lex.left
  exact source.unseen_cons_lt _h.1 _h.2

end

end Source

end ChangeLens
