import ChangeLens.Proofs.ScopeResolution
import Mathlib.Logic.Relation

/-!
# `ChangeLens.Proofs.DependencyChains`: following dependency lists comes to an end

Names lead to declarations anywhere in the tree, and declarations may lead back to the names they
were reached by. `Source.Asks` says which query asks which other one while dependency lists are
resolved, and looks at nothing that is there for the sake of termination only: a spread asks about
its argument, a name that is not being followed about the value of its nearest declaration.

* `Source.Asks.weight_lt`: what is asked weighs less. A query that follows a name leaves fewer names
  to follow, and every other one is about a smaller node, or about the same node in a later role.
* `Source.Asks.seen_eq`: one step follows at most one name, and none that is being followed. So no
  name is followed twice along a chain of queries (`Source.seen_of_chain`).
* `Source.round` is one round of resolution, from the answers to what is asked to the answers to all
  queries. As queries are well-founded it has one fixed point, and that is what runs
  (`Source.round_eq_iff`). In particular the functions that run do not depend on the bookkeeping of
  declared names that makes them terminate.

`Source.resolution_wellFounded` is the main result.
-/

set_option autoImplicit false

namespace ChangeLens.Source

/-! ### Declared names -/

/-- A name is declared by its nearest declaration. -/
theorem mem_declarators_of_nearestDeclaration? {source : Source} {name : String}
    {reference declarator : Cursor}
    (h : source.nearestDeclaration? name reference = some declarator) :
    declarator ∈ source.declarators name := by
  obtain ⟨scope, -, hscope⟩ := List.exists_of_findSome?_eq_some h
  exact (List.mem_filter.1 (mem_of_preferred? hscope)).1

/-- A name with a declarator is declared. -/
theorem mem_declaredNames {source : Source} {name : String} {declarator : Cursor}
    (h : declarator ∈ source.declarators name) : name ∈ source.declaredNames := by
  obtain ⟨hcursor, hname⟩ := List.mem_filter.1 h
  exact List.mem_filterMap.2 ⟨declarator, hcursor, eq_of_beq hname⟩

/-! ### Queries -/

/-- A question that comes up while dependency lists are resolved, with the names that are being
followed. -/
inductive Query where
  /-- What entries has the list at this node? -/
  | list (seen : List String) (cursor : Cursor)
  /-- What does the argument of a spread lead to? -/
  | spread (seen : List String) (cursor : Cursor)
  /-- What does the name at this node lead to? -/
  | name (seen : List String) (cursor : Cursor)

/-- The names that are being followed. -/
def Query.seen : Query → List String
  | .list seen _ | .spread seen _ | .name seen _ => seen

/-- The name at a node that is not being followed, and where it leads: to a list or another name
that its nearest declaration starts with. -/
def leadsTo? (source : Source) (seen : List String) (cursor : Cursor) : Option (String × Cursor) :=
  match source.identifierName? cursor.node with
  | none => none
  | some name =>
    if seen.contains name then none
    else
      match source.nearestDeclaration? name cursor with
      | none => none
      | some declarator =>
        match initializer? declarator.node with
        | none => none
        | some value =>
          let inner := unwrapCursor (declarator.down value)
          if inner.kind == "array" || inner.kind == "identifier" then some (name, inner) else none

/-- What has to be asked to answer a query. -/
inductive Asks (source : Source) : Query → Query → Prop
  | element {seen : List String} {cursor : Cursor} {element argument : Tree}
      (isArray : (unwrapCursor cursor).kind = "array")
      (mem : element ∈ (unwrapCursor cursor).node.parts)
      (spreads : spreadArgument? element = some argument) :
      Asks source (.list seen cursor)
        (.spread seen (((unwrapCursor cursor).down element).down argument))
  | whole {seen : List String} {cursor : Cursor} (noArray : (unwrapCursor cursor).kind ≠ "array") :
      Asks source (.list seen cursor) (.name seen (unwrapCursor cursor))
  | array {seen : List String} {cursor : Cursor} (isArray : (unwrapCursor cursor).kind = "array") :
      Asks source (.spread seen cursor) (.list seen (unwrapCursor cursor))
  | single {seen : List String} {cursor : Cursor} (noArray : (unwrapCursor cursor).kind ≠ "array") :
      Asks source (.spread seen cursor) (.name seen (unwrapCursor cursor))
  | declared {seen : List String} {cursor inner : Cursor} {name : String}
      (leads : source.leadsTo? seen cursor = some (name, inner)) :
      Asks source (.name seen cursor) (.list (name :: seen) inner)

/-- A name that is followed is declared, and is not being followed. -/
theorem leadsTo?_eq_some {source : Source} {seen : List String} {cursor inner : Cursor}
    {name : String} (h : source.leadsTo? seen cursor = some (name, inner)) :
    name ∈ source.declaredNames ∧ name ∉ seen := by
  -- All branches but one lead nowhere.
  unfold leadsTo? at h
  split at h
  · cases h
  · split at h
    · cases h
    · rename_i hfresh
      split at h
      · cases h
      · rename_i declarator hdeclarator
        split at h
        · cases h
        · simp only at h
          split at h
          · cases h
            -- Here the name is followed to a declaration of the source, and it had not been
            -- followed yet.
            exact ⟨mem_declaredNames (mem_declarators_of_nearestDeclaration? hdeclarator),
              by simpa using hfresh⟩
          · cases h

/-! ### The measure -/

/-- The names left to follow, then the size of the node. A spread weighs more than the list it may
be, and a list more than the name it may be. -/
def Query.weight (source : Source) : Query → Nat × Nat
  | .list seen cursor => (source.unseen seen, 2 * cursor.node.size)
  | .spread seen cursor => (source.unseen seen, 2 * cursor.node.size + 1)
  | .name seen _ => (source.unseen seen, 0)

/-- A tree has a node. -/
theorem size_pos (tree : Tree) : 0 < tree.size := by
  cases tree
  rw [Tree.size]
  omega

/-- What is asked weighs less. -/
theorem Asks.weight_lt {source : Source} {asking asked : Query} (h : source.Asks asking asked) :
    Prod.Lex (· < ·) (· < ·) (asked.weight source) (asking.weight source) := by
  -- Four of the five questions are about a smaller node or a later role; only the last one follows
  -- a name.
  cases h with
  | @element _ cursor element argument _ mem spreads =>
    have hspread := size_lt_of_spreadArgument? mem spreads
    have hunwrap := size_unwrapCursor_le cursor
    exact Prod.Lex.right _ (by simp only [Cursor.down]; omega)
  | @whole _ cursor _ =>
    have hsize := size_pos cursor.node
    exact Prod.Lex.right _ (by omega)
  | @array _ cursor _ =>
    have hunwrap := size_unwrapCursor_le cursor
    exact Prod.Lex.right _ (by omega)
  | single _ => exact Prod.Lex.right _ (by omega)
  | declared leads =>
    obtain ⟨hdeclared, hfresh⟩ := leadsTo?_eq_some leads
    have hfewer := source.unseen_cons_lt (by simpa using hdeclared) (by simpa using hfresh)
    exact Prod.Lex.left _ _ hfewer

/-- So no query asks without end. -/
theorem asks_wellFounded (source : Source) :
    WellFounded fun asked asking => source.Asks asking asked :=
  Subrelation.wf Asks.weight_lt
    (InvImage.wf (Query.weight source) (Prod.lex Nat.lt_wfRel Nat.lt_wfRel).wf)

/-! ### Chains -/

/-- One step follows one name that is not being followed, or none. -/
theorem Asks.seen_eq {source : Source} {asking asked : Query} (h : source.Asks asking asked) :
    asked.seen = asking.seen ∨ ∃ name, name ∉ asking.seen ∧ asked.seen = name :: asking.seen := by
  cases h with
  | element | whole | array | single => exact Or.inl rfl
  | declared leads => exact Or.inr ⟨_, (leadsTo?_eq_some leads).2, rfl⟩

/-- A chain follows each name at most once, and none that was being followed at its start. -/
theorem seen_of_chain {source : Source} {start finish : Query}
    (h : Relation.ReflTransGen source.Asks start finish) :
    ∃ followed : List String, finish.seen = followed ++ start.seen ∧ followed.Nodup ∧
      ∀ name ∈ followed, name ∉ start.seen := by
  induction h with
  | refl => exact ⟨[], rfl, List.nodup_nil, by simp⟩
  | tail _ step ih =>
    obtain ⟨followed, hseen, hnodup, hfresh⟩ := ih
    -- A question about the same names, or one that has followed a name it had not followed before.
    rcases step.seen_eq with hsame | ⟨name, hname, hcons⟩
    · exact ⟨followed, hsame.trans hseen, hnodup, hfresh⟩
    · rw [hseen, List.mem_append, not_or] at hname
      refine ⟨name :: followed, by rw [hcons, hseen, List.cons_append],
        List.nodup_cons.2 ⟨hname.1, hnodup⟩, fun other hother => ?_⟩
      rcases List.mem_cons.1 hother with rfl | hother
      · exact hname.2
      · exact hfresh other hother

/-! ### Rounds -/

/-- Answers to all queries. -/
@[ext]
structure Resolver where
  list : List String → Cursor → List String
  spread : List String → Cursor → Option (List String)
  name : List String → Cursor → Option (List String)

/-- What an element of the array at `array` stands for. -/
def entriesOf (source : Source) (answers : Resolver) (seen : List String) (array : Cursor)
    (element : Tree) : List String :=
  match spreadArgument? element with
  | some argument =>
    (answers.spread seen ((array.down element).down argument)).getD [source.normalized element]
  | none => [source.normalized element]

/-- One round of resolution: each query is answered from the answers to what it asks. -/
def round (source : Source) (answers : Resolver) : Resolver where
  list seen cursor :=
    let inner := unwrapCursor cursor
    if inner.kind == "array" then inner.node.parts.flatMap (source.entriesOf answers seen inner)
    else (answers.name seen inner).getD [source.normalized inner.node]
  spread seen cursor :=
    let inner := unwrapCursor cursor
    if inner.kind == "array" then some (answers.list seen inner) else answers.name seen inner
  name seen cursor :=
    (source.leadsTo? seen cursor).map fun (name, inner) => answers.list (name :: seen) inner

/-- What runs. -/
def resolver (source : Source) : Resolver :=
  ⟨source.dependencies, source.followSpread, source.followName⟩

/-- A name that is declared nowhere has no nearest declaration. So whether it is declared need not
be asked. -/
theorem followName_eq (source : Source) (seen : List String) (cursor : Cursor) :
    source.followName seen cursor =
      (source.leadsTo? seen cursor).map fun (name, inner) =>
        source.dependencies (name :: seen) inner := by
  rw [followName, leadsTo?]
  cases source.identifierName? cursor.node with
  | none => rfl
  | some name =>
    dsimp only
    -- The code also tests that the name is declared, which a nearest declaration implies.
    cases hseen : seen.contains name with
    | true =>
      rw [dif_neg fun hguard => Bool.noConfusion hguard.2, if_pos rfl]
      rfl
    | false =>
      rw [if_neg Bool.false_ne_true]
      cases hdeclarator : source.nearestDeclaration? name cursor with
      | none => split <;> rfl
      | some declarator =>
        have hdeclared := mem_declaredNames (mem_declarators_of_nearestDeclaration? hdeclarator)
        rw [dif_pos ⟨List.contains_iff_mem.2 hdeclared, rfl⟩]
        dsimp only
        cases initializer? declarator.node with
        | none => rfl
        | some value =>
          dsimp only
          split <;> rfl

/-- How an element is taken apart, in terms of answers. -/
theorem expandElement_eq (source : Source) (seen : List String) (array : Cursor) (element : Tree) :
    (source.expandElement element fun argument _ =>
        source.followSpread seen ((array.down element).down argument)) =
      source.entriesOf source.resolver seen array element := by
  rw [expandElement, entriesOf]
  split <;> rename_i h <;> rw [h]
  rfl

/-- The list of a node is one round over the answers that run. -/
theorem dependencies_eq (source : Source) (seen : List String) (cursor : Cursor) :
    source.dependencies seen cursor = (source.round source.resolver).list seen cursor := by
  rw [dependencies]
  simp only [expandElement_eq, round, List.flatMap_subtype, List.unattach_attach]
  rfl

/-- So is what a spread leads to. -/
theorem followSpread_eq (source : Source) (seen : List String) (cursor : Cursor) :
    source.followSpread seen cursor = (source.round source.resolver).spread seen cursor := by
  rw [followSpread]
  rfl

/-- What runs is a fixed point of one round. -/
theorem round_resolver (source : Source) : source.round source.resolver = source.resolver := by
  ext1
  · funext seen cursor
    exact (dependencies_eq source seen cursor).symm
  · funext seen cursor
    exact (followSpread_eq source seen cursor).symm
  · funext seen cursor
    exact (followName_eq source seen cursor).symm

/-- Two resolvers answer a query alike. -/
def Query.Alike (first second : Resolver) : Query → Prop
  | .list seen cursor => first.list seen cursor = second.list seen cursor
  | .spread seen cursor => first.spread seen cursor = second.spread seen cursor
  | .name seen cursor => first.name seen cursor = second.name seen cursor

/-- What a round answers depends on the answers to what is asked only. -/
theorem round_alike {source : Source} {first second : Resolver} {query : Query}
    (h : ∀ asked, source.Asks query asked → asked.Alike first second) :
    query.Alike (source.round first) (source.round second) := by
  -- A round uses the answers to what the query asks and no others.
  cases query with
  | list seen cursor =>
    simp only [Query.Alike, round]
    split
    · rename_i harray
      refine List.flatMap_congr fun element hmem => ?_
      unfold entriesOf
      split
      · rename_i argument hspread
        -- Only a spread element asks something; any other element is an entry of its own.
        have hasked := h _ (.element (eq_of_beq harray) hmem hspread)
        rw [show first.spread seen _ = second.spread seen _ from hasked]
      · rfl
    · rename_i hother
      have hasked := h _ (.whole fun harray => hother (beq_iff_eq.2 harray))
      rw [show first.name seen _ = second.name seen _ from hasked]
  | spread seen cursor =>
    simp only [Query.Alike, round]
    split
    · rename_i harray
      exact congrArg some (h _ (.array (eq_of_beq harray)))
    · rename_i hother
      exact h _ (.single fun harray => hother (beq_iff_eq.2 harray))
  | name seen cursor =>
    simp only [Query.Alike, round]
    cases hleads : source.leadsTo? seen cursor with
    | none => rfl
    | some found => exact congrArg some (h _ (.declared hleads))

/-- There is one way to answer all queries consistently. -/
theorem round_eq_iff (source : Source) (answers : Resolver) :
    source.round answers = answers ↔ answers = source.resolver := by
  refine ⟨fun hfixed => ?_, fun h => h ▸ source.round_resolver⟩
  have halike (query : Query) : query.Alike answers source.resolver := by
    induction query using source.asks_wellFounded.induction with
    | _ query ih =>
      have hround := round_alike ih
      rwa [hfixed, round_resolver] at hround
  ext1
  · funext seen cursor
    exact halike (.list seen cursor)
  · funext seen cursor
    exact halike (.spread seen cursor)
  · funext seen cursor
    exact halike (.name seen cursor)

/-! ### Names that are being followed -/

/-- A node is a name that is being followed. -/
def IsFollowed (source : Source) (seen : List String) (node : Tree) : Prop :=
  ∃ name ∈ seen, source.identifierName? node = some name

/-- A name that is being followed leads nowhere. -/
theorem leadsTo?_of_isFollowed {source : Source} {seen : List String} {cursor : Cursor}
    (h : source.IsFollowed seen cursor.node) : source.leadsTo? seen cursor = none := by
  obtain ⟨name, hseen, hname⟩ := h
  rw [leadsTo?, hname]
  exact if_pos (List.contains_iff_mem.2 hseen)

/-- An identifier is no array. -/
theorem kind_of_isFollowed {source : Source} {seen : List String} {node : Tree}
    (h : source.IsFollowed seen node) : (node.kind == "array") = false := by
  obtain ⟨name, -, hname⟩ := h
  unfold identifierName? at hname
  split at hname
  · rename_i hkind
    rw [eq_of_beq hkind]
    rfl
  · cases hname

/-- A name that is being followed keeps its own text. -/
theorem dependencies_of_isFollowed {source : Source} {seen : List String} {cursor : Cursor}
    (h : source.IsFollowed seen (unwrapCursor cursor).node) :
    source.dependencies seen cursor = [source.normalized (unwrapCursor cursor).node] := by
  have hkind : ((unwrapCursor cursor).kind == "array") = false := kind_of_isFollowed h
  rw [dependencies_eq, round]
  simp only [hkind, Bool.false_eq_true, if_false, resolver, followName_eq,
    leadsTo?_of_isFollowed h, Option.map_none, Option.getD_none]

/-- A spread of a name that is being followed keeps its own text. -/
theorem entriesOf_of_isFollowed {source : Source} {seen : List String} {array : Cursor}
    {element argument : Tree} (hspread : spreadArgument? element = some argument)
    (h : source.IsFollowed seen (unwrapCursor ((array.down element).down argument)).node) :
    source.entriesOf source.resolver seen array element = [source.normalized element] := by
  have hkind : ((unwrapCursor ((array.down element).down argument)).kind == "array") = false :=
    kind_of_isFollowed h
  rw [entriesOf, hspread]
  simp only [resolver, followSpread_eq, round, hkind, Bool.false_eq_true, if_false, followName_eq,
    leadsTo?_of_isFollowed h, Option.map_none, Option.getD_none]

/-- Dependency lists are resolved in finitely many steps, whatever declarations refer to each other:
queries are well-founded, and so there is one way to answer all of them consistently, which is what
runs. Along a chain of queries no name is followed twice. A name that is being followed, or a spread
of one, keeps its own text. -/
theorem resolution_wellFounded (source : Source) :
    (WellFounded fun asked asking => source.Asks asking asked) ∧
    (∀ answers, source.round answers = answers ↔ answers = source.resolver) ∧
    (∀ start finish, Relation.ReflTransGen source.Asks start finish →
      ∃ followed : List String, finish.seen = followed ++ start.seen ∧ followed.Nodup ∧
        ∀ name ∈ followed, name ∉ start.seen) ∧
    (∀ seen cursor, source.IsFollowed seen (unwrapCursor cursor).node →
      source.dependencies seen cursor = [source.normalized (unwrapCursor cursor).node]) ∧
    ∀ seen array element argument, spreadArgument? element = some argument →
      source.IsFollowed seen (unwrapCursor ((array.down element).down argument)).node →
        source.entriesOf source.resolver seen array element = [source.normalized element] :=
  ⟨source.asks_wellFounded, source.round_eq_iff, fun _ _ => seen_of_chain,
    fun _ _ => dependencies_of_isFollowed, fun _ _ _ _ => entriesOf_of_isFollowed⟩

/-- What is not wrapped stays as it is. -/
theorem unwrapCursor_eq_self {cursor : Cursor} (h : wrapped? cursor.node = none) :
    unwrapCursor cursor = cursor := by
  rw [unwrapCursor]
  split
  · rename_i hsome
    rw [h] at hsome
    cases hsome
  · rfl

/-! ### A variable that spreads itself -/

/-- The second name in `const a=[...a]`. -/
def selfArgument : Tree :=
  .node (.inRow 10 "identifier" "" true 12 13) []

/-- The spread. -/
def selfElement : Tree :=
  .node (.inRow 8 "spread_element" "" true 9 13)
    [.node (.inRow 9 "..." "" false 9 12) [], selfArgument]

/-- The list that holds the spread. -/
def selfArray : Tree :=
  .node (.inRow 6 "array" "value" true 8 14)
    [.node (.inRow 7 "[" "" false 8 9) [], selfElement, .node (.inRow 11 "]" "" false 13 14) []]

/-- The declarator. -/
def selfDeclarator : Tree :=
  .node (.inRow 3 "variable_declarator" "" true 6 14)
    [.node (.inRow 4 "identifier" "name" true 6 7) [], .node (.inRow 5 "=" "" false 7 8) [], selfArray]

/-- The declaration. -/
def selfDeclaration : Tree :=
  .node (.inRow 1 "lexical_declaration" "" true 0 14)
    [.node (.inRow 2 "const" "" false 0 5) [], selfDeclarator]

/-- The whole file. -/
def selfProgram : Tree :=
  .node (.inRow 0 "program" "" true 0 14) [selfDeclaration]

/-- The file `const a=[...a]`. -/
def selfSource : Source where
  text := "const a=[...a]"
  tree := some selfProgram

/-- The list at its place. -/
def selfList : Cursor :=
  ⟨selfArray, [selfDeclarator, selfDeclaration, selfProgram]⟩

/-- The second name at its place. -/
def selfName : Cursor :=
  (selfList.down selfElement).down selfArgument

/-- The list of the example is not wrapped. -/
theorem unwrapCursor_selfList : unwrapCursor selfList = selfList :=
  unwrapCursor_eq_self rfl

/-- Nor is the name in it. -/
theorem unwrapCursor_selfName : unwrapCursor selfName = selfName :=
  unwrapCursor_eq_self rfl

/-- The name leads back to the list it stands in. -/
theorem leadsTo?_selfName : selfSource.leadsTo? [] selfName = some ("a", selfList) := by
  have hname : selfSource.identifierName? selfName.node = some "a" := rfl
  have hdeclared : selfSource.nearestDeclaration? "a" selfName =
      some ⟨selfDeclarator, [selfDeclaration, selfProgram]⟩ := rfl
  have hvalue : initializer? selfDeclarator = some selfArray := rfl
  have hunwrap := unwrapCursor_selfList
  simp only [leadsTo?, hname, hdeclared, hvalue, List.contains_nil, Bool.false_eq_true, if_false]
  have hdown : Cursor.down ⟨selfDeclarator, [selfDeclaration, selfProgram]⟩ selfArray = selfList :=
    rfl
  rw [hdown, hunwrap]
  rfl

/-- The list asks about itself, with its name being followed. -/
theorem selfList_chain :
    Relation.ReflTransGen selfSource.Asks (.list [] selfList) (.list ["a"] selfList) := by
  have harray : (unwrapCursor selfList).kind = "array" := by
    rw [unwrapCursor_selfList]
    rfl
  have hmem : selfElement ∈ (unwrapCursor selfList).node.parts := by
    rw [unwrapCursor_selfList]
    exact List.mem_singleton_self _
  have hother : (unwrapCursor selfName).kind ≠ "array" := by
    rw [unwrapCursor_selfName]
    decide
  have hspread : selfSource.Asks (.list [] selfList)
      (.spread [] (((unwrapCursor selfList).down selfElement).down selfArgument)) :=
    .element harray hmem rfl
  have hname : selfSource.Asks (.spread [] selfName) (.name [] (unwrapCursor selfName)) :=
    .single hother
  rw [unwrapCursor_selfList] at hspread
  rw [unwrapCursor_selfName] at hname
  exact ((Relation.ReflTransGen.single hspread).tail hname).tail (.declared leadsTo?_selfName)

/-- Resolving the list of a variable that spreads itself comes back to that list, following the name
once, and then keeps the text of the spread. -/
theorem resolution_wellFounded_selfSource :
    Relation.ReflTransGen selfSource.Asks (.list [] selfList) (.list ["a"] selfList) ∧
      selfSource.IsFollowed ["a"] (unwrapCursor selfName).node ∧
      (∃ followed : List String, ["a"] = followed ++ [] ∧ followed.Nodup ∧
        ∀ name ∈ followed, name ∉ ([] : List String)) ∧
      selfSource.dependencies ["a"] selfName =
        [selfSource.normalized (unwrapCursor selfName).node] ∧
      selfSource.entriesOf selfSource.resolver ["a"] selfList selfElement =
        [selfSource.normalized selfElement] := by
  have hfollowed : selfSource.IsFollowed ["a"] (unwrapCursor selfName).node := by
    rw [unwrapCursor_selfName]
    exact ⟨"a", List.mem_singleton_self _, rfl⟩
  obtain ⟨-, -, hchain, hname, hspread⟩ := resolution_wellFounded selfSource
  exact ⟨selfList_chain, hfollowed, hchain _ _ selfList_chain, hname _ _ hfollowed,
    hspread _ _ _ _ rfl hfollowed⟩

end ChangeLens.Source
