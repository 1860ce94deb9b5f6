import ChangeLens.Extract
import ChangeLens.Proofs.Coverage
import ChangeLens.Proofs.ExportedTypes

/-!
# `ChangeLens.Proofs.SitePlaces`: which nodes the sites of a model come from

`Extract.placeReaders` says for each list of a model where the sites stand that one node gives, list
by list in the order of `Model.siteSpans`. A reader looks at the node and at the text alone: a node
has no say in what another one gives. `siteSpans_ofSource` proves that the lists of a model are what
its nodes give, one node after the other in pre-order, and `exists_span_of_mem_reads` that all
sites stand where nodes of the tree stand.
-/

set_option autoImplicit false

namespace ChangeLens

/-- A text without a tree. -/
def Source.bare (source : Source) : Source where
  text := source.text
  tree := none

namespace Extract

/-! ### What one node gives -/

/-- The declarators that a declaration holds. -/
def declaratorsOf (node : Tree) : List Tree :=
  if node.kind == "lexical_declaration" || node.kind == "variable_declaration" then
    node.parts.filter (·.kind == "variable_declarator")
  else []

/-- The variables of a declaration are those of its declarators. -/
theorem variablesAt_eq (source : Source) (node : Tree) :
    variablesAt source node = (declaratorsOf node).filterMap (variableOf? source node) := by
  unfold variablesAt declaratorsOf
  split
  · rfl
  · rfl

/-- What is seen of a node, if it gives a site. -/
def giveIf {β : Type} (view : Tree → β) (gives : Tree → Bool) (node : Tree) : List β :=
  if gives node then [view node] else []

/-- Whether a node is a call or a `new` expression with a callee. -/
def isCallNode (node : Tree) : Bool :=
  node.kind == "call_expression" && (node.field? "function").isSome ||
    node.kind == "new_expression" && (node.field? "constructor").isSome

/-- Whether a node is an import statement that names a module. -/
def isImportNode (node : Tree) : Bool :=
  node.kind == "import_statement" && (node.field? "source").isSome

/-- The callee of a call or `new` expression. -/
def calleeAt (source : Source) (node : Tree) : String :=
  if node.kind == "call_expression" then (node.field? "function").elim "" (calleeText source node)
  else source.normalized? (node.field? "constructor")

/-- The module that an import statement names. -/
def moduleAt (source : Source) (node : Tree) : String :=
  (node.field? "source").elim "" (stringValue source)

/-- Whether a node is one of these kinds. -/
def isOneOf (kinds : List String) (node : Tree) : Bool :=
  kinds.contains node.kind

/-- Whether a node is a call whose callee is the bare name of a hook. -/
def isHookNode (source : Source) (node : Tree) : Bool :=
  node.kind == "call_expression" && (node.field? "function").any fun function =>
    function.kind == "identifier" && isHookName (calleeText source node function)

/-- The kinds of type definitions. -/
def typeKinds : List String :=
  ["type_alias_declaration", "interface_declaration", "enum_declaration"]

/-- The kinds of loops. -/
def loopKinds : List String :=
  ["for_statement", "for_in_statement", "while_statement", "do_statement"]

/-- For each list of a model, where the sites stand that a node gives. -/
def placeReaders : List (Source → Tree → List Span) :=
  [ -- Functions, types, calls, imports, exports, classes, interfaces.
   fun source => giveIf source.span (Source.isFunctionKind ·.kind),
   fun source => giveIf source.span (isOneOf typeKinds),
   fun source => giveIf source.span isCallNode,
   fun source => giveIf source.span isImportNode,
   fun source node =>
    if node.kind == "export_statement" then (exportsAt source node).map ExportSite.span else [],
   fun source => giveIf source.span fun node =>
    (node.kind == "class_declaration" || node.kind == "abstract_class_declaration") &&
      (node.field? "name").isSome,
   fun source => giveIf source.span (·.kind == "interface_declaration"),
   -- Variables and hooks.
   fun source node => (variablesAt source node).map VariableSite.span,
   fun source => giveIf source.span (isHookNode source),
   -- Elements, event handlers and conditional renders of markup.
   fun source => giveIf source.span fun node =>
    (node.kind == "jsx_element" || node.kind == "jsx_self_closing_element") &&
      (elementAt? source node).isSome,
   fun source node =>
    if node.kind == "jsx_element" || node.kind == "jsx_self_closing_element" then
      (handlersAt source node).map HandlerSite.span
    else [],
   fun source => giveIf source.span fun node =>
    node.kind == "jsx_expression" && (renderAt? source node).isSome,
   -- Mutations of arrays and of objects. Whether a call mutates an array does not hang on what
   -- stands around it, so its node is looked at alone.
   fun source => giveIf source.span fun node => (arrayMutationAt? source ⟨node, []⟩).isSome,
   fun source => giveIf source.span fun node =>
    isOneOf ["assignment_expression", "augmented_assignment_expression"] node &&
      (objectMutationAt? source node).isSome,
   -- Returns, conditional expressions, conditions, loops, try and throw statements.
   fun source => giveIf source.span (isOneOf ["return_statement"]),
   fun source => giveIf source.span (isOneOf ["ternary_expression"]),
   fun source => giveIf source.span (isOneOf ["if_statement"]),
   fun source => giveIf source.span (isOneOf loopKinds),
   fun source => giveIf source.span (isOneOf ["try_statement"]),
   fun source => giveIf source.span (isOneOf ["throw_statement"]),
   -- Operators, spread elements, destructurings and assignments.
   fun source node =>
    if isOneOf ["binary_expression"] node then
      (operatorAt? source node).toList.map OperatorSite.span
    else [],
   fun source => giveIf source.span (isOneOf ["spread_element"]),
   fun source node =>
    ((declaratorsOf node).filterMap (destructuringOf? source)).map DestructuringSite.span,
   fun source => giveIf source.span fun node =>
    isOneOf ["assignment_expression", "augmented_assignment_expression"] node &&
      (assignmentAt? source node).isSome]

/-! ### What all nodes give -/

section

variable {α β : Type} {see : α → β} {view : Tree → β}

/-- One view of each node that gives something. -/
theorem flatMap_giveIf (gives : Tree → Bool) (nodes : List Tree) :
    nodes.flatMap (giveIf view gives) = (nodes.filter gives).map view := by
  induction nodes with
  | nil => rfl
  | cons node rest ih =>
    rw [List.flatMap_cons, ih, giveIf]
    cases hnode : gives node with
    | true => simp [hnode]
    | false => simp [hnode]

/-- What is seen of sites and nodes can be left out in part. -/
theorem map_of_map_pairs {γ : Type} {sites : List α} {text : α → γ} {textAt : Tree → γ}
    {gives : Tree → Bool} {nodes : List Tree}
    (h : sites.map (fun site => (see site, text site)) =
      nodes.flatMap (giveIf (fun node => (view node, textAt node)) gives)) :
    sites.map see = nodes.flatMap (giveIf view gives) := by
  have hfirst := congrArg (List.map Prod.fst) h
  rw [flatMap_giveIf, List.map_map, List.map_map] at hfirst
  rw [flatMap_giveIf]
  exact hfirst

/-- Where each node gives what a reader says, all nodes together do. -/
theorem map_flatMap_cursors {sites : Cursor → List α} {reads : Tree → List β}
    (h : ∀ cursor, (sites cursor).map see = reads cursor.node) (cursors : List Cursor) :
    (cursors.flatMap sites).map see = (cursors.map (·.node)).flatMap reads := by
  rw [List.map_flatMap, List.flatMap_map]
  exact List.flatMap_congr fun cursor _ => h cursor

/-- Sites made of the cursors that are kept, seen through something that only depends on the node.
-/
theorem map_filter_cursors {p : Cursor → Bool} {site : Cursor → α} {gives : Tree → Bool}
    (hp : ∀ cursor, p cursor = gives cursor.node)
    (hsite : ∀ cursor, see (site cursor) = view cursor.node) (cursors : List Cursor) :
    ((cursors.filter p).map site).map see = (cursors.map (·.node)).flatMap (giveIf view gives) := by
  rw [flatMap_giveIf, List.filter_map, List.map_map, List.map_map]
  have hsame : p = gives ∘ (·.node) := funext hp
  rw [hsame]
  exact List.map_congr_left fun cursor _ => hsite cursor

/-- The same for sites that may be missing. -/
theorem map_filterMap_cursors {site? : Cursor → Option α} {gives : Tree → Bool}
    (h : ∀ cursor, (site? cursor).map see =
      if gives cursor.node then some (view cursor.node) else none)
    (cursors : List Cursor) :
    (cursors.filterMap site?).map see = (cursors.map (·.node)).flatMap (giveIf view gives) := by
  rw [List.filterMap_eq_flatMap_toList]
  refine map_flatMap_cursors (fun cursor => ?_) cursors
  rw [← Option.toList_map, h cursor, giveIf]
  split
  · rfl
  · rfl

end

/-- An optional site that can stand at one place only. -/
theorem map_span_eq_ite {α : Type} {span : α → Span} {site? : Option α} {place : Span}
    (h : ∀ site, site? = some site → span site = place) :
    site?.map span = if site?.isSome then some place else none := by
  cases site? with
  | none => rfl
  | some site => simp [h site rfl]

section

variable {source : Source}

/-- A type stands where its node does, and every node of the right kinds is one. -/
theorem map_span_typeAt? (node : Tree) :
    (typeAt? source node).map TypeSite.span =
      if isOneOf typeKinds node then some (source.span node) else none := by
  unfold typeAt? isOneOf typeKinds
  by_cases halias : node.kind = "type_alias_declaration"
  · simp [halias, aliasAt]
  · by_cases hinterface : node.kind = "interface_declaration"
    · simp [hinterface, interfaceTypeAt]
    · by_cases henum : node.kind = "enum_declaration"
      · simp [henum, enumAt]
      · simp [halias, hinterface, henum]

/-- Calls are known by their place and their callee. -/
theorem map_calls (source : Source) :
    (calls source).map (fun site => (site.span, site.callee)) =
      ((namedCursors source).map (·.node)).flatMap
        (giveIf (fun node => (source.span node, calleeAt source node)) isCallNode) := by
  refine map_filterMap_cursors (fun cursor => ?_) _
  have hkind : cursor.kind = cursor.node.kind := rfl
  unfold callAt? isCallNode calleeAt
  rw [hkind]
  by_cases hcall : cursor.node.kind = "call_expression"
  · cases cursor.node.field? "function" <;> simp [hcall, callOf]
  · by_cases hnew : cursor.node.kind = "new_expression"
    · cases cursor.node.field? "constructor" <;> simp [hnew, newOf, Source.normalized?]
    · simp [hcall, hnew]

/-- What stands around a call has no say in whether it is the call of a hook. -/
theorem map_span_hookAt? (cursor : Cursor) :
    (hookAt? source cursor).map HookSite.span =
      if isHookNode source cursor.node then some (source.span cursor.node) else none := by
  have hkind : cursor.kind = cursor.node.kind := rfl
  unfold hookAt? isHookNode
  rw [hkind]
  by_cases hcall : cursor.node.kind = "call_expression"
  · cases cursor.node.field? "function" with
    | none => simp
    | some function => simp [hcall, callOf, HookSite.span]
  · simp [hcall]

/-- Whether a call changes an array does not depend on what is around it. -/
theorem map_span_arrayMutationAt? (cursor : Cursor) :
    (arrayMutationAt? source cursor).map ArrayMutationSite.span =
      if (arrayMutationAt? source ⟨cursor.node, []⟩).isSome then some (source.span cursor.node)
      else none := by
  refine map_span_eq_ite fun site hsite => ?_
  unfold arrayMutationAt? at hsite
  split at hsite
  · cases hsite
  · obtain ⟨function, -, hsite⟩ := Option.bind_eq_some_iff.1 hsite
    obtain ⟨object, -, hsite⟩ := Option.bind_eq_some_iff.1 hsite
    split at hsite
    · cases hsite; rfl
    · cases hsite

/-- An element stands where its node does. -/
theorem span_of_elementAt? {node : Tree} {site : ElementSite}
    (h : elementAt? source node = some site) : site.span = source.span node := by
  obtain ⟨⟨opening, tag⟩, -, rfl⟩ := Option.map_eq_some_iff.1 h
  rfl

/-- So does conditional rendering. -/
theorem span_of_renderAt? {node : Tree} {site : RenderSite}
    (h : renderAt? source node = some site) : site.span = source.span node := by
  obtain ⟨inner, -, h⟩ := Option.bind_eq_some_iff.1 h
  dsimp only at h
  split at h
  · cases h; rfl
  · split at h
    · cases h; rfl
    · cases h

/-- So does an assignment to a property. -/
theorem span_of_objectMutationAt? {node : Tree} {site : ObjectMutationSite}
    (h : objectMutationAt? source node = some site) : site.span = source.span node := by
  obtain ⟨left, -, h⟩ := Option.bind_eq_some_iff.1 h
  split at h
  · cases h; rfl
  · cases h

/-- So does an assignment to a variable. -/
theorem span_of_assignmentAt? {node : Tree} {site : AssignmentSite}
    (h : assignmentAt? source node = some site) : site.span = source.span node := by
  obtain ⟨left, -, h⟩ := Option.bind_eq_some_iff.1 h
  split at h
  · cases h; rfl
  · cases h

/-- Sites of nodes that pass a test, where each node can give one at its own place only. -/
theorem map_span_filter_filterMap {α : Type} {span : α → Span} {p : Cursor → Bool}
    {q : Tree → Bool} {site? : Tree → Option α} (hp : ∀ cursor, p cursor = q cursor.node)
    (hsite : ∀ node site, site? node = some site → span site = source.span node)
    (cursors : List Cursor) :
    ((cursors.filter p).filterMap fun cursor => site? cursor.node).map span =
      (cursors.map (·.node)).flatMap
        (giveIf source.span fun node => q node && (site? node).isSome) := by
  rw [List.filterMap_filter]
  refine map_filterMap_cursors (fun cursor => ?_) cursors
  rw [hp cursor]
  cases q cursor.node with
  | true => exact map_span_eq_ite (hsite cursor.node)
  | false => rfl

/-- Sites of nodes that pass a test, where each node can give several. -/
theorem map_span_filter_flatMap {α : Type} {span : α → Span} {p : Cursor → Bool}
    {q : Tree → Bool} (sites : Tree → List α) (hp : ∀ cursor, p cursor = q cursor.node)
    (cursors : List Cursor) :
    ((cursors.filter p).flatMap fun cursor => sites cursor.node).map span =
      (cursors.map (·.node)).flatMap fun node => if q node then (sites node).map span else [] := by
  induction cursors with
  | nil => rfl
  | cons cursor rest ih =>
    rw [List.map_cons, List.flatMap_cons, ← ih, ← hp cursor]
    cases hcursor : p cursor with
    | true => simp [hcursor]
    | false => simp [hcursor]

/-- Destructuring declarations, declarator by declarator. -/
theorem destructurings_eq_flatMap (source : Source) :
    destructurings source = (namedCursors source).flatMap fun cursor =>
      (declaratorsOf cursor.node).filterMap (destructuringOf? source) := by
  rw [destructurings, declared, List.filterMap_flatMap]
  refine List.flatMap_congr fun cursor _ => ?_
  have hkind : cursor.kind = cursor.node.kind := rfl
  rw [declaratorsOf, hkind]
  split
  · rw [List.filterMap_map]
    rfl
  · rfl

/-- Imports are known by their place and their module; numbering them changes neither. -/
theorem map_imports (source : Source) :
    (imports source).map (fun site => (site.span, site.moduleName)) =
      ((namedCursors source).map (·.node)).flatMap
        (giveIf (fun node => (source.span node, moduleAt source node)) isImportNode) := by
  -- Imports are numbered, but neither their span nor their module depends on the number.
  have hunnumbered : (imports source).map (fun site => (site.span, site.moduleName)) =
      (((namedCursors source).filter (·.kind == "import_statement")).filterMap
        fun cursor => importAt? source cursor.node).map
          fun site => (site.span, site.moduleName) := by
    refine Eq.trans ?_ (congrArg (List.map _) (List.zipIdx_map_fst 0 _))
    rw [imports, List.map_map, List.map_map]
    rfl
  rw [hunnumbered, List.filterMap_filter]
  refine map_filterMap_cursors (fun cursor => ?_) _
  have hkind : cursor.kind = cursor.node.kind := rfl
  rw [hkind, isImportNode, moduleAt]
  by_cases himport : cursor.node.kind = "import_statement"
  · cases hfield : cursor.node.field? "source" <;> simp [himport, importAt?, hfield]
  · simp [himport]

/-- A class stands where its node does if it has a name. -/
theorem map_span_classes (source : Source) :
    (classes source).map ClassSite.span =
      ((namedCursors source).map (·.node)).flatMap
        (giveIf source.span fun node =>
          (node.kind == "class_declaration" || node.kind == "abstract_class_declaration") &&
            (node.field? "name").isSome) := by
  refine map_filterMap_cursors (fun cursor => ?_) _
  have hkind : cursor.kind = cursor.node.kind := rfl
  rw [hkind]
  cases (cursor.node.kind == "class_declaration" ||
    cursor.node.kind == "abstract_class_declaration") with
  | false => rfl
  | true => cases hfield : cursor.node.field? "name" <;> simp [classAt?, hfield]

end

/-- What a node gives hangs on the node and the text alone. -/
theorem reads_bare {reads : Source → Tree → List Span} (h : reads ∈ placeReaders)
    (source : Source) : reads source.bare = reads source := by
  obtain ⟨text, tree, octets, rfl⟩ := source
  simp only [placeReaders, List.mem_cons, List.not_mem_nil, or_false] at h
  rcases h with rfl | rfl | rfl | rfl | rfl | rfl | rfl | rfl | rfl | rfl | rfl | rfl | rfl | rfl |
    rfl | rfl | rfl | rfl | rfl | rfl | rfl | rfl | rfl | rfl <;> rfl

/-- The named nodes of a source, without their parents, are those of the walk of its tree. -/
theorem map_node_namedCursors {source : Source} {tree : Tree} (h : source.tree = some tree) :
    (namedCursors source).map (·.node) = tree.walk.filter (·.label.named) := by
  rw [namedCursors, ← Source.map_node_cursors h, List.filter_map]
  rfl

/-- The lists of a model are what the named nodes of its tree give, one after the other in
pre-order. -/
theorem siteSpans_ofSource {source : Source} {tree : Tree} {dialect : String}
    (htree : source.tree = some tree) (hdialect : knownDialects.contains dialect = true) :
    (Model.ofSource source dialect).siteSpans =
      placeReaders.map fun reads => (tree.walk.filter (·.label.named)).flatMap (reads source) := by
  have hparsed : (source.tree.isSome && knownDialects.contains dialect) = true := by
    rw [htree, hdialect]
    rfl
  rw [Model.ofSource, if_pos hparsed, ← map_node_namedCursors htree]
  simp only [Model.siteSpans, placeReaders, List.map_cons, List.map_nil, List.cons.injEq, and_true]
  -- One goal for each kind of site, in the order of the readers. They differ in how the extraction
  -- goes through the tree: by filtering, by filtering and making, or by several sites for a node.
  refine ⟨?_, ?_, ?_, ?_, ?_, ?_, ?_, ?_, ?_, ?_, ?_, ?_, ?_, ?_, ?_, ?_, ?_, ?_, ?_, ?_, ?_, ?_, ?_,
    ?_⟩
  · exact map_filter_cursors (by intro _; rfl) (by intro _; rfl) _
  · exact map_filterMap_cursors (fun cursor => map_span_typeAt? cursor.node) _
  · exact map_of_map_pairs (map_calls source)
  · exact map_of_map_pairs (map_imports source)
  · exact map_span_filter_flatMap (exportsAt source) (by intro _; rfl) _
  · exact map_span_classes source
  · exact map_filter_cursors (by intro _; rfl) (by intro _; rfl) _
  · rw [variableSites_eq_flatMap]
    exact map_flatMap_cursors (fun _ => rfl) _
  · exact map_filterMap_cursors map_span_hookAt? _
  · rw [elements, elementNodes, List.filterMap_map]
    exact map_span_filter_filterMap (by intro _; rfl) (fun _ _ => span_of_elementAt?) _
  · rw [handlers, elementNodes, List.flatMap_map]
    exact map_span_filter_flatMap (handlersAt source) (by intro _; rfl) _
  · exact map_span_filter_filterMap (by intro _; rfl) (fun _ _ => span_of_renderAt?) _
  · exact map_filterMap_cursors map_span_arrayMutationAt? _
  · rw [objectMutations, assigningNodes, List.filterMap_map]
    exact map_span_filter_filterMap (by intro _; rfl) (fun _ _ => span_of_objectMutationAt?) _
  · exact map_filter_cursors (by intro _; rfl) (by intro _; rfl) _
  · exact map_filter_cursors (by intro _; rfl) (by intro _; rfl) _
  · exact map_filter_cursors (by intro _; rfl) (by intro _; rfl) _
  · exact map_filter_cursors (by intro _; rfl) (by intro _; rfl) _
  · exact map_filter_cursors (by intro _; rfl) (by intro _; rfl) _
  · exact map_filter_cursors (by intro _; rfl) (by intro _; rfl) _
  · rw [operators, List.filterMap_eq_flatMap_toList]
    exact map_span_filter_flatMap (fun node => (operatorAt? source node).toList) (by intro _; rfl) _
  · exact map_filter_cursors (by intro _; rfl) (by intro _; rfl) _
  · rw [destructurings_eq_flatMap]
    exact map_flatMap_cursors (fun _ => rfl) _
  · rw [assignments, assigningNodes, List.filterMap_map]
    exact map_span_filter_filterMap (by intro _; rfl) (fun _ _ => span_of_assignmentAt?) _

/-! ### Where the sites stand -/

section

variable {source : Source} {node : Tree} {place : Span}

/-- A node gives no place but its own. -/
theorem mem_giveIf_span {gives : Tree → Bool} (h : place ∈ giveIf source.span gives node) :
    place = source.span node := by
  unfold giveIf at h
  split at h
  · exact List.mem_singleton.1 h
  · cases h

/-- All names that an export statement gives away stand where the statement stands. -/
theorem span_of_mem_exportsAt {site : ExportSite} (h : site ∈ exportsAt source node) :
    site.span = source.span node := by
  -- An export is a declaration, a default, a list or everything of a module; in each case the site
  -- takes the span of the node.
  unfold exportsAt at h
  split at h
  · -- Each declarator of an exported declaration is a site, and all of them have the span of the
    -- statement.
    unfold exportedDeclaration at h
    split at h
    · obtain ⟨declarator, -, hsite⟩ := List.mem_filterMap.1 h
      obtain ⟨name, -, rfl⟩ := Option.map_eq_some_iff.1 hsite
      rfl
    · rw [List.mem_singleton.1 h]
  · dsimp only at h
    split at h
    · rw [List.mem_singleton.1 h]
      rfl
    · split at h
      · unfold exportedList at h
        split at h
        · obtain ⟨specifier, -, rfl⟩ := List.mem_map.1 h
          rfl
        · rw [List.mem_singleton.1 h]
      · split at h
        · rw [List.mem_singleton.1 h]
        · cases h

/-- A variable stands where its declarator does. -/
theorem span_of_variableOf? {declarator : Tree} {site : VariableSite}
    (h : variableOf? source node declarator = some site) :
    site.span = source.span declarator := by
  obtain ⟨name, -, h⟩ := Option.bind_eq_some_iff.1 h
  split at h
  · cases h; rfl
  · cases h

/-- So does a destructuring declaration. -/
theorem span_of_destructuringOf? {declarator : Tree} {site : DestructuringSite}
    (h : destructuringOf? source declarator = some site) :
    site.span = source.span declarator := by
  obtain ⟨name, -, h⟩ := Option.bind_eq_some_iff.1 h
  obtain ⟨value, -, h⟩ := Option.bind_eq_some_iff.1 h
  dsimp only at h
  split at h
  · cases h; rfl
  · split at h
    · cases h; rfl
    · cases h

/-- An operator stands where the sign between the operands does. -/
theorem span_of_operatorAt? {site : OperatorSite} (h : operatorAt? source node = some site) :
    ∃ operator ∈ node.children, site.span = source.span operator := by
  obtain ⟨operator, hoperator, h⟩ := Option.bind_eq_some_iff.1 h
  obtain ⟨category, -, h⟩ := Option.bind_eq_some_iff.1 h
  cases h
  exact ⟨operator, List.mem_of_find?_eq_some hoperator, rfl⟩

/-- A handler stands where its attribute does. -/
theorem span_of_handlerOf? {tag : String} {prop : Tree} {site : HandlerSite}
    (h : handlerOf? source tag prop = some site) : site.span = source.span prop := by
  obtain ⟨written, -, h⟩ := Option.bind_eq_some_iff.1 h
  split at h
  · cases h
  · obtain ⟨value, -, h⟩ := Option.bind_eq_some_iff.1 h
    obtain ⟨inner, -, h⟩ := Option.bind_eq_some_iff.1 h
    dsimp only at h
    split at h
    · cases h
    · cases h; rfl

/-- The opening tag of an element is the element itself or one of its children. -/
theorem mem_walk_of_openingTag? {opening : Tree} (h : openingTag? node = some opening) :
    opening ∈ node.walk := by
  unfold openingTag? at h
  split at h
  · rcases Option.or_eq_some_iff.1 h with hfield | ⟨-, hfound⟩
    · exact Tree.mem_walk_of_mem_children (List.mem_of_find?_eq_some hfield)
    · exact Tree.mem_walk_of_mem_children (List.mem_filter.1 (List.mem_of_find?_eq_some hfound)).1
  · cases h
    exact Tree.mem_walk_self node

/-- The handlers of an element stand inside of it. -/
theorem span_of_mem_handlersAt {site : HandlerSite} (h : site ∈ handlersAt source node) :
    ∃ prop ∈ node.walk, site.span = source.span prop := by
  unfold handlersAt at h
  split at h
  · rename_i opening tag htag
    obtain ⟨prop, hprop, hsite⟩ := List.mem_filterMap.1 h
    obtain ⟨opening', hopening, htag⟩ := Option.bind_eq_some_iff.1 htag
    obtain ⟨name, -, htag⟩ := Option.bind_eq_some_iff.1 htag
    cases htag
    have hbelow := Tree.mem_walk_of_mem_children (List.mem_filter.1 hprop).1
    exact ⟨prop, Tree.mem_walk_trans (mem_walk_of_openingTag? hopening) hbelow,
      span_of_handlerOf? hsite⟩
  · cases h

/-- Declarators are inside the declaration. -/
theorem mem_walk_of_mem_declaratorsOf {declarator : Tree} (h : declarator ∈ declaratorsOf node) :
    declarator ∈ node.walk := by
  unfold declaratorsOf at h
  split at h
  · exact Tree.mem_walk_of_mem_children (List.mem_filter.1 (List.mem_filter.1 h).1).1
  · cases h

end

/-- All sites that a node gives stand where the node or a node below it stands. -/
theorem exists_span_of_mem_reads {reads : Source → Tree → List Span} (h : reads ∈ placeReaders)
    {source : Source} {node : Tree} {place : Span} (hplace : place ∈ reads source node) :
    ∃ inner ∈ node.walk, place = source.span inner := by
  have hself (gives : Tree → Bool) (hmem : place ∈ giveIf source.span gives node) :
      ∃ inner ∈ node.walk, place = source.span inner :=
    ⟨node, Tree.mem_walk_self node, mem_giveIf_span hmem⟩
  simp only [placeReaders, List.mem_cons, List.not_mem_nil, or_false] at h
  rcases h with rfl | rfl | rfl | rfl | rfl | rfl | rfl | rfl | rfl | rfl | rfl | rfl | rfl | rfl |
    rfl | rfl | rfl | rfl | rfl | rfl | rfl | rfl | rfl | rfl
  -- Most readers give the place of the node itself; the others give places of nodes inside of it.
  iterate 4 exact hself _ hplace
  · dsimp only at hplace
    split at hplace
    · obtain ⟨site, hsite, rfl⟩ := List.mem_map.1 hplace
      exact ⟨node, Tree.mem_walk_self node, span_of_mem_exportsAt hsite⟩
    · cases hplace
  iterate 2 exact hself _ hplace
  · obtain ⟨site, hsite, rfl⟩ := List.mem_map.1 hplace
    obtain ⟨declarator, hdeclarator, hsite⟩ := List.mem_filterMap.1 (variablesAt_eq .. ▸ hsite)
    exact ⟨declarator, mem_walk_of_mem_declaratorsOf hdeclarator, span_of_variableOf? hsite⟩
  iterate 2 exact hself _ hplace
  · dsimp only at hplace
    split at hplace
    · obtain ⟨site, hsite, rfl⟩ := List.mem_map.1 hplace
      exact span_of_mem_handlersAt hsite
    · cases hplace
  iterate 9 exact hself _ hplace
  · dsimp only at hplace
    split at hplace
    · obtain ⟨site, hsite, rfl⟩ := List.mem_map.1 hplace
      obtain ⟨operator, hoperator, hspan⟩ := span_of_operatorAt? (Option.mem_toList.1 hsite)
      exact ⟨operator, Tree.mem_walk_of_mem_children hoperator, hspan⟩
    · cases hplace
  · exact hself _ hplace
  · obtain ⟨site, hsite, rfl⟩ := List.mem_map.1 hplace
    obtain ⟨declarator, hdeclarator, hsite⟩ := List.mem_filterMap.1 hsite
    exact ⟨declarator, mem_walk_of_mem_declaratorsOf hdeclarator, span_of_destructuringOf? hsite⟩
  · exact hself _ hplace

/-- Every site of a model stands where a node of the tree stands. -/
theorem exists_span_of_mem_spans {source : Source} {dialect : String} {place : Span}
    (h : place ∈ (Model.ofSource source dialect).spans) :
    ∃ tree, source.tree = some tree ∧ ∃ node ∈ tree.walk, place = source.span node := by
  by_cases hparsed : (source.tree.isSome && knownDialects.contains dialect) = true
  · obtain ⟨hsome, hdialect⟩ := Bool.and_eq_true _ _ ▸ hparsed
    obtain ⟨tree, htree⟩ := Option.isSome_iff_exists.1 hsome
    rw [Model.spans, siteSpans_ofSource htree hdialect, List.mem_flatten] at h
    obtain ⟨list, hlist, hplace⟩ := h
    obtain ⟨reads, hreads, rfl⟩ := List.mem_map.1 hlist
    obtain ⟨node, hnode, hplace⟩ := List.mem_flatMap.1 hplace
    obtain ⟨inner, hinner, hspan⟩ := exists_span_of_mem_reads hreads hplace
    exact ⟨tree, htree, inner, Tree.mem_walk_trans (List.mem_filter.1 hnode).1 hinner, hspan⟩
  · rw [Model.ofSource, if_neg hparsed] at h
    cases h

end Extract

end ChangeLens
