import ChangeLens.Proofs.SitePlaces

/-!
# `ChangeLens.Proofs.Extraction`: every site has its node, and every node its site

`Extract.siteRows` lists, for ten of the lists of a model, which named nodes give a site and what is
seen of it there. `model_sites` says that these lists are the lists of these nodes in pre-order, one
site for one node.

What happens inside one node leaves the sites of all others alone. `Tree.Replaces` puts any node in
the place of another one, be it the same one with fields or children missing. Then the sites in front
of it and behind it stay as many, in the same order and at the same places. For all lists of a model
the places that a node gives hang on the node and the text alone (`placeReaders`).
-/

set_option autoImplicit false

namespace ChangeLens

/-! ### Replacing a node -/

namespace Tree

/-- The second tree is the first one with the node `new` in the place of the node `old`. -/
inductive Replaces (old new : Tree) : Tree → Tree → Prop where
  /-- The whole tree is replaced. -/
  | here : Replaces old new old new
  /-- The node is in the tree below some child. -/
  | inside (label : NodeLabel) (before after : List Tree) {child child' : Tree} :
    Replaces old new child child' →
      Replaces old new (.node label (before ++ child :: after))
        (.node label (before ++ child' :: after))

variable {old new tree tree' : Tree}

/-- A node that takes the field of the old one leaves all fields filled. -/
theorem Replaces.field_eq (h : Replaces old new tree tree')
    (hfield : new.label.field = old.label.field) : tree'.label.field = tree.label.field := by
  cases h with
  | here => exact hfield
  | inside label before after h => rfl

/-- Whether a field is filled does not hang on what fills it. -/
theorem isSome_field?_replaced {label : NodeLabel} {before after : List Tree} {child child' : Tree}
    (h : child'.label.field = child.label.field) (name : String) :
    ((Tree.node label (before ++ child' :: after)).field? name).isSome =
      ((Tree.node label (before ++ child :: after)).field? name).isSome := by
  have hany (trees : List Tree) :
      ((Tree.node label trees).field? name).isSome = trees.any (·.label.field == name) := by
    rw [field?, children_node, Bool.eq_iff_iff, List.find?_isSome, List.any_eq_true]
  rw [hany, hany, List.any_append, List.any_append, List.any_cons, List.any_cons, h]

end Tree

namespace Extract

/-! ### Ten lists of a model -/

/-- One of the lists of a model. -/
structure SiteRow where
  /-- The sites, each with its place and a text of it. -/
  sites : Model → List (Span × String)
  /-- Whether a named node gives a site. -/
  gives : Tree → Bool
  /-- The text that the site has from its node. -/
  textAt : Source → Tree → String

/-- Functions, calls, imports and statements, with the nodes that they come from. -/
def siteRows : List SiteRow :=
  [{ sites := fun model => model.functions.map fun site => (site.span, site.bodyText)
     gives := isOneOf ["function_declaration", "generator_function_declaration",
      "function_expression", "function", "generator_function", "arrow_function",
      "method_definition"]
     textAt := fun source node => source.normalized? (node.field? "body") },
   { sites := fun model => model.calls.map fun site => (site.span, site.callee)
     gives := isCallNode
     textAt := calleeAt },
   { sites := fun model => model.loops.map fun site => (site.span, site.text)
     gives := isOneOf loopKinds
     textAt := Source.normalized },
   { sites := fun model => model.tries.map fun site => (site.span, site.tryText)
     gives := isOneOf ["try_statement"]
     textAt := fun source node => source.normalized? (node.field? "body") },
   { sites := fun model => model.throws.map fun site => (site.span, site.text)
     gives := isOneOf ["throw_statement"]
     textAt := Source.normalized },
   { sites := fun model => model.ternaries.map fun site => (site.span, site.condition)
     gives := isOneOf ["ternary_expression"]
     textAt := fun source node => source.normalized? (node.field? "condition") },
   { sites := fun model => model.conditionals.map fun site => (site.span, site.thenText)
     gives := isOneOf ["if_statement"]
     textAt := fun source node => source.normalized? (node.field? "consequence") },
   { sites := fun model => model.returns.map fun site => (site.span, site.text)
     gives := isOneOf ["return_statement"]
     textAt := fun source node => source.normalized? node.parts.head? },
   { sites := fun model => model.spreads.map fun site => (site.span, site.text)
     gives := isOneOf ["spread_element"]
     textAt := Source.normalized },
   { sites := fun model => model.imports.map fun site => (site.span, site.moduleName)
     gives := isImportNode
     textAt := moduleAt }]

namespace SiteRow

/-- What the named nodes of a tree give, in pre-order. -/
def readOff (row : SiteRow) (source : Source) (tree : Tree) : List (Span × String) :=
  (tree.walk.filter fun node => node.label.named && row.gives node).map fun node =>
    (source.span node, row.textAt source node)

/-- Where the sites stand that the named nodes of a tree give. -/
def places (row : SiteRow) (source : Source) (tree : Tree) : List Span :=
  (tree.walk.filter fun node => node.label.named && row.gives node).map source.span

/-- The places of a node and those of what stands below it. -/
theorem places_node (row : SiteRow) (source : Source) (label : NodeLabel) (children : List Tree) :
    row.places source (.node label children) =
      giveIf source.span (fun node => node.label.named && row.gives node) (.node label children) ++
        children.flatMap (row.places source) := by
  unfold places giveIf
  rw [Tree.walk, Tree.walkAll_eq_flatMap, List.filter_cons, List.filter_flatMap]
  split
  · simp [List.map_flatMap]
  · simp [List.map_flatMap]

/-- Whether a node gives a site hangs on its kind and on which of its fields are filled. -/
theorem gives_replaced {row : SiteRow} (hrow : row ∈ siteRows) {label : NodeLabel}
    {before after : List Tree} {child child' : Tree} (h : child'.label.field = child.label.field) :
    row.gives (.node label (before ++ child' :: after)) =
      row.gives (.node label (before ++ child :: after)) := by
  simp only [siteRows, List.mem_cons, List.not_mem_nil, or_false] at hrow
  rcases hrow with rfl | rfl | rfl | rfl | rfl | rfl | rfl | rfl | rfl | rfl
  · rfl
  · simp only [isCallNode, Tree.isSome_field?_replaced h, Tree.kind_node]
  iterate 7 rfl
  · simp only [isImportNode, Tree.isSome_field?_replaced h, Tree.kind_node]

/-- A node in the place of another one leaves the sites in front of it and behind it alone. -/
theorem places_replaced {row : SiteRow} (hrow : row ∈ siteRows) (source : Source)
    {old new tree tree' : Tree} (h : Tree.Replaces old new tree tree')
    (hfield : new.label.field = old.label.field) :
    ∃ before after, row.places source tree = before ++ row.places source old ++ after ∧
      row.places source tree' = before ++ row.places source new ++ after := by
  induction h with
  | here => exact ⟨[], [], by simp, by simp⟩
  | @inside label before after child child' h ih =>
    obtain ⟨front, back, hold, hnew⟩ := ih
    -- The node above keeps its own site; so do all trees beside the one that is changed.
    refine ⟨giveIf source.span (fun node => node.label.named && row.gives node)
      (.node label (before ++ child :: after)) ++ before.flatMap (row.places source) ++ front,
      back ++ after.flatMap (row.places source), ?_, ?_⟩
    · rw [places_node, List.flatMap_append, List.flatMap_cons, hold]
      simp only [List.append_assoc]
    · rw [places_node, List.flatMap_append, List.flatMap_cons, hnew]
      simp only [giveIf, Tree.label_node, gives_replaced hrow (h.field_eq hfield), List.append_assoc]
      rfl

/-- The sites of a row are at its places. -/
theorem map_fst_readOff (row : SiteRow) (source : Source) (tree : Tree) :
    (row.readOff source tree).map Prod.fst = row.places source tree := by
  rw [readOff, List.map_map]
  rfl

/-- The sites of a model are what the named nodes give. -/
theorem sites_ofSource {row : SiteRow} (hrow : row ∈ siteRows) {source : Source} {tree : Tree}
    {dialect : String} (htree : source.tree = some tree)
    (hdialect : knownDialects.contains dialect = true) :
    row.sites (Model.ofSource source dialect) = row.readOff source tree := by
  have hparsed : (source.tree.isSome && knownDialects.contains dialect) = true := by
    rw [htree, hdialect]
    rfl
  have hread : row.readOff source tree =
      ((namedCursors source).map (·.node)).flatMap
        (giveIf (fun node => (source.span node, row.textAt source node)) row.gives) := by
    rw [flatMap_giveIf, map_node_namedCursors htree, List.filter_filter, readOff]
    simp only [Bool.and_comm]
  rw [hread, Model.ofSource, if_pos hparsed]
  simp only [siteRows, List.mem_cons, List.not_mem_nil, or_false] at hrow
  -- Calls and imports are extracted in ways of their own; the other rows read one site off each
  -- node.
  rcases hrow with rfl | rfl | rfl | rfl | rfl | rfl | rfl | rfl | rfl | rfl
  · exact map_filter_cursors (by intro _; rfl) (by intro _; rfl) _
  · exact map_calls source
  iterate 7 exact map_filter_cursors (by intro _; rfl) (by intro _; rfl) _
  · exact map_imports source

/-- Where the sites stand when the text of a source is parsed as a tree. -/
def spansIn (row : SiteRow) (source : Source) (dialect : String) (tree : Tree) : List Span :=
  (row.sites (Model.ofSource { source with tree := some tree } dialect)).map Prod.fst

/-- In a known dialect the spans of a row are its places. -/
theorem spansIn_eq_places {row : SiteRow} (hrow : row ∈ siteRows) (source : Source)
    {dialect : String} (hdialect : knownDialects.contains dialect = true) (tree : Tree) :
    row.spansIn source dialect tree = row.places source tree := by
  rw [spansIn, sites_ofSource hrow rfl hdialect, map_fst_readOff]
  rfl

end SiteRow

/-- Imports are numbered in their order. -/
theorem map_order_imports (source : Source) :
    (imports source).map ImportSite.order = List.range (imports source).length := by
  unfold imports
  generalize (((namedCursors source).filter (·.kind == "import_statement")).filterMap
    fun cursor => importAt? source cursor.node) = sites
  rw [List.map_map, List.length_map, List.length_zipIdx, List.range_eq_range', ← List.zipIdx_map_snd]
  rfl

/-- In a parsed tree, whatever fields or children are missing, functions, calls, imports, loops,
conditions, conditional expressions, try, throw and return statements and spread elements are those
of the named nodes of their kinds, one for one and in pre-order. A node in the place of another one,
filling the same field, leaves all such sites in front of it and behind it at their places. And in
every list of the model the places that a named node gives hang on the node and the text alone. -/
theorem model_sites (source : Source) (tree : Tree) (dialect : String)
    (htree : source.tree = some tree) (hdialect : knownDialects.contains dialect = true) :
    (∀ row ∈ siteRows,
      row.sites (Model.ofSource source dialect) =
        (tree.walk.filter fun node => node.label.named && row.gives node).map fun node =>
          (source.span node, row.textAt source node)) ∧
    (Model.ofSource source dialect).imports.map ImportSite.order =
      List.range (Model.ofSource source dialect).imports.length ∧
    (∀ row ∈ siteRows, ∀ old new tree' : Tree, Tree.Replaces old new tree tree' →
      new.label.field = old.label.field →
        ∃ before after,
          row.spansIn source dialect tree = before ++ row.spansIn source dialect old ++ after ∧
          row.spansIn source dialect tree' = before ++ row.spansIn source dialect new ++ after) ∧
    (Model.ofSource source dialect).siteSpans =
      placeReaders.map fun reads =>
        (tree.walk.filter (·.label.named)).flatMap (reads source.bare) := by
  refine ⟨fun row hrow => SiteRow.sites_ofSource hrow htree hdialect, ?_, ?_, ?_⟩
  · rw [Model.ofSource, htree, hdialect]
    exact map_order_imports source
  · intro row hrow old new tree' hreplaces hfield
    simp only [SiteRow.spansIn_eq_places hrow source hdialect]
    exact SiteRow.places_replaced hrow source hreplaces hfield
  · rw [siteSpans_ofSource htree hdialect]
    refine List.map_congr_left fun reads hreads => ?_
    rw [reads_bare hreads]

/-- The expression `new A`, perhaps without its parts. -/
def newNode (parts : List Tree) : Tree :=
  .node (.inRow 4 "new_expression" "" true 2 7) parts

/-- A call with `argument` for its argument, and a throw statement on the next line. -/
def throwingTree (argument : Tree) : Tree :=
  .node ⟨0, "program", "", true, 0, 16, ⟨0, 0⟩, ⟨1, 7⟩⟩
    ([] ++ .node (.inRow 1 "call_expression" "" true 0 8)
      ([.node (.inRow 2 "identifier" "function" true 0 1) []] ++
        .node (.inRow 3 "arguments" "arguments" true 1 8) ([] ++ argument :: []) :: []) ::
      [.node ⟨6, "throw_statement", "", true, 9, 16, ⟨1, 0⟩, ⟨1, 7⟩⟩
        [.node ⟨7, "identifier", "", true, 15, 16, ⟨1, 6⟩, ⟨1, 7⟩⟩ []]])

/-- The text of `throwingTree`, parsed without a mistake. -/
def throwingSource : Source where
  text := "f(new A)\nthrow x"
  tree := some (throwingTree (newNode [.node (.inRow 5 "identifier" "constructor" true 6 7) []]))

/-- Without its parts the inner expression gives no call any more; the call around it and the
statement behind it keep their sites. -/
theorem model_sites_broken :
    Tree.Replaces (newNode [.node (.inRow 5 "identifier" "constructor" true 6 7) []]) (newNode [])
      (throwingTree (newNode [.node (.inRow 5 "identifier" "constructor" true 6 7) []]))
      (throwingTree (newNode [])) ∧
    (∀ row ∈ siteRows, ∃ before after,
      row.spansIn throwingSource "tsx" (throwingTree (newNode [])) =
        before ++ row.spansIn throwingSource "tsx" (newNode []) ++ after) ∧
    siteRows.map (fun row => row.spansIn throwingSource "tsx" (throwingTree
      (newNode [.node (.inRow 5 "identifier" "constructor" true 6 7) []]))) =
        [[], [⟨1, 0, 1, 8⟩, ⟨1, 2, 1, 7⟩], [], [], [⟨2, 0, 2, 7⟩], [], [], [], [], []] ∧
    siteRows.map (fun row => row.spansIn throwingSource "tsx" (throwingTree (newNode []))) =
        [[], [⟨1, 0, 1, 8⟩], [], [], [⟨2, 0, 2, 7⟩], [], [], [], [], []] := by
  have hreplaces : Tree.Replaces (newNode [.node (.inRow 5 "identifier" "constructor" true 6 7) []])
      (newNode []) (throwingTree (newNode [.node (.inRow 5 "identifier" "constructor" true 6 7) []]))
      (throwingTree (newNode [])) :=
    .inside _ _ _ (.inside _ _ _ (.inside _ _ _ .here))
  obtain ⟨-, -, hkept, -⟩ := model_sites throwingSource _ "tsx" rfl (by decide)
  refine ⟨hreplaces, fun row hrow => ?_, by decide +kernel, by decide +kernel⟩
  obtain ⟨before, after, -, hnew⟩ := hkept row hrow _ _ _ hreplaces rfl
  exact ⟨before, after, hnew⟩

end Extract

end ChangeLens
