import ChangeLens.Analyzer.Modules
import ChangeLens.Extract
import ChangeLens.Proofs.Selection
import ChangeLens.Proofs.Walks
import ChangeLens.Text.Distance
import Mathlib.Data.List.Flatten

/-!
# `ChangeLens.Proofs.ExportedTypes`: where the types of exported variables come from

The comparison of exports takes the type of an exported variable from a table of all variables of
the file, by name alone. `Extract.exportedVariables` lists the variables that export statements
themselves declare, each with its export, and `Extract.ownType?` is the type written there;
`Extract.typeOf?` is what the table answers: the type of the last variable of the name, in whatever
scope it stands.

Two versions that export the same (`SameExports`) can differ in these types alone, and
`compareExports_sameExports` says what is reported about them: one record for each export of a
variable whose entry in the table changed. Where the table answers for each exported variable with
its own type (`FindsOwnTypes`), and so wherever no variable of the same name has another type
(`findsOwnTypes_of_unshadowed`), that is one record for each exported variable whose own type
changed. A variable of the same name in some later block decides otherwise
(`shadowing_decides`).
-/

set_option autoImplicit false

namespace ChangeLens

/-! ### Exported variables -/

namespace Extract

/-- The variables that a declaration binds as plain identifiers. -/
def variablesAt (source : Source) (declaration : Tree) : List VariableSite :=
  if declaration.kind == "lexical_declaration" || declaration.kind == "variable_declaration" then
    (declaration.parts.filter (·.kind == "variable_declarator")).filterMap
      (variableOf? source declaration)
  else []

/-- The variables that the export statement at a node declares, each with its export. -/
def exportedAt (source : Source) (node : Tree) : List (ExportSite × VariableSite) :=
  ((node.field? "declaration").elim [] (variablesAt source)).map fun binding =>
    (⟨binding.name, .variableExport, source.span node, node.hasChild "default"⟩, binding)

/-- The variables that export statements declare, each with its export. -/
def exportedVariables (source : Source) : List (ExportSite × VariableSite) :=
  ((namedCursors source).filter (·.kind == "export_statement")).flatMap fun cursor =>
    exportedAt source cursor.node

/-- The type that the export statement of a variable gives it. -/
def ownType? (source : Source) (name : String) : Option String :=
  ((exportedVariables source).find? (·.1.name == name)).map (·.2.typeText)

/-- The type of the last variable of a name, whatever scope it stands in. -/
def typeOf? (source : Source) (name : String) : Option String :=
  (lastWith? VariableSite.name name (variableSites source)).map (·.typeText)

/-- The last variable of the name of an exported variable has the type of that one. -/
def FindsOwnTypes (source : Source) : Prop :=
  ∀ pair ∈ exportedVariables source, typeOf? source pair.1.name = some pair.2.typeText

/-- Every variable of the name of an exported variable has the type of that one, and the
declarations of export statements are rules of the grammar. -/
structure Unshadowed (source : Source) : Prop where
  types : ∀ pair ∈ exportedVariables source, ∀ binding ∈ variableSites source,
    binding.name = pair.1.name → binding.typeText = pair.2.typeText
  named : ∀ cursor ∈ source.cursors, cursor.kind = "export_statement" →
    ∀ declaration, cursor.node.field? "declaration" = some declaration →
      declaration.label.named = true

section

variable {source : Source}

/-- The variables of a source are those declared at its named nodes. -/
theorem variableSites_eq_flatMap (source : Source) :
    variableSites source =
      (namedCursors source).flatMap fun cursor => variablesAt source cursor.node := by
  rw [variableSites, declared, List.filterMap_flatMap]
  refine List.flatMap_congr fun cursor _ => ?_
  rw [variablesAt, Cursor.kind]
  split
  · rw [List.filterMap_map]
    rfl
  · rfl

/-- An export statement that declares variables exports exactly these. -/
theorem exportedDeclaration_eq_map {span : Span} {isDefault : Bool} {declaration : Tree}
    (hkind : (declaration.kind == "lexical_declaration" ||
      declaration.kind == "variable_declaration") = true) :
    exportedDeclaration source span isDefault declaration =
      (variablesAt source declaration).map fun binding =>
        ⟨binding.name, .variableExport, span, isDefault⟩ := by
  rw [exportedDeclaration, variablesAt, if_pos hkind, if_pos hkind, List.filterMap_filter,
    List.map_filterMap]
  refine List.filterMap_congr fun declarator _ => ?_
  rw [Source.declaredName?, variableOf?]
  split
  · cases declarator.field? "name" with
    | none => rfl
    | some name =>
      dsimp only [Option.bind_some]
      split <;> rfl
  · rfl

/-- Variables declared by an export statement are exported by it. -/
theorem map_fst_exportedAt_sublist (source : Source) (node : Tree) :
    ((exportedAt source node).map Prod.fst).Sublist (exportsAt source node) := by
  rw [exportedAt, exportsAt, List.map_map]
  cases node.field? "declaration" with
  | none => exact List.nil_sublist _
  | some declaration =>
    by_cases hkind : (declaration.kind == "lexical_declaration" ||
        declaration.kind == "variable_declaration") = true
    · dsimp only
      rw [exportedDeclaration_eq_map hkind]
      exact List.Sublist.refl _
    · rw [Option.elim_some, variablesAt, if_neg hkind]
      exact List.nil_sublist _

/-- The exported variables are some of the exports, in their order. -/
theorem map_fst_exportedVariables_sublist (source : Source) :
    ((exportedVariables source).map Prod.fst).Sublist (exports source) := by
  rw [exportedVariables, exports, List.map_flatMap]
  exact List.Sublist.flatMap_right _ fun cursor _ => map_fst_exportedAt_sublist source cursor.node

/-- An exported variable is exported as a variable. -/
theorem kind_of_mem_exportedVariables {pair : ExportSite × VariableSite}
    (h : pair ∈ exportedVariables source) : pair.1.kind = .variableExport := by
  obtain ⟨cursor, -, hpair⟩ := List.mem_flatMap.1 h
  obtain ⟨binding, -, rfl⟩ := List.mem_map.1 hpair
  rfl

/-- An exported variable and its declarator have the same name. -/
theorem name_of_mem_exportedVariables {pair : ExportSite × VariableSite}
    (h : pair ∈ exportedVariables source) : pair.2.name = pair.1.name := by
  obtain ⟨cursor, -, hpair⟩ := List.mem_flatMap.1 h
  obtain ⟨binding, -, rfl⟩ := List.mem_map.1 hpair
  rfl

/-- The variables of named declarations in export statements are among those of the file. -/
theorem mem_variableSites_of_mem_exportedVariables (hsource : Unshadowed source)
    {pair : ExportSite × VariableSite} (h : pair ∈ exportedVariables source) :
    pair.2 ∈ variableSites source := by
  obtain ⟨cursor, hcursor, hpair⟩ := List.mem_flatMap.1 h
  obtain ⟨hcursor, hkind⟩ := List.mem_filter.1 hcursor
  have hvisited : cursor ∈ source.cursors := (List.mem_filter.1 hcursor).1
  obtain ⟨binding, hbinding, rfl⟩ := List.mem_map.1 hpair
  cases hfield : cursor.node.field? "declaration" with
  | none => rw [hfield] at hbinding; cases hbinding
  | some declaration =>
    rw [hfield] at hbinding
    have hchild : declaration ∈ cursor.node.children := List.mem_of_find?_eq_some hfield
    have hnamed := hsource.named cursor hvisited (eq_of_beq hkind) declaration hfield
    -- The walk goes on from the statement to its declaration and lists its variables there again.
    rw [variableSites_eq_flatMap, List.mem_flatMap]
    exact ⟨cursor.down declaration,
      List.mem_filter.2 ⟨Source.down_mem_cursors hvisited hchild, hnamed⟩, hbinding⟩

/-- Without a namesake of another type, the last variable of the name has the type of the exported
one. -/
theorem findsOwnTypes_of_unshadowed (hsource : Unshadowed source) : FindsOwnTypes source := by
  intro pair hpair
  have hmem := mem_variableSites_of_mem_exportedVariables hsource hpair
  obtain ⟨last, hlast⟩ := exists_lastWith? VariableSite.name hmem
  rw [name_of_mem_exportedVariables hpair] at hlast
  -- The last variable need not be the exported one, but it shares the name and so the type.
  obtain ⟨hsite, hname⟩ := lastWith?_eq_some hlast
  rw [typeOf?, hlast, Option.map_some, hsource.types pair hpair last hsite hname]

/-- Exports of distinct names know their variables by name. -/
theorem ownType?_of_mem (hdistinct : ((exports source).map ExportSite.name).Nodup)
    {pair : ExportSite × VariableSite} (h : pair ∈ exportedVariables source) :
    ownType? source pair.1.name = some pair.2.typeText := by
  have hnodup : ((exportedVariables source).map fun pair => pair.1.name).Nodup := by
    have hsub := (map_fst_exportedVariables_sublist source).map ExportSite.name
    rw [List.map_map] at hsub
    exact hsub.nodup hdistinct
  cases hfind : (exportedVariables source).find? (·.1.name == pair.1.name) with
  | none => simpa using List.find?_eq_none.1 hfind pair h
  | some other =>
    have hname : other.1.name = pair.1.name := by simpa using List.find?_some hfind
    have hsame : other = pair :=
      List.inj_on_of_nodup_map hnodup (List.mem_of_find?_eq_some hfind) h hname
    rw [ownType?, hfind, hsame, Option.map_some]

/-- A type that an export statement gives to a name is that of a variable it declares. -/
theorem exists_of_ownType? {name type : String} (h : ownType? source name = some type) :
    ∃ pair ∈ exportedVariables source, pair.1.name = name ∧ pair.2.typeText = type := by
  obtain ⟨pair, hfind, htype⟩ := Option.map_eq_some_iff.1 h
  have hname : pair.1.name = name := by simpa using List.find?_some hfind
  exact ⟨pair, List.mem_of_find?_eq_some hfind, hname, htype⟩

end

end Extract

/-! ### Versions that export the same -/

/-- An export without its place. -/
def ExportSite.signature (site : ExportSite) : String × ExportKind × Bool :=
  (site.name, site.kind, site.isDefault)

/-- Both versions export the same names as the same kinds, each name once. -/
structure SameExports (before after : List ExportSite) : Prop where
  signatures : (before.map ExportSite.signature).Perm (after.map ExportSite.signature)
  distinct : (after.map ExportSite.name).Nodup

namespace SameExports

variable {before after : List ExportSite}

/-- Versions that export the same export the same names. -/
theorem names (same : SameExports before after) :
    (before.map ExportSite.name).Perm (after.map ExportSite.name) := by
  have hnames := same.signatures.map Prod.fst
  rwa [List.map_map, List.map_map] at hnames

/-- The names are distinct before the edit, too, because they are distinct after it. -/
theorem distinct_before (same : SameExports before after) : (before.map ExportSite.name).Nodup :=
  same.names.nodup_iff.2 same.distinct

/-- An export of the later version is found in the earlier one by its name. -/
theorem exists_find? (same : SameExports before after) {site : ExportSite} (h : site ∈ after) :
    ∃ old, before.find? (·.name == site.name) = some old ∧ old.signature = site.signature := by
  have hmem : site.signature ∈ before.map ExportSite.signature :=
    same.signatures.mem_iff.2 (List.mem_map.2 ⟨site, h, rfl⟩)
  obtain ⟨old, hold, hsignature⟩ := List.mem_map.1 hmem
  have hname : old.name = site.name := congrArg Prod.fst hsignature
  have hfind := find?_firstOfEach ((firstOfEach_of_nodup same.distinct_before).symm ▸ hold)
  rw [firstOfEach_of_nodup same.distinct_before, hname] at hfind
  exact ⟨old, hfind, hsignature⟩

end SameExports

namespace Analyzer

/-- What is reported about an export of a variable by its types in both versions. -/
def typeChange? (target : Target) (site : ExportSite) (before after : Option String) :
    Option Record :=
  match before, after with
  | some old, some new =>
    if old = new then none
    else some (exportRecord target .exportSignatureChanged .medium site
      s!"Export signature changed: {site.name} ({arrow old new})" none)
  | _, _ => none

/-- A type that has not changed is not reported. -/
theorem typeChange?_self (target : Target) (site : ExportSite) (type : Option String) :
    typeChange? target site type type = none := by
  cases type with
  | none => rfl
  | some text => exact if_pos rfl

/-- Only the types of a variable count for an export that is otherwise the same. -/
theorem exportChanges_of_signature_eq {target : Target} {base head : Model}
    {old site : ExportSite} (h : old.signature = site.signature) :
    exportChanges target base head old site =
      (if site.kind = .variableExport then
        typeChange? target site (variableType? base site.name) (variableType? head site.name)
      else none).toList := by
  have hkind : old.kind = site.kind := congrArg (·.2.1) h
  have hdefault : old.isDefault = site.isDefault := congrArg (·.2.2) h
  rw [exportChanges, if_neg (by simp [hkind, hdefault])]
  split
  · cases variableType? base site.name with
    | none => rfl
    | some oldType =>
      cases variableType? head site.name with
      | none => rfl
      | some newType =>
        dsimp only [typeChange?]
        split <;> rfl
  · rfl

/-- Versions that export the same differ in the types of exported variables only. -/
theorem compareExports_eq_filterMap {target : Target} {base head : Model}
    (same : SameExports base.exports head.exports) :
    compareExports target base head = head.exports.filterMap fun site =>
      if site.kind = .variableExport then
        typeChange? target site (variableType? base site.name) (variableType? head site.name)
      else none := by
  have hgone : (base.exports.filter fun site => !head.exports.any (·.name == site.name)) = [] := by
    rw [List.filter_eq_nil_iff]
    intro site hsite
    have hname : site.name ∈ head.exports.map ExportSite.name :=
      same.names.mem_iff.1 (List.mem_map.2 ⟨site, hsite, rfl⟩)
    simpa using hname
  rw [compareExports, firstOfEach_of_nodup same.distinct, firstOfEach_of_nodup same.distinct_before,
    hgone, List.map_nil, List.append_nil, List.filterMap_eq_flatMap_toList]
  refine List.flatMap_congr fun site hsite => ?_
  obtain ⟨old, hfind, hsignature⟩ := same.exists_find? hsite
  rw [hfind]
  exact exportChanges_of_signature_eq hsignature

/-! ### The table of types -/

/-- The dialect of any path is known, so every source is read. -/
theorem knownDialects_contains_dialectForPath (path : String) :
    knownDialects.contains (dialectForPath path) = true := by
  rw [dialectForPath]
  split <;> rfl

/-- The exports of a model are those read from its source. -/
theorem exports_ofSource (source : Source) (path : String) :
    (Model.ofSource source (dialectForPath path)).exports = Extract.exports source := by
  rw [Model.ofSource, knownDialects_contains_dialectForPath, Bool.and_true]
  cases htree : source.tree with
  | none => simp [Extract.exports, Extract.namedCursors, Source.cursors, htree]
  | some tree => rfl

/-- The type that is compared is that of the last variable of the name. -/
theorem variableType?_ofSource (source : Source) (path name : String) :
    variableType? (Model.ofSource source (dialectForPath path)) name =
      Extract.typeOf? source name := by
  rw [Model.ofSource, knownDialects_contains_dialectForPath, Bool.and_true]
  cases htree : source.tree with
  | none =>
    simp [variableType?, Extract.typeOf?, Extract.variableSites, Extract.declared,
      Extract.namedCursors, Source.cursors, htree, lastWith?]
  | some tree => rfl

/-- Exports of variables that are not declared by their export statements in both versions keep the
types that their names have in the table. -/
def OthersKept (base head : Source) : Prop :=
  ∀ site ∈ Extract.exports head, site.kind = .variableExport →
    Extract.ownType? base site.name = none ∨ Extract.ownType? head site.name = none →
    Extract.typeOf? base site.name = Extract.typeOf? head site.name

/-- What maps to nothing outside a sublist maps as the sublist does. -/
theorem filterMap_eq_of_sublist {α β : Type} {f : α → Option β} {part whole : List α}
    (hsub : part.Sublist whole) (hnodup : whole.Nodup)
    (hnone : ∀ a ∈ whole, a ∉ part → f a = none) : whole.filterMap f = part.filterMap f := by
  induction hsub with
  | slnil => rfl
  | cons a hsub ih =>
    obtain ⟨hfresh, hnodup⟩ := List.nodup_cons.1 hnodup
    -- An item that only the longer list has is not in the rest either, as nothing occurs twice.
    have ha : f a = none := hnone a List.mem_cons_self fun hmem => hfresh (hsub.subset hmem)
    rw [List.filterMap_cons_none ha]
    exact ih hnodup fun b hb => hnone b (List.mem_cons_of_mem a hb)
  | cons_cons a hsub ih =>
    obtain ⟨hfresh, hnodup⟩ := List.nodup_cons.1 hnodup
    rw [List.filterMap_cons, List.filterMap_cons, ih hnodup]
    intro b hb hmissing
    refine hnone b (List.mem_cons_of_mem a hb) fun hmem => ?_
    obtain rfl | hmem := List.mem_cons.1 hmem
    · exact hfresh hb
    · exact hmissing hmem

section

variable {target : Target} {base head : Source}

/-- The table of types decides what is reported. -/
theorem compareExports_ofSource
    (same : SameExports (Extract.exports base) (Extract.exports head)) :
    compareExports target (Model.ofSource base (dialectForPath target.path))
        (Model.ofSource head (dialectForPath target.path)) =
      (Extract.exports head).filterMap fun site =>
        if site.kind = .variableExport then
          typeChange? target site (Extract.typeOf? base site.name) (Extract.typeOf? head site.name)
        else none := by
  rw [← exports_ofSource base target.path, ← exports_ofSource head target.path] at same
  rw [compareExports_eq_filterMap same, exports_ofSource]
  simp only [variableType?_ofSource]

/-- An exported variable is compared by its own types where the table has these. -/
theorem typeChange?_of_exported (hbase : Extract.FindsOwnTypes base)
    (hhead : Extract.FindsOwnTypes head) (hothers : OthersKept base head)
    {pair : ExportSite × VariableSite} (hpair : pair ∈ Extract.exportedVariables head) :
    typeChange? target pair.1 (Extract.typeOf? base pair.1.name)
        (Extract.typeOf? head pair.1.name) =
      typeChange? target pair.1 (Extract.ownType? base pair.1.name) (some pair.2.typeText) := by
  cases hown : Extract.ownType? base pair.1.name with
  | none =>
    -- The earlier version exports the name in another way.
    have hsite : pair.1 ∈ Extract.exports head :=
      (Extract.map_fst_exportedVariables_sublist head).subset (List.mem_map.2 ⟨pair, hpair, rfl⟩)
    have hkind := Extract.kind_of_mem_exportedVariables hpair
    rw [hothers pair.1 hsite hkind (.inl hown), typeChange?_self]
    rfl
  | some old =>
    obtain ⟨earlier, hearlier, hname, rfl⟩ := Extract.exists_of_ownType? hown
    rw [hhead pair hpair, ← hname, hbase earlier hearlier]

/-- An export that its statement does not declare has no type of its own. -/
theorem ownType?_eq_none (hdistinct : ((Extract.exports head).map ExportSite.name).Nodup)
    {site : ExportSite} (hsite : site ∈ Extract.exports head)
    (hmissing : site ∉ (Extract.exportedVariables head).map Prod.fst) :
    Extract.ownType? head site.name = none := by
  cases hown : Extract.ownType? head site.name with
  | none => rfl
  | some type =>
    obtain ⟨pair, hpair, hname, -⟩ := Extract.exists_of_ownType? hown
    have hdeclared : pair.1 ∈ (Extract.exportedVariables head).map Prod.fst :=
      List.mem_map.2 ⟨pair, hpair, rfl⟩
    have hexport := (Extract.map_fst_exportedVariables_sublist head).subset hdeclared
    rw [List.inj_on_of_nodup_map hdistinct hexport hsite hname] at hdeclared
    exact absurd hdeclared hmissing

end

/-- Of two versions that export the same, the variables whose entry in the table of types changed
are reported, each once. Where the table has the own types of exported variables, these are the ones
whose own type changed; a table is right about all exported variables that share their names only
with variables of the same type. -/
theorem compareExports_sameExports (target : Target) (base head : Source)
    (same : SameExports (Extract.exports base) (Extract.exports head)) :
    (compareExports target (Model.ofSource base (dialectForPath target.path))
        (Model.ofSource head (dialectForPath target.path)) =
      (Extract.exports head).filterMap fun site =>
        if site.kind = .variableExport then
          typeChange? target site (Extract.typeOf? base site.name) (Extract.typeOf? head site.name)
        else none) ∧
    (Extract.FindsOwnTypes base → Extract.FindsOwnTypes head → OthersKept base head →
      compareExports target (Model.ofSource base (dialectForPath target.path))
          (Model.ofSource head (dialectForPath target.path)) =
        (Extract.exportedVariables head).filterMap fun pair =>
          typeChange? target pair.1 (Extract.ownType? base pair.1.name) (some pair.2.typeText)) ∧
    ∀ source ∈ [base, head],
      (∀ pair ∈ Extract.exportedVariables source,
        pair.1 ∈ Extract.exports source ∧ pair.1.kind = .variableExport ∧
          Extract.ownType? source pair.1.name = some pair.2.typeText) ∧
      (Extract.Unshadowed source → Extract.FindsOwnTypes source) := by
  refine ⟨compareExports_ofSource same, fun hbase hhead hothers => ?_, fun source hsource => ?_⟩
  · -- Exports that are no variables contribute nothing, so the sum runs over the exported
    -- variables.
    rw [compareExports_ofSource same,
      filterMap_eq_of_sublist (Extract.map_fst_exportedVariables_sublist head) same.distinct.of_map,
      List.filterMap_map]
    · refine List.filterMap_congr fun pair hpair => ?_
      rw [Function.comp_apply, if_pos (Extract.kind_of_mem_exportedVariables hpair)]
      exact typeChange?_of_exported hbase hhead hothers hpair
    · intro site hsite hmissing
      split
      · rename_i hkind
        -- A variable exported by name has no declarator of its own in the statement.
        have hown := ownType?_eq_none same.distinct hsite hmissing
        rw [hothers site hsite hkind (.inr hown), typeChange?_self]
      · rfl
  · have hdistinct : ((Extract.exports source).map ExportSite.name).Nodup := by
      obtain rfl | hsource := List.mem_cons.1 hsource
      · exact same.distinct_before
      · exact List.mem_singleton.1 hsource ▸ same.distinct
    refine ⟨fun pair hpair => ⟨?_, Extract.kind_of_mem_exportedVariables hpair,
      Extract.ownType?_of_mem hdistinct hpair⟩, Extract.findsOwnTypes_of_unshadowed⟩
    exact (Extract.map_fst_exportedVariables_sublist source).subset
      (List.mem_map.2 ⟨pair, hpair, rfl⟩)

/-- The source `export const a:A=1;{let b:B=2}` with the type `exported` of one letter for `A`, and
the one-letter name `name` and type `type` for `b` and `B`. -/
def blockSource (exported name type : String) : Source :=
  .ofRows ("export const a:" ++ exported ++ "=1;\x7blet " ++ name ++ ":" ++ type ++ "=2\x7d")
    [⟨"program", "", true, 0, 30, 2⟩, ⟨"export_statement", "", true, 0, 19, 2⟩,
     ⟨"export", "", false, 0, 6, 0⟩, ⟨"lexical_declaration", "declaration", true, 7, 19, 3⟩,
     ⟨"const", "kind", false, 7, 12, 0⟩, ⟨"variable_declarator", "", true, 13, 18, 4⟩,
     ⟨"identifier", "name", true, 13, 14, 0⟩, ⟨"type_annotation", "type", true, 14, 16, 2⟩,
     ⟨":", "", false, 14, 15, 0⟩, ⟨"type_identifier", "", true, 15, 16, 0⟩,
     ⟨"=", "", false, 16, 17, 0⟩, ⟨"number", "value", true, 17, 18, 0⟩,
     ⟨";", "", false, 18, 19, 0⟩, ⟨"statement_block", "", true, 19, 30, 3⟩,
     ⟨"\x7b", "", false, 19, 20, 0⟩, ⟨"lexical_declaration", "", true, 20, 29, 2⟩,
     ⟨"let", "kind", false, 20, 23, 0⟩, ⟨"variable_declarator", "", true, 24, 29, 4⟩,
     ⟨"identifier", "name", true, 24, 25, 0⟩, ⟨"type_annotation", "type", true, 25, 27, 2⟩,
     ⟨":", "", false, 25, 26, 0⟩, ⟨"type_identifier", "", true, 26, 27, 0⟩,
     ⟨"=", "", false, 27, 28, 0⟩, ⟨"number", "value", true, 28, 29, 0⟩,
     ⟨"\x7d", "", false, 29, 30, 0⟩]

/-- A local variable of another name has no say: only the change of the exported type is
reported. -/
theorem compareExports_sameExports_block :
    SameExports (Extract.exports (blockSource "A" "b" "B"))
      (Extract.exports (blockSource "C" "b" "D")) ∧
    (compareExports ⟨"a.ts", {}, Text.similarity⟩
      (Model.ofSource (blockSource "A" "b" "B") (dialectForPath "a.ts"))
      (Model.ofSource (blockSource "C" "b" "D") (dialectForPath "a.ts"))).map Record.detail =
        ["Export signature changed: a (A -> C)"] := by
  have same : SameExports (Extract.exports (blockSource "A" "b" "B"))
      (Extract.exports (blockSource "C" "b" "D")) := ⟨by decide +kernel, by decide +kernel⟩
  have hbase : Extract.FindsOwnTypes (blockSource "A" "b" "B") := by
    unfold Extract.FindsOwnTypes
    decide +kernel
  have hhead : Extract.FindsOwnTypes (blockSource "C" "b" "D") := by
    unfold Extract.FindsOwnTypes
    decide +kernel
  have hothers : OthersKept (blockSource "A" "b" "B") (blockSource "C" "b" "D") := by
    unfold OthersKept
    decide +kernel
  -- The variable in the block has another name, so both tables find the declarators of the exports.
  obtain ⟨-, hown, -⟩ := compareExports_sameExports ⟨"a.ts", {}, Text.similarity⟩ _ _ same
  refine ⟨same, ?_⟩
  rw [hown hbase hhead hothers]
  decide +kernel

/-- A local variable of the same name in a later block decides about the exported one: a change of
its type is reported as a change of the export, and a change of the exported type goes unnoticed. -/
theorem shadowing_decides :
    (SameExports (Extract.exports (blockSource "A" "a" "B"))
        (Extract.exports (blockSource "A" "a" "C")) ∧
      Extract.ownType? (blockSource "A" "a" "B") "a" = some "A" ∧
      Extract.ownType? (blockSource "A" "a" "C") "a" = some "A" ∧
      (compareExports ⟨"a.ts", {}, Text.similarity⟩
        (Model.ofSource (blockSource "A" "a" "B") (dialectForPath "a.ts"))
        (Model.ofSource (blockSource "A" "a" "C") (dialectForPath "a.ts"))).map Record.detail =
          ["Export signature changed: a (B -> C)"]) ∧
    (SameExports (Extract.exports (blockSource "A" "a" "B"))
        (Extract.exports (blockSource "C" "a" "B")) ∧
      Extract.ownType? (blockSource "A" "a" "B") "a" = some "A" ∧
      Extract.ownType? (blockSource "C" "a" "B") "a" = some "C" ∧
      compareExports ⟨"a.ts", {}, Text.similarity⟩
        (Model.ofSource (blockSource "A" "a" "B") (dialectForPath "a.ts"))
        (Model.ofSource (blockSource "C" "a" "B") (dialectForPath "a.ts")) = []) := by
  refine ⟨⟨⟨?_, ?_⟩, ?_, ?_, ?_⟩, ⟨?_, ?_⟩, ?_, ?_, ?_⟩ <;> decide +kernel

end Analyzer

end ChangeLens
