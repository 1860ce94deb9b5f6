import ChangeLens.Analyzer.Types
import ChangeLens.Proofs.Selection
import ChangeLens.Proofs.SelfComparison
import ChangeLens.Text.Distance

/-!
# `ChangeLens.Proofs.LastDefinition`: which changes of type definitions are reported

A type name can have several definitions in one file: interfaces and enumerations are merged from all
their parts. `Model.definitions` lists the canonical texts of all of them, in the order of the file.
The comparison looks up one definition for each name and version, the last one. Where it is on one
side only or its texts differ, at least one record follows: no branch of the comparison of two
definitions is empty (`typeChanges_ne_nil`), nor is the report on names of one side
(`typeLeftovers_eq_nil`).

`compareTypes_ne_nil_iff` says that a record follows exactly if the last definition of some name
changed, so every change of a name that is defined once is reported. A change of an earlier part of
a merged definition is not (`earlierPart_lost`).
-/

set_option autoImplicit false

namespace ChangeLens

/-- The canonical texts of all definitions of a type name, in the order of the file. -/
def Model.definitions (model : Model) (name : String) : List String :=
  (model.types.filter fun site => site.name == name).map TypeSite.canonical

/-- The last definition of a name is the canonical text of the last type with this name. -/
theorem Model.getLast?_definitions (model : Model) (name : String) :
    (model.definitions name).getLast? =
      (lastWith? TypeSite.name name model.types).map TypeSite.canonical :=
  List.getLast?_map

namespace Analyzer

/-- Two definitions that are compared give a record, about a member or about the whole. -/
theorem typeChanges_ne_nil (target : Target) (base head : TypeSite) :
    typeChanges target base head ≠ [] := by
  simp only [typeChanges]
  split
  · exact List.cons_ne_nil _ _
  · assumption

/-- Every type on one side only gives a record. -/
theorem typeLeftovers_eq_nil {target : Target} {removed added : List TypeSite} :
    typeLeftovers target removed added = [] ↔ removed = [] ∧ added = [] := by
  unfold typeLeftovers
  split
  · simp
  · rw [List.append_eq_nil_iff, List.map_eq_nil_iff, List.map_eq_nil_iff]

/-- No type is on one side only as far as the last definitions go. -/
theorem filter_unmatched_eq_nil {sites others : List TypeSite} :
    ((lastOfEach TypeSite.name sites).filter fun site =>
        !(lastOfEach TypeSite.name others).any (·.name == site.name)) = [] ↔
      ∀ name, lastWith? TypeSite.name name others = none →
        lastWith? TypeSite.name name sites = none := by
  simp only [List.filter_eq_nil_iff, Bool.not_eq_true', any_lastOfEach_eq_false]
  constructor
  · intro hmatched name hnone
    cases hlast : lastWith? TypeSite.name name sites with
    | none => rfl
    | some site =>
      obtain ⟨-, rfl⟩ := lastWith?_eq_some hlast
      exact absurd hnone (hmatched site (mem_lastOfEach.2 hlast))
  · intro hnone site hsite hunmatched
    rw [mem_lastOfEach, hnone site.name hunmatched] at hsite
    cases hsite

/-- Nothing is reported about types exactly if the last definitions of each name agree. -/
theorem compareTypes_eq_nil {target : Target} {base head : Model} :
    compareTypes target base head = [] ↔
      ∀ name, (base.definitions name).getLast? = (head.definitions name).getLast? := by
  simp only [compareTypes, List.append_eq_nil_iff, List.flatMap_eq_nil_iff, find?_lastOfEach_eq,
    typeLeftovers_eq_nil, filter_unmatched_eq_nil, Model.getLast?_definitions]
  constructor
  · rintro ⟨hagree, hremoved, hadded⟩ name
    -- A name has a last definition on both sides or on neither.
    cases hbase : lastWith? TypeSite.name name base.types with
    | none => rw [hadded name hbase]
    | some b =>
      cases hhead : lastWith? TypeSite.name name head.types with
      | none =>
        rw [hremoved name hhead] at hbase
        cases hbase
      | some h =>
        obtain ⟨-, rfl⟩ := lastWith?_eq_some hbase
        have hsilent := hagree b (mem_lastOfEach.2 hbase)
        rw [hhead] at hsilent
        exact congrArg some (Decidable.byContradiction fun hdiffer =>
          typeChanges_ne_nil target b h ((if_neg hdiffer).symm.trans hsilent))
  · -- Each of the three parts follows from one name: a type of both versions, one that is gone, one
    -- that is new.
    intro hagree
    refine ⟨fun b hb => ?_, fun name hnone => ?_, fun name hnone => ?_⟩
    · split
      · rename_i h hhead
        have hsame := hagree b.name
        rw [mem_lastOfEach.1 hb, hhead] at hsame
        exact if_pos (Option.some.inj hsame)
      · rfl
    · have hsame := hagree name
      rw [hnone] at hsame
      exact Option.map_eq_none_iff.1 hsame
    · have hsame := hagree name
      rw [hnone] at hsame
      exact Option.map_eq_none_iff.1 hsame.symm

/-- A record about types follows exactly if the last definition of some name changed. So a name that
is defined at most once in each version cannot change unnoticed. -/
theorem compareTypes_ne_nil_iff (target : Target) (base head : Model) :
    (compareTypes target base head ≠ [] ↔
      ∃ name, (base.definitions name).getLast? ≠ (head.definitions name).getLast?) ∧
    ∀ name, (base.definitions name).length ≤ 1 → (head.definitions name).length ≤ 1 →
      base.definitions name ≠ head.definitions name → compareTypes target base head ≠ [] := by
  have hiff : compareTypes target base head ≠ [] ↔
      ∃ name, (base.definitions name).getLast? ≠ (head.definitions name).getLast? := by
    rw [ne_eq, compareTypes_eq_nil, not_forall]
  -- A list of at most one text is known by its last one.
  have hknown (texts : List String) (hlength : texts.length ≤ 1) : texts.getLast?.toList = texts := by
    match texts, hlength with
    | [], _ => rfl
    | [_], _ => rfl
  refine ⟨hiff, fun name hbase hhead hdiffer => hiff.2 ⟨name, fun hlast => hdiffer ?_⟩⟩
  rw [← hknown _ hbase, ← hknown _ hhead, hlast]

/-- The second part of the interface of `mergedSource` alone. -/
def secondPartSource : Source :=
  .ofRows "interface A \x7b b \x7d"
    [⟨"program", "", true, 0, 17, 1⟩, ⟨"interface_declaration", "", true, 0, 17, 3⟩,
     ⟨"interface", "", false, 0, 9, 0⟩, ⟨"type_identifier", "name", true, 10, 11, 0⟩,
     ⟨"interface_body", "body", true, 12, 17, 3⟩, ⟨"\x7b", "", false, 12, 13, 0⟩,
     ⟨"property_signature", "", true, 14, 15, 1⟩, ⟨"property_identifier", "name", true, 14, 15, 0⟩,
     ⟨"\x7d", "", false, 16, 17, 0⟩]

/-- The first part of an interface is taken away and nothing is reported. -/
theorem earlierPart_lost :
    (Model.ofSource mergedSource (dialectForPath "a.ts")).definitions "A" ≠
        (Model.ofSource secondPartSource (dialectForPath "a.ts")).definitions "A" ∧
      compareTypes ⟨"a.ts", {}, Text.similarity⟩ (Model.ofSource mergedSource (dialectForPath "a.ts"))
        (Model.ofSource secondPartSource (dialectForPath "a.ts")) = [] := by
  constructor
  · intro hsame
    exact absurd (congrArg List.length hsame) (by decide)
  · decide +kernel

end Analyzer

end ChangeLens
