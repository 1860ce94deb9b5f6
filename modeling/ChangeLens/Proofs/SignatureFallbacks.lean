import ChangeLens.Proofs.FunctionHeads
import ChangeLens.Text.Distance

/-!
# `ChangeLens.Proofs.SignatureFallbacks`: when the coarser checks of signatures stay silent

Three checks of parameter counts follow each other while no changed signature is found: by identity,
by name and by the text alone. Suppose that functions with one name have equally many parameters in
both versions (`NamesAgree`). Then the second check is silent. The first one is as far as identities
belong to names, which a bar in a name can spoil. The third one does not look at the tree at all: it
counts commas, also those in default values, and it reads heads in comments and string literals too.

`fallbacks_eq_nil_iff` says what is left: the checks are silent exactly if identities agree and the
commas of the heads read in the texts do. That is so where every head read in a text lists the
parameters of a function of the tree (`Model.HeadsListed`).
-/

set_option autoImplicit false

namespace ChangeLens

namespace Detect

open ChangeLens.Text

/-! ### Agreement of two versions -/

/-- Functions with one name have equally many parameters in both versions. -/
def NamesAgree (base head : Model) : Prop :=
  ∀ before ∈ base.namedFunctions, ∀ after ∈ head.namedFunctions,
    before.name = after.name → before.parameters.length = after.parameters.length

instance (base head : Model) : Decidable (NamesAgree base head) :=
  inferInstanceAs (Decidable (∀ before ∈ base.namedFunctions, ∀ after ∈ head.namedFunctions,
    before.name = after.name → before.parameters.length = after.parameters.length))

/-- Every function has as many parameters as the last function of the base version with its
identity. -/
def IdentitiesAgree (base head : Model) : Prop :=
  ∀ after ∈ head.namedFunctions, ∀ before,
    lastWith? FunctionSite.identity after.identity base.namedFunctions = some before →
      before.parameters.length = after.parameters.length

/-- Counted by commas, the first head of a name in the head version has as many parameters as the
last one in the base version. -/
def TextsAgree (base head : String) : Prop :=
  ∀ before after, HeadsOf base.toList before → HeadsOf head.toList after →
    ∀ name last first, lastWith? WrittenHead.title name before = some last →
      (after.find? fun head => head.title == name) = some first →
        parameterCount last.inside = parameterCount first.inside

/-- The check by the text is silent exactly if the heads read in both texts agree. -/
theorem byText_eq_nil_iff_textsAgree {target : Target} {base head : String} :
    byText target base head = [] ↔ TextsAgree base head := by
  -- The search finds the heads with the number of their parameters, in the order of the text.
  have hcounts {text : String} {heads : List WrittenHead} (h : HeadsOf text.toList heads) :
      parameterCounts text = heads.map WrittenHead.counted := findAll_of_headsOf h
  -- The last head before counts, because a later entry of the table replaces an earlier one; after,
  -- the first one is found.
  have hlast (name : String) (heads : List WrittenHead) :
      lastWith? Prod.fst name (heads.map WrittenHead.counted) =
        (lastWith? WrittenHead.title name heads).map WrittenHead.counted := by
    rw [lastWith?, List.filter_map, List.getLast?_map]
    rfl
  have hfirst (name : String) (heads : List WrittenHead) :
      ((heads.map WrittenHead.counted).find? fun head => head.1 == name) =
        (heads.find? fun head => head.title == name).map WrittenHead.counted := by
    rw [List.find?_map]
    rfl
  rw [byText_eq_nil]
  constructor
  · intro hagree before after hbefore hafter name last first hl hf
    rw [hcounts hbefore, hcounts hafter] at hagree
    have hequal := hagree name first.counted last.counted (by rw [hfirst, hf]; rfl)
      (by rw [hlast, hl]; rfl)
    exact hequal.symm
  · intro hagree name first last hf hl
    obtain ⟨before, hbefore⟩ := exists_headsOf base.toList
    obtain ⟨after, hafter⟩ := exists_headsOf head.toList
    rw [hcounts hafter, hfirst] at hf
    rw [hcounts hbefore, hlast] at hl
    obtain ⟨first, hfound, rfl⟩ := Option.map_eq_some_iff.1 hf
    obtain ⟨last, hlooked, rfl⟩ := Option.map_eq_some_iff.1 hl
    exact (hagree before after hbefore hafter name last first hlooked hfound).symm

/-- Where the names agree, the look-up by name finds nothing. -/
theorem NamesAgree.byName_eq_nil {base head : Model} (h : NamesAgree base head) (target : Target) :
    byName target base head = [] := by
  rw [byName, countChanges_eq_nil]
  intro after hafter before hbefore
  obtain ⟨hmem, hname⟩ := lastWith?_eq_some hbefore
  exact h before hmem after hafter hname

end Detect

/-! ### Identities -/

/-- The identity of a function is made of its name and of what stands around it. -/
theorem Model.exists_identity_eq {source : Source} {dialect : String} {site : FunctionSite}
    (h : site ∈ (Model.ofSource source dialect).functions) :
    ∃ context modifiers, site.identity = Extract.identityText site.name context modifiers := by
  unfold Model.ofSource at h
  split at h
  · obtain ⟨cursor, -, rfl⟩ := List.mem_map.1 h
    exact ⟨_, _, rfl⟩
  · cases h

namespace Extract

/-- A name without bars is read off the front of the identity. -/
theorem takeWhile_identityText {name : String} (h : '|' ∉ name.toList) (context : FunctionContext)
    (modifiers : Modifiers) :
    (identityText name context modifiers).toList.takeWhile (· != '|') = name.toList := by
  unfold identityText
  simp only [String.toList_append, List.append_assoc]
  exact Text.takeWhile_ne_append h _

/-- Names without a bar can be read off the identities. -/
theorem name_eq_of_identityText_eq {name other : String} {context otherContext : FunctionContext}
    {modifiers otherModifiers : Modifiers} (hname : '|' ∉ name.toList) (hother : '|' ∉ other.toList)
    (h : identityText name context modifiers = identityText other otherContext otherModifiers) :
    name = other := by
  have hchars : name.toList = other.toList := by
    rw [← takeWhile_identityText hname context modifiers, h, takeWhile_identityText hother]
  exact String.toList_inj.1 hchars

end Extract

namespace Detect

/-- Where names agree and none holds a bar, identities agree too. -/
theorem NamesAgree.identitiesAgree {base head : Source} {dialect : String}
    (h : NamesAgree (Model.ofSource base dialect) (Model.ofSource head dialect))
    (hbase : ∀ site ∈ (Model.ofSource base dialect).namedFunctions, '|' ∉ site.name.toList)
    (hhead : ∀ site ∈ (Model.ofSource head dialect).namedFunctions, '|' ∉ site.name.toList) :
    IdentitiesAgree (Model.ofSource base dialect) (Model.ofSource head dialect) := by
  intro after hafter before hbefore
  obtain ⟨hmem, hidentity⟩ := lastWith?_eq_some hbefore
  refine h before hmem after hafter ?_
  obtain ⟨context, modifiers, hfirst⟩ := Model.exists_identity_eq (List.mem_filter.1 hmem).1
  obtain ⟨context', modifiers', hsecond⟩ := Model.exists_identity_eq (List.mem_filter.1 hafter).1
  rw [hfirst, hsecond] at hidentity
  exact Extract.name_eq_of_identityText_eq (hbase before hmem) (hhead after hafter) hidentity

end Detect

/-- Every head read in the text belongs to a function of the tree, whose parameters it lists. -/
def Model.HeadsListed (model : Model) : Prop :=
  ∀ heads, Detect.HeadsOf model.text.toList heads → ∀ head ∈ heads,
    ∃ site ∈ model.namedFunctions,
      site.name = head.title ∧ Detect.Lists head.inside site.parameters.length

namespace Detect

open ChangeLens.Text

/-- Where names agree and every head lists the parameters of its function, the texts agree. -/
theorem NamesAgree.textsAgree {base head : Model} (h : NamesAgree base head)
    (hbase : base.HeadsListed) (hhead : head.HeadsListed) : TextsAgree base.text head.text := by
  intro before after hbefore hafter name last first hlast hfirst
  obtain ⟨hmem, hname⟩ := lastWith?_eq_some hlast
  obtain ⟨old, hold, holdName, holdListed⟩ := hbase before hbefore last hmem
  obtain ⟨new, hnew, hnewName, hnewListed⟩ :=
    hhead after hafter first (List.mem_of_find?_eq_some hfirst)
  have hsame : first.title = name := by simpa using List.find?_some hfirst
  -- Both heads list the parameters of functions that share their name.
  rw [parameterCount_of_lists holdListed, parameterCount_of_lists hnewListed]
  exact h old hold new hnew (by rw [holdName, hnewName, hname, hsame])

/-- Where functions with one name have equally many parameters and no changed signature was found,
the coarser checks stay silent exactly if identities agree and the texts do. Identities do when no
name holds a bar, and the texts do when every head written in them lists the parameters of a function
of that name. -/
theorem fallbacks_eq_nil_iff (target : Target) (dialect : String) (base head : Source)
    {found : List Record} (hfound : hasSignatureChange found = false)
    (hnames : NamesAgree (Model.ofSource base dialect) (Model.ofSource head dialect)) :
    (fallbacks target (Model.ofSource base dialect) (Model.ofSource head dialect) found = [] ↔
      IdentitiesAgree (Model.ofSource base dialect) (Model.ofSource head dialect) ∧
        TextsAgree base.text head.text) ∧
    ((∀ site ∈ (Model.ofSource base dialect).namedFunctions, '|' ∉ site.name.toList) →
      (∀ site ∈ (Model.ofSource head dialect).namedFunctions, '|' ∉ site.name.toList) →
        IdentitiesAgree (Model.ofSource base dialect) (Model.ofSource head dialect)) ∧
    ((Model.ofSource base dialect).HeadsListed → (Model.ofSource head dialect).HeadsListed →
      TextsAgree base.text head.text) := by
  -- A model keeps the text, parsed or not.
  have htext (source : Source) : (Model.ofSource source dialect).text = source.text := by
    unfold Model.ofSource
    split <;> rfl
  have hidentity :
      byIdentity target (Model.ofSource base dialect) (Model.ofSource head dialect) = [] ↔
        IdentitiesAgree (Model.ofSource base dialect) (Model.ofSource head dialect) :=
    countChanges_eq_nil
  refine ⟨?_, hnames.identitiesAgree, ?_⟩
  · rw [fallbacks_eq_nil hfound, hidentity, byText_eq_nil_iff_textsAgree, htext, htext]
    exact and_congr_right fun _ => and_iff_right (hnames.byName_eq_nil target)
  · intro hbase hhead
    have hagree := hnames.textsAgree hbase hhead
    rwa [htext, htext] at hagree

/-- Where the only opening parenthesis of a text ends the head of a function `f`, this head is the
only one. -/
theorem headsListed_of_sole {model : Model} {inside after : List Char} {site : FunctionSite}
    (htext : model.text.toList = "function f".toList ++ '(' :: (inside ++ ')' :: after))
    (hopening : '(' ∉ inside ++ ')' :: after) (hclosing : ')' ∉ inside)
    (hsite : site ∈ model.namedFunctions) (hname : site.name = "f")
    (hlists : Lists inside site.parameters.length) : model.HeadsListed := by
  intro heads hheads head hmem
  obtain ⟨left, right, hwritten⟩ := hheads.exists_eq_append hmem
  -- The parenthesis of the head is the one of the text, so both are cut in the same place.
  have hcut : "function f".toList ++ '(' :: (inside ++ ')' :: after) =
      (left ++ ("function".toList ++ (head.space ++ (head.name ++ head.gap)))) ++
        '(' :: (head.inside ++ ')' :: right) := by
    rw [← htext, hwritten, head.chars_append]
    simp only [List.append_assoc]
  obtain ⟨hfront, -, hback⟩ := (List.append_cons_inj_of_notMem (by decide) hopening).1 hcut
  have hinside : inside = head.inside := by
    rw [← takeWhile_ne_append hclosing after, hback, takeWhile_ne_append head.closing_notMem_inside]
  have htitle : head.title = "f" := by
    -- Nothing but one blank and one letter has room behind the word.
    have hlength := congrArg List.length hfront
    have hspace := List.length_pos_iff.2 head.space_ne_nil
    obtain ⟨c, more, hcons, -⟩ := head.exists_name_eq_cons
    have hf : "function f".toList.length = 10 := by decide
    have hword : "function".toList.length = 8 := by decide
    simp only [List.length_append, hf, hword, hcons, List.length_cons] at hlength
    obtain rfl : more = [] := List.length_eq_zero_iff.1 (by omega)
    have hgap : head.gap = [] := List.length_eq_zero_iff.1 (by omega)
    have hlast : some 'f' = some c := by
      calc some 'f' = "function f".toList.getLast? := by decide
        _ = some c := by simp only [hfront, hcons, hgap, List.append_nil, List.getLast?_append,
            List.getLast?_singleton, Option.some_or]
    cases hlast
    rw [WrittenHead.title, hcons]
  exact ⟨site, hsite, hname.trans htitle.symm, hinside ▸ hlists⟩

/-- A function with two parameters. -/
def twoParameters : Source :=
  .ofRows "function f(a, b) \x7b\x7d"
    [⟨"program", "", true, 0, 19, 1⟩, ⟨"function_declaration", "", true, 0, 19, 4⟩,
     ⟨"function", "", false, 0, 8, 0⟩, ⟨"identifier", "name", true, 9, 10, 0⟩,
     ⟨"formal_parameters", "parameters", true, 10, 16, 5⟩, ⟨"(", "", false, 10, 11, 0⟩,
     ⟨"required_parameter", "", true, 11, 12, 1⟩, ⟨"identifier", "pattern", true, 11, 12, 0⟩,
     ⟨",", "", false, 12, 13, 0⟩, ⟨"required_parameter", "", true, 14, 15, 1⟩,
     ⟨"identifier", "pattern", true, 14, 15, 0⟩, ⟨")", "", false, 15, 16, 0⟩,
     ⟨"statement_block", "body", true, 17, 19, 2⟩, ⟨"\x7b", "", false, 17, 18, 0⟩,
     ⟨"\x7d", "", false, 18, 19, 0⟩]

/-- Its parameters have other names, and one has a default value. -/
def renamedParameters : Source :=
  .ofRows "function f(x, y = 1) \x7b\x7d"
    [⟨"program", "", true, 0, 23, 1⟩, ⟨"function_declaration", "", true, 0, 23, 4⟩,
     ⟨"function", "", false, 0, 8, 0⟩, ⟨"identifier", "name", true, 9, 10, 0⟩,
     ⟨"formal_parameters", "parameters", true, 10, 20, 5⟩, ⟨"(", "", false, 10, 11, 0⟩,
     ⟨"required_parameter", "", true, 11, 12, 1⟩, ⟨"identifier", "pattern", true, 11, 12, 0⟩,
     ⟨",", "", false, 12, 13, 0⟩, ⟨"required_parameter", "", true, 14, 19, 3⟩,
     ⟨"identifier", "pattern", true, 14, 15, 0⟩, ⟨"=", "", false, 16, 17, 0⟩,
     ⟨"number", "value", true, 18, 19, 0⟩, ⟨")", "", false, 19, 20, 0⟩,
     ⟨"statement_block", "body", true, 21, 23, 2⟩, ⟨"\x7b", "", false, 21, 22, 0⟩,
     ⟨"\x7d", "", false, 22, 23, 0⟩]

/-- Both texts list the parameters of the function, so nothing is reported. -/
theorem fallbacks_eq_nil_iff_renamed :
    ((Model.ofSource twoParameters "typescript").HeadsListed ∧
      (Model.ofSource renamedParameters "typescript").HeadsListed) ∧
    fallbacks ⟨"a.ts", {}, Text.similarity⟩ (Model.ofSource twoParameters "typescript")
      (Model.ofSource renamedParameters "typescript") [] = [] := by
  -- Both texts have a single function, whose parameters are listed as they are counted.
  have hbase : (Model.ofSource twoParameters "typescript").HeadsListed := by
    refine @headsListed_of_sole _ ['a', ',', ' ', 'b'] [' ', '\x7b', '\x7d'] _ (by decide +kernel)
      (by decide) (by decide) List.mem_cons_self (by decide +kernel) ?_
    exact @Lists.some [['a'], [' ', 'b']] (by decide) (by decide) (by simp [isBlank])
  have hhead : (Model.ofSource renamedParameters "typescript").HeadsListed := by
    refine @headsListed_of_sole _ ['x', ',', ' ', 'y', ' ', '=', ' ', '1'] [' ', '\x7b', '\x7d'] _
      (by decide +kernel) (by decide) (by decide) List.mem_cons_self (by decide +kernel) ?_
    exact @Lists.some [['x'], [' ', 'y', ' ', '=', ' ', '1']] (by decide) (by decide)
      (by simp [isBlank])
  have hfound : hasSignatureChange [] = false := rfl
  obtain ⟨hsilent, hidentities, htexts⟩ := fallbacks_eq_nil_iff ⟨"a.ts", {}, Text.similarity⟩ "typescript"
    twoParameters renamedParameters hfound (by decide +kernel)
  refine ⟨⟨hbase, hhead⟩, hsilent.2 ⟨hidentities ?_ ?_, htexts hbase hhead⟩⟩
  · decide +kernel
  · decide +kernel

/-- The same function with a list for the default value of its second parameter. -/
def defaultList : Source :=
  .ofRows "function f(a, b = [1, 2]) \x7b\x7d"
    [⟨"program", "", true, 0, 28, 1⟩, ⟨"function_declaration", "", true, 0, 28, 4⟩,
     ⟨"function", "", false, 0, 8, 0⟩, ⟨"identifier", "name", true, 9, 10, 0⟩,
     ⟨"formal_parameters", "parameters", true, 10, 25, 5⟩, ⟨"(", "", false, 10, 11, 0⟩,
     ⟨"required_parameter", "", true, 11, 12, 1⟩, ⟨"identifier", "pattern", true, 11, 12, 0⟩,
     ⟨",", "", false, 12, 13, 0⟩, ⟨"required_parameter", "", true, 14, 24, 3⟩,
     ⟨"identifier", "pattern", true, 14, 15, 0⟩, ⟨"=", "", false, 16, 17, 0⟩,
     ⟨"array", "value", true, 18, 24, 5⟩, ⟨"[", "", false, 18, 19, 0⟩,
     ⟨"number", "", true, 19, 20, 0⟩, ⟨",", "", false, 20, 21, 0⟩,
     ⟨"number", "", true, 22, 23, 0⟩, ⟨"]", "", false, 23, 24, 0⟩,
     ⟨")", "", false, 24, 25, 0⟩, ⟨"statement_block", "body", true, 26, 28, 2⟩,
     ⟨"\x7b", "", false, 26, 27, 0⟩, ⟨"\x7d", "", false, 27, 28, 0⟩]

/-- The default value adds no parameter, but it has a comma. -/
theorem defaultList_counted :
    ((Model.ofSource twoParameters "typescript").parsed = true ∧
      ((Model.ofSource twoParameters "typescript").namedFunctions.map FunctionSite.name).Nodup) ∧
    ((Model.ofSource defaultList "typescript").parsed = true ∧
      ((Model.ofSource defaultList "typescript").namedFunctions.map FunctionSite.name).Nodup) ∧
    NamesAgree (Model.ofSource twoParameters "typescript")
      (Model.ofSource defaultList "typescript") ∧
    (fallbacks ⟨"a.ts", {}, Text.similarity⟩ (Model.ofSource twoParameters "typescript")
      (Model.ofSource defaultList "typescript") []).map Record.context =
        [some "Param count: 2 -> 3"] := by
  decide +kernel

end Detect

end ChangeLens
