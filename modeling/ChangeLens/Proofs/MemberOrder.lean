import ChangeLens.Proofs.TypeMembers

/-!
# `ChangeLens.Proofs.MemberOrder`: how far the order of members is folded

A union of intersections of names is a list of groups of names. Its canonical text is made in two
steps: the groups are sorted by their texts as they are written, and then the names in each group are
sorted (`canonicalChars_unionChars`). The second step can change the text of a group after its place
was chosen, so the order in which names are written can decide where their group comes to stand.

`canonical_rearranged` says exactly when it does not. The order of the groups never matters. The order
inside the groups does not matter exactly if any two groups with different names compare in the same
way however their names are arranged (`OrderFixed`); and the canonical text is its own canonical text
exactly if sorting the names in each group leaves the sorted groups in order. With `b & a | a & c`
neither is the case (`groupOrder_not_folded`).
-/

set_option autoImplicit false

namespace ChangeLens.TypeText

open ChangeLens.Text

/-! ### Texts of groups -/

/-- An intersection of names. -/
def groupChars (group : List Name) : List Char :=
  ['&'].intercalate (group.map Name.chars)

/-- A union of such intersections. -/
def unionChars (groups : List (List Name)) : List Char :=
  ['|'].intercalate (groups.map groupChars)

/-- A union of such intersections, as a text. -/
def unionText (groups : List (List Name)) : String :=
  String.ofList (unionChars groups)

/-- The text of a group is cut into its names. -/
theorem split_groupChars {group : List Name} (h : group ≠ []) :
    splitTopLevel '&' (groupChars group) = group.map Name.chars := by
  refine splitTopLevel_join (by decide) (by simpa using h) fun piece hpiece => ?_
  obtain ⟨name, -, rfl⟩ := List.mem_map.1 hpiece
  exact name.passes (by decide) (by decide)

/-- The text of a group has name characters and its sign only. -/
theorem of_mem_groupChars {group : List Name} {c : Char} (h : c ∈ groupChars group) :
    c = '&' ∨ isNameChar c = true := by
  rcases of_mem_join h with h | ⟨piece, hpiece, hc⟩
  · exact Or.inl h
  · obtain ⟨name, -, rfl⟩ := List.mem_map.1 hpiece
    exact Or.inr (name.valid c hc)

/-- So no group is cut at the sign of unions. -/
theorem groupChars_passes (group : List Name) : Passes '|' 0 (groupChars group) := by
  refine passes_of_forall (by decide) fun c hc => ?_
  rcases of_mem_groupChars hc with rfl | hname
  · decide
  · exact ⟨isNeutral_of_isNameChar hname, ne_of_isNameChar hname (by decide)⟩

/-- A group that has names has a text. -/
theorem groupChars_ne_nil {group : List Name} (h : group ≠ []) : groupChars group ≠ [] := by
  obtain ⟨name, more, rfl⟩ := List.exists_cons_of_ne_nil h
  obtain ⟨c, rest, hchars⟩ := List.exists_cons_of_ne_nil name.nonempty
  refine List.ne_nil_of_mem (mem_join (c := c) (List.mem_map_of_mem List.mem_cons_self) ?_)
  rw [hchars]
  exact List.mem_cons_self

/-- A text belongs to one group. -/
theorem groupChars_inj {a b : List Name} (ha : a ≠ []) (hb : b ≠ [])
    (h : groupChars a = groupChars b) : a = b := by
  have hmap := congrArg (splitTopLevel '&') h
  rw [split_groupChars ha, split_groupChars hb] at hmap
  exact List.map_injective_iff.2 (fun _ _ => Name.ext) hmap

section Groups

variable {groups : List (List Name)}

/-- The text of a union is cut into its groups. -/
theorem split_unionChars (h : groups ≠ []) :
    splitTopLevel '|' (unionChars groups) = groups.map groupChars := by
  refine splitTopLevel_join (by decide) (by simpa using h) fun piece hpiece => ?_
  obtain ⟨group, -, rfl⟩ := List.mem_map.1 hpiece
  exact groupChars_passes group

variable (hgroups : ∀ group ∈ groups, group ≠ [])
include hgroups

/-- A union of such groups has a text. -/
theorem unionChars_ne_nil (h : groups ≠ []) : unionChars groups ≠ [] := by
  obtain ⟨group, more, rfl⟩ := List.exists_cons_of_ne_nil h
  obtain ⟨c, rest, hchars⟩ := List.exists_cons_of_ne_nil
    (groupChars_ne_nil (hgroups group List.mem_cons_self))
  refine List.ne_nil_of_mem (mem_join (c := c) (List.mem_map_of_mem List.mem_cons_self) ?_)
  rw [hchars]
  exact List.mem_cons_self

/-- The names of all groups can be read off the text. -/
theorem map_split_groups :
    (groups.map groupChars).map (splitTopLevel '&') = groups.map (List.map Name.chars) := by
  rw [List.map_map]
  exact List.map_congr_left fun group hgroup => split_groupChars (hgroups group hgroup)

/-- A text belongs to one list of groups. -/
theorem unionChars_inj {others : List (List Name)} (hothers : ∀ group ∈ others, group ≠ [])
    (h : unionChars groups = unionChars others) : groups = others := by
  by_cases hnil : groups = []
  · subst hnil
    by_contra hne
    exact unionChars_ne_nil hothers (Ne.symm hne) h.symm
  · have hnil' : others ≠ [] := by
      rintro rfl
      exact unionChars_ne_nil hgroups hnil h
    -- Cut at bars, then at ampersands, the text gives back the names.
    have hmap := congrArg (splitTopLevel '|') h
    rw [split_unionChars hnil, split_unionChars hnil'] at hmap
    have hnames := congrArg (List.map (splitTopLevel '&')) hmap
    rw [map_split_groups hgroups, map_split_groups hothers] at hnames
    have hchars : Function.Injective Name.chars := fun _ _ => Name.ext
    exact List.map_injective_iff.2 (List.map_injective_iff.2 hchars) hnames

end Groups

/-! ### The canonical text -/

/-- The names of a group in order. -/
def sortNames (group : List Name) : List Name :=
  sortByText Name.chars group

/-- Sorting keeps the names of a group. -/
theorem sortNames_perm (group : List Name) : (sortNames group).Perm group :=
  sortByText_perm Name.chars group

/-- Groups are put in order by their names exactly if they have the same names. -/
theorem sortNames_eq_iff {a b : List Name} : sortNames a = sortNames b ↔ a.Perm b := by
  constructor
  · intro h
    exact (sortNames_perm a).symm.trans (h ▸ sortNames_perm b)
  · intro h
    exact sortByText_eq_of_perm h fun _ _ _ _ => Name.ext

/-- Sorting twice is sorting once. -/
theorem sortNames_sortNames (group : List Name) : sortNames (sortNames group) = sortNames group :=
  sortNames_eq_iff.2 (sortNames_perm group)

/-- A sorted group is as empty as before. -/
theorem sortNames_ne_nil {group : List Name} (h : group ≠ []) : sortNames group ≠ [] := by
  intro hnil
  have hperm := sortNames_perm group
  rw [hnil] at hperm
  exact h hperm.nil_eq.symm

/-- Groups sorted by their texts, then the names in each of them. -/
def arrange (groups : List (List Name)) : List (List Name) :=
  (sortByText groupChars groups).map sortNames

/-- Sorting the text of a group sorts its names. -/
theorem sortMembers_groupChars {group : List Name} (h : group ≠ []) :
    sortMembers '&' (groupChars group) = groupChars (sortNames group) := by
  rw [groupChars, sortMembers_join (by decide) (by simpa using h), sortPieces_map]
  · rfl
  · intro piece hpiece
    obtain ⟨name, -, rfl⟩ := List.mem_map.1 hpiece
    exact ⟨name.passes (by decide) (by decide), name.nonempty⟩

section Groups

variable {groups : List (List Name)} (hgroups : ∀ group ∈ groups, group ≠ [])
include hgroups

/-- Arranging makes no group empty. -/
theorem arrange_ne_nil : ∀ group ∈ arrange groups, group ≠ [] := by
  intro group hgroup
  obtain ⟨member, hmember, rfl⟩ := List.mem_map.1 hgroup
  exact sortNames_ne_nil (hgroups member ((sortByText_perm _ _).mem_iff.1 hmember))

/-- The canonical text of a union is the text of its arrangement. -/
theorem canonicalChars_unionChars :
    canonicalChars (unionChars groups) = unionChars (arrange groups) := by
  -- The text has neither comments nor blanks nor angle brackets, so only its members are sorted:
  -- first the groups by their texts, then the names in each.
  have hchar (c : Char) (hc : c ∈ unionChars groups) : c = '|' ∨ c = '&' ∨ isNameChar c = true := by
    rcases of_mem_join hc with hc | ⟨piece, hpiece, hc⟩
    · exact Or.inl hc
    · obtain ⟨group, -, rfl⟩ := List.mem_map.1 hpiece
      exact Or.inr (of_mem_groupChars hc)
  have hblank (c : Char) (hc : c ∈ unionChars groups) : isBlank c = false := by
    rcases hchar c hc with rfl | rfl | hname
    · decide
    · decide
    · exact isBlank_of_isNameChar hname
  have habsent (sign : Char) (hsign : isNameChar sign = false) (hbar : sign ≠ '|')
      (hand : sign ≠ '&') : sign ∉ unionChars groups := by
    intro hmem
    rcases hchar sign hmem with h | h | h
    · exact hbar h
    · exact hand h
    · exact ne_of_isNameChar h hsign rfl
  rw [canonicalChars, normalizeChars,
    tidy_eq_self hblank (habsent '/' (by decide) (by decide) (by decide)),
    respellUpTo_eq_self (habsent '<' (by decide) (by decide) (by decide)),
    sortUnionsAndIntersections_eq]
  by_cases hnil : groups = []
  · subst hnil
    have harrange : arrange [] = [] := by
      rw [arrange, sortByText, List.mergeSort_nil, List.map_nil]
    rw [harrange, unionChars, List.map_nil, List.intercalate_nil,
      sortMembers_of_not_mem List.not_mem_nil, splitTopLevel_of_not_mem List.not_mem_nil,
      List.map_singleton, sortMembers_of_not_mem List.not_mem_nil, List.intercalate_singleton]
  · have hunion : sortMembers '|' (unionChars groups) =
        unionChars (sortByText groupChars groups) := by
      rw [unionChars, sortMembers_join (by decide) (by simpa using hnil), sortPieces_map]
      · rfl
      · intro piece hpiece
        obtain ⟨group, hgroup, rfl⟩ := List.mem_map.1 hpiece
        exact ⟨groupChars_passes group, groupChars_ne_nil (hgroups group hgroup)⟩
    have hsorted : sortByText groupChars groups ≠ [] := by
      intro hempty
      have hperm := sortByText_perm groupChars groups
      rw [hempty] at hperm
      exact hnil hperm.nil_eq.symm
    rw [hunion, split_unionChars hsorted, unionChars, arrange, List.map_map, List.map_map]
    refine congrArg _ (List.map_congr_left fun group hgroup => ?_)
    exact sortMembers_groupChars (hgroups group ((sortByText_perm _ _).mem_iff.1 hgroup))

/-- The same for texts. -/
theorem canonical_unionText : canonical (unionText groups) = unionText (arrange groups) := by
  rw [unionText, canonical_ofList, canonicalChars_unionChars hgroups, unionText]

/-- Canonical texts are equal exactly if the arranged groups are. -/
theorem canonical_unionText_eq_iff {others : List (List Name)}
    (hothers : ∀ group ∈ others, group ≠ []) :
    canonical (unionText others) = canonical (unionText groups) ↔
      arrange others = arrange groups := by
  rw [canonical_unionText hgroups, canonical_unionText hothers]
  constructor
  · intro h
    exact unionChars_inj (arrange_ne_nil hothers) (arrange_ne_nil hgroups) (String.ofList_injective h)
  · intro h
    rw [h]

/-- The order of the groups does not matter. -/
theorem arrange_eq_of_perm {others : List (List Name)} (h : groups.Perm others) :
    arrange others = arrange groups := by
  rw [arrange, arrange, ← sortByText_eq_of_perm h]
  exact fun a ha b hb => groupChars_inj (hgroups a ha) (hgroups b hb)

end Groups

/-! ### Rearranged members -/

/-- The groups in another order, and the names of each group in another order. -/
def Rearranged (groups others : List (List Name)) : Prop :=
  ∃ middle, groups.Perm middle ∧ List.Forall₂ List.Perm middle others

/-- Two groups with different names compare in the same way, however their names are arranged. -/
def OrderFixed (groups : List (List Name)) : Prop :=
  ∀ g ∈ groups, ∀ h ∈ groups, ¬ g.Perm h → ∀ g₁ g₂ h₁ h₂ : List Name,
    g.Perm g₁ → g.Perm g₂ → h.Perm h₁ → h.Perm h₂ →
      (groupChars g₁ < groupChars h₁ ↔ groupChars g₂ < groupChars h₂)

/-- Every rearranged group has the names of one of the groups. -/
theorem Rearranged.exists_perm {groups others : List (List Name)} (h : Rearranged groups others)
    {group : List Name} (hgroup : group ∈ others) : ∃ origin ∈ groups, origin.Perm group := by
  obtain ⟨middle, hperm, hpairs⟩ := h
  have hmem (middle others : List (List Name)) (hpairs : List.Forall₂ List.Perm middle others)
      (hgroup : group ∈ others) : ∃ origin ∈ middle, origin.Perm group := by
    induction hpairs with
    | nil => cases hgroup
    | cons hhead _ ih =>
      rcases List.mem_cons.1 hgroup with rfl | htail
      · exact ⟨_, List.mem_cons_self, hhead⟩
      · obtain ⟨origin, horigin, hsame⟩ := ih htail
        exact ⟨origin, List.mem_cons_of_mem _ horigin, hsame⟩
  obtain ⟨origin, horigin, hsame⟩ := hmem middle others hpairs hgroup
  exact ⟨origin, hperm.mem_iff.2 horigin, hsame⟩

/-- The arrangement has the groups with their names sorted. -/
theorem arrange_perm (groups : List (List Name)) : (arrange groups).Perm (groups.map sortNames) :=
  (sortByText_perm groupChars groups).map sortNames

/-- Rearranged groups have the same names after sorting. -/
theorem Rearranged.arrange_perm {groups others : List (List Name)} (h : Rearranged groups others) :
    (arrange others).Perm (arrange groups) := by
  obtain ⟨middle, hperm, hpairs⟩ := h
  have hmap : middle.map sortNames = others.map sortNames := by
    induction hpairs generalizing groups with
    | nil => rfl
    | cons hhead _ ih => rw [List.map_cons, List.map_cons, sortNames_eq_iff.2 hhead, ih (.refl _)]
  calc
    (arrange others).Perm (others.map sortNames) := TypeText.arrange_perm others
    _ = middle.map sortNames := hmap.symm
    List.Perm _ (groups.map sortNames) := hperm.symm.map sortNames
    List.Perm _ (arrange groups) := (TypeText.arrange_perm groups).symm

/-- Each group replaced by an arrangement of its names. -/
theorem rearranged_map {pick : List Name → List Name}
    (hpick : ∀ group : List Name, group.Perm (pick group)) (groups : List (List Name)) :
    Rearranged groups (groups.map pick) := by
  refine ⟨groups, .refl groups, ?_⟩
  rw [List.forall₂_map_right_iff, List.forall₂_same]
  exact fun group _ => hpick group

/-- A group whose arrangement has the smaller text comes to stand first. -/
theorem arrange_map_pairwise (groups : List (List Name)) {pick : List Name → List Name}
    (hpick : ∀ group : List Name, group.Perm (pick group)) {g k g₁ k₁ : List Name}
    (hg : ∀ group, group.Perm g → pick group = g₁) (hk : ∀ group, group.Perm k → pick group = k₁)
    (hlt : groupChars g₁ < groupChars k₁) :
    (arrange (groups.map pick)).Pairwise fun a b => ¬ (a = sortNames k ∧ b = sortNames g) := by
  rw [arrange, List.pairwise_map]
  refine (sortByText_sorted groupChars (groups.map pick)).imp_of_mem ?_
  rintro a b ha hb hle ⟨hak, hbg⟩
  -- Both were picked, so their texts are those of the two arrangements.
  have hpicked {c d d₁ : List Name} (hc : c ∈ sortByText groupChars (groups.map pick))
      (hd : ∀ group, group.Perm d → pick group = d₁) (hcd : sortNames c = sortNames d) : c = d₁ := by
    obtain ⟨origin, -, rfl⟩ := List.mem_map.1 ((sortByText_perm _ _).mem_iff.1 hc)
    exact hd origin ((hpick origin).trans (sortNames_eq_iff.1 hcd))
  rw [hpicked ha hk hak, hpicked hb hg hbg] at hle
  exact hle hlt

section Groups

variable {groups : List (List Name)} (hgroups : ∀ group ∈ groups, group ≠ [])
include hgroups

/-- Rearranging makes no group empty. -/
theorem Rearranged.ne_nil {others : List (List Name)} (h : Rearranged groups others) :
    ∀ group ∈ others, group ≠ [] := by
  rintro group hgroup rfl
  obtain ⟨origin, horigin, hperm⟩ := h.exists_perm hgroup
  exact hgroups origin horigin hperm.eq_nil

omit hgroups in
/-- Where the order is fixed, the sorted groups are still sorted after their names are. -/
theorem OrderFixed.arrange_sorted (hfixed : OrderFixed groups) {others : List (List Name)}
    (h : Rearranged groups others) :
    (arrange others).Pairwise fun a b => ¬ groupChars b < groupChars a := by
  rw [arrange, List.pairwise_map]
  refine (sortByText_sorted groupChars others).imp_of_mem fun {a b} ha hb hle => ?_
  -- Both come from groups of the list, whose order does not depend on the arrangement.
  obtain ⟨g, hg, hga⟩ := h.exists_perm ((sortByText_perm _ _).mem_iff.1 ha)
  obtain ⟨k, hk, hkb⟩ := h.exists_perm ((sortByText_perm _ _).mem_iff.1 hb)
  by_cases hsame : g.Perm k
  · rw [sortNames_eq_iff.2 ((hga.symm.trans hsame).trans hkb)]
    exact List.lt_irrefl _
  · have horder := hfixed k hk g hg (fun hperm => hsame hperm.symm) b (sortNames b) a (sortNames a)
      hkb (hkb.trans (sortNames_perm b).symm) hga (hga.trans (sortNames_perm a).symm)
    exact fun hlt => hle (horder.2 hlt)

/-- Where the order of groups is fixed, every rearrangement is arranged alike. -/
theorem OrderFixed.arrange_eq (hfixed : OrderFixed groups) {others : List (List Name)}
    (h : Rearranged groups others) : arrange others = arrange groups := by
  have hself : Rearranged groups groups :=
    ⟨groups, .refl groups, List.forall₂_same.2 fun group _ => .refl group⟩
  refine h.arrange_perm.eq_of_pairwise ?_ (hfixed.arrange_sorted h)
    (hfixed.arrange_sorted hself)
  intro a b ha hb hab hba
  exact groupChars_inj (arrange_ne_nil (h.ne_nil hgroups) a ha) (arrange_ne_nil hgroups b hb)
    (List.le_antisymm hab hba)

/-- Where some arrangement of two groups turns their order around, so does the canonical text. -/
theorem orderFixed_of_arrange_eq
    (h : ∀ others, Rearranged groups others → arrange others = arrange groups) :
    OrderFixed groups := by
  -- Suppose two groups can be put in either order. Then two rearrangements differ in these groups
  -- only, and are arranged differently.
  have hone (g k : List Name) (hgmem : g ∈ groups) (hkmem : k ∈ groups) (hne : ¬ g.Perm k)
      (g₁ g₂ k₁ k₂ : List Name) (hg₁ : g.Perm g₁) (hg₂ : g.Perm g₂) (hk₁ : k.Perm k₁)
      (hk₂ : k.Perm k₂) (hlt : groupChars g₁ < groupChars k₁) : groupChars g₂ < groupChars k₂ := by
    by_contra hnot
    have hgt : groupChars k₂ < groupChars g₂ := by
      by_contra hle
      have heq := List.le_antisymm hle hnot
      have hnil₂ : g₂ ≠ [] := fun hnil => hgroups g hgmem (hnil ▸ hg₂).eq_nil
      have hnil₂' : k₂ ≠ [] := fun hnil => hgroups k hkmem (hnil ▸ hk₂).eq_nil
      exact hne (hg₂.trans ((groupChars_inj hnil₂ hnil₂' heq) ▸ hk₂.symm))
    -- Every group with the names of `g` or of `k` is given the chosen arrangement.
    let pick (a b group : List Name) : List Name :=
      if group.Perm g then a else if group.Perm k then b else group
    have hpick {a b : List Name} (ha : g.Perm a) (hb : k.Perm b) (group : List Name) :
        group.Perm (pick a b group) := by
      simp only [pick]
      split
      · rename_i hgroup
        exact hgroup.trans ha
      · split
        · rename_i hgroup
          exact hgroup.trans hb
        · exact .refl group
    have hpickLeft (a b group : List Name) (hgroup : group.Perm g) : pick a b group = a :=
      if_pos hgroup
    have hpickRight (a b group : List Name) (hgroup : group.Perm k) : pick a b group = b :=
      (if_neg fun hperm => hne (hperm.symm.trans hgroup)).trans (if_pos hgroup)
    have hfirst := arrange_map_pairwise groups (hpick hg₁ hk₁) (hpickLeft g₁ k₁)
      (hpickRight g₁ k₁) hlt
    have hsecond := arrange_map_pairwise groups (hpick hg₂ hk₂) (hpickRight g₂ k₂)
      (hpickLeft g₂ k₂) hgt
    rw [h _ (rearranged_map (hpick hg₁ hk₁) groups)] at hfirst
    rw [h _ (rearranged_map (hpick hg₂ hk₂) groups)] at hsecond
    -- In the one canonical text both groups stand, and neither may stand before the other.
    have hsorted : sortNames g ≠ sortNames k := fun heq => hne (sortNames_eq_iff.1 heq)
    have hmem {group : List Name} (hgroup : group ∈ groups) : sortNames group ∈ arrange groups :=
      (arrange_perm groups).mem_iff.2 (List.mem_map_of_mem hgroup)
    refine hfirst.forall_of_forall_of_flip ?_ ?_ (hmem hkmem) (hmem hgmem) ⟨rfl, rfl⟩
    · rintro a - ⟨hak, hag⟩
      exact hsorted (hag.symm.trans hak)
    · exact hsecond.imp fun hnot hboth => hnot ⟨hboth.2, hboth.1⟩
  intro g hgmem k hkmem hne g₁ g₂ k₁ k₂ hg₁ hg₂ hk₁ hk₂
  exact ⟨hone g k hgmem hkmem hne g₁ g₂ k₁ k₂ hg₁ hg₂ hk₁ hk₂,
    hone g k hgmem hkmem hne g₂ g₁ k₂ k₁ hg₂ hg₁ hk₂ hk₁⟩

/-- Arranging again changes nothing exactly if the arranged groups are sorted. -/
theorem arrange_arrange_iff :
    arrange (arrange groups) = arrange groups ↔
      ∀ g ∈ groups, ∀ k ∈ groups, groupChars g < groupChars k →
        ¬ groupChars (sortNames k) < groupChars (sortNames g) := by
  have hsortNames : arrange (arrange groups) = sortByText groupChars (arrange groups) := by
    rw [arrange]
    refine (List.map_congr_left fun group hgroup => ?_).trans (List.map_id _)
    obtain ⟨origin, -, rfl⟩ := List.mem_map.1 ((sortByText_perm _ _).mem_iff.1 hgroup)
    exact sortNames_sortNames origin
  have hmem {group : List Name} : group ∈ sortByText groupChars groups ↔ group ∈ groups :=
    (sortByText_perm groupChars groups).mem_iff
  rw [hsortNames]
  constructor
  · intro heq g hg k hk
    -- Pairs in the wrong order cannot occur in the sorted groups, so only the right order counts.
    have hsorted := sortByText_sorted groupChars (arrange groups)
    rw [heq, arrange, List.pairwise_map] at hsorted
    have hboth := hsorted.imp fun {a b} hle => (fun _ => hle : groupChars a < groupChars b → _)
    refine hboth.forall_of_forall_of_flip (fun _ _ _ => List.lt_irrefl _) ?_ (hmem.2 hg) (hmem.2 hk)
    exact (sortByText_sorted groupChars groups).imp fun hle hlt => absurd hlt hle
  · intro horder
    refine sortByText_eq_self ?_
    rw [arrange, List.pairwise_map]
    refine (sortByText_sorted groupChars groups).imp_of_mem fun {a b} ha hb hle => ?_
    have ha := hmem.1 ha
    have hb := hmem.1 hb
    by_cases hlt : groupChars a < groupChars b
    · exact horder a ha b hb hlt
    · rw [groupChars_inj (hgroups a ha) (hgroups b hb) (List.le_antisymm hle hlt)]
      exact List.lt_irrefl _

end Groups

/-- The order of groups is always folded. The order of names inside the groups is folded exactly if
it never decides how two groups compare, and the canonical text is its own canonical text exactly if
sorting the names turns no two groups around. -/
theorem canonical_rearranged (groups : List (List Name)) (hgroups : ∀ group ∈ groups, group ≠ []) :
    (∀ others, groups.Perm others →
      canonical (unionText others) = canonical (unionText groups)) ∧
    ((∀ others, Rearranged groups others →
      canonical (unionText others) = canonical (unionText groups)) ↔ OrderFixed groups) ∧
    (canonical (canonical (unionText groups)) = canonical (unionText groups) ↔
      ∀ g ∈ groups, ∀ k ∈ groups, groupChars g < groupChars k →
        ¬ groupChars (sortNames k) < groupChars (sortNames g)) := by
  refine ⟨fun others hperm => ?_, ⟨fun h => ?_, fun hfixed others hothers => ?_⟩, ?_⟩
  · have hothers : ∀ group ∈ others, group ≠ [] := fun group hgroup =>
      hgroups group (hperm.mem_iff.2 hgroup)
    exact (canonical_unionText_eq_iff hgroups hothers).2 (arrange_eq_of_perm hgroups hperm)
  · refine orderFixed_of_arrange_eq hgroups fun others hothers => ?_
    exact (canonical_unionText_eq_iff hgroups (hothers.ne_nil hgroups)).1 (h others hothers)
  · exact (canonical_unionText_eq_iff hgroups (hothers.ne_nil hgroups)).2
      (hfixed.arrange_eq hgroups hothers)
  · rw [← arrange_arrange_iff hgroups,
      ← canonical_unionText_eq_iff hgroups (arrange_ne_nil hgroups), canonical_unionText hgroups]

/-- With one name in each group, there is nothing to arrange inside the groups. -/
theorem canonical_rearranged_letters :
    ∃ groups : List (List Name), unionText groups = "b|a" ∧ (∀ group ∈ groups, group ≠ []) ∧
      OrderFixed groups ∧ ∀ others, Rearranged groups others →
        canonical (unionText others) = canonical (unionText groups) := by
  let groups : List (List Name) := [[.ofText "b" (by decide)], [.ofText "a" (by decide)]]
  have hgroups : ∀ group ∈ groups, group ≠ [] := by decide
  have hfixed : OrderFixed groups := by
    intro g hg k hk _ g₁ g₂ k₁ k₂ hg₁ hg₂ hk₁ hk₂
    have hsingle (group : List Name) (hgroup : group ∈ groups) : ∃ name, group = [name] := by
      simp only [groups, List.mem_cons, List.not_mem_nil, or_false] at hgroup
      rcases hgroup with rfl | rfl <;> exact ⟨_, rfl⟩
    obtain ⟨x, rfl⟩ := hsingle g hg
    obtain ⟨y, rfl⟩ := hsingle k hk
    rw [List.perm_singleton.1 hg₁.symm, List.perm_singleton.1 hg₂.symm,
      List.perm_singleton.1 hk₁.symm, List.perm_singleton.1 hk₂.symm]
  exact ⟨groups, rfl, hgroups, hfixed, (canonical_rearranged groups hgroups).2.1.2 hfixed⟩

/-- Turning `b & a` into `a & b` moves the group, and the text of the first is not its own canonical
text. -/
theorem groupOrder_not_folded :
    ∃ a b c : Name, Rearranged [[b, a], [a, c]] [[a, b], [a, c]] ∧
      unionText [[b, a], [a, c]] = "b&a|a&c" ∧ unionText [[a, b], [a, c]] = "a&b|a&c" ∧
      canonical "b&a|a&c" = "a&c|a&b" ∧ canonical "a&b|a&c" = "a&b|a&c" ∧
      canonical "a&c|a&b" = "a&b|a&c" := by
  let a : Name := .ofText "a" (by decide)
  let b : Name := .ofText "b" (by decide)
  let c : Name := .ofText "c" (by decide)
  have hab : sortNames [a, b] = [a, b] := by rw [sortNames, sortByText_pair, if_neg (by decide)]
  have hba : sortNames [b, a] = [a, b] := by rw [sortNames, sortByText_pair, if_pos (by decide)]
  have hac : sortNames [a, c] = [a, c] := by rw [sortNames, sortByText_pair, if_neg (by decide)]
  -- `b&a` comes behind `a&c` and is sorted only then.
  have hsplit : arrange [[b, a], [a, c]] = [[a, c], [a, b]] := by
    rw [arrange, sortByText_pair, if_pos (by decide), List.map_cons, List.map_singleton, hac, hba]
  have hsame : arrange [[a, b], [a, c]] = [[a, b], [a, c]] := by
    rw [arrange, sortByText_pair, if_neg (by decide), List.map_cons, List.map_singleton, hab, hac]
  have hturned : arrange [[a, c], [a, b]] = [[a, b], [a, c]] := by
    rw [arrange, sortByText_pair, if_pos (by decide), List.map_cons, List.map_singleton, hab, hac]
  refine ⟨a, b, c, ⟨_, .refl _, .cons (.swap a b []) (.cons (.refl _) .nil)⟩, rfl, rfl, ?_, ?_, ?_⟩
  · exact (@canonical_unionText [[b, a], [a, c]] (by decide)).trans (by rw [hsplit]; rfl)
  · exact (@canonical_unionText [[a, b], [a, c]] (by decide)).trans (by rw [hsame]; rfl)
  · exact (@canonical_unionText [[a, c], [a, b]] (by decide)).trans (by rw [hturned]; rfl)

end ChangeLens.TypeText
