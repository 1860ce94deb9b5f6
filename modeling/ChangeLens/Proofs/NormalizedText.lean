import ChangeLens.Proofs.Walks

/-!
# `ChangeLens.Proofs.NormalizedText`: comments and layout do not count

All comparisons of source code go through `Source.normalized`. `Tree.uncommented` deletes the
comments of a tree, and `Source.outline` forgets where the rest stands: kinds, shape and the texts
of the tokens remain, blanks in markup text counting only as the ends of words.

`normalized_layout` says that equal outlines have equal normalized texts, and what that text is.
The tokens are the tokens of the tree that stand in no comment and in no other token
(`freeTokens`), in the order in which a walk visits them; their texts are set one behind the other,
with a space where two wordish characters would meet (`spaced`). Comments alone below a node are
the one exception: without them the node would be a token itself.
-/

set_option autoImplicit false

namespace ChangeLens

open ChangeLens.Text

/-! ### Trees without comments -/

namespace Tree

mutual

/-- The tree without the comments below its root. -/
def uncommented : Tree → Tree
  | node label children => node label (uncommentedAll children)

/-- The trees that are no comments, without the comments below their roots. -/
def uncommentedAll : List Tree → List Tree
  | [] => []
  | tree :: rest =>
    if tree.kind == "comment" then uncommentedAll rest
    else tree.uncommented :: uncommentedAll rest

end

/-- Whether the text of a node is one token: it has no children, or its kind says so. -/
def isToken (tree : Tree) : Bool :=
  Source.isAtomic tree.kind || tree.children.isEmpty

/-- Every node below which there is something to read has more than comments there. -/
def Substantial (tree : Tree) : Prop :=
  ∀ node ∈ tree.walk, node.isToken = false → ∃ child ∈ node.children, child.kind ≠ "comment"

/-- The children of every node stand in it, one behind the other. -/
def Consecutive (tree : Tree) : Prop :=
  ∀ node ∈ tree.walk, (∀ child ∈ node.children, node.contains child = true) ∧
    node.children.Pairwise fun first second => first.label.stop ≤ second.label.start

/-- What holds of all nodes of a tree holds of all nodes of its children. -/
theorem Substantial.child {label : NodeLabel} {children : List Tree} {child : Tree}
    (h : (node label children).Substantial) (hchild : child ∈ children) : child.Substantial :=
  fun other hother => h other (mem_walk_of_child hchild hother)

/-- The children of a tree with consecutive nodes have consecutive nodes. -/
theorem Consecutive.child {label : NodeLabel} {children : List Tree} {child : Tree}
    (h : (node label children).Consecutive) (hchild : child ∈ children) : child.Consecutive :=
  fun other hother => h other (mem_walk_of_child hchild hother)

/-- Something is left of trees that are not all comments. -/
theorem uncommentedAll_ne_nil {trees : List Tree} {tree : Tree} (h : tree ∈ trees)
    (hkind : tree.kind ≠ "comment") : uncommentedAll trees ≠ [] := by
  induction trees with
  | nil => cases h
  | cons first rest ih =>
    rw [uncommentedAll]
    split
    · rename_i hfirst
      rcases List.mem_cons.1 h with rfl | h
      · exact absurd (eq_of_beq hfirst) hkind
      · exact ih h
    · exact List.cons_ne_nil _ _

end Tree

/-! ### Outlines -/

/-- What a tree is when its offsets are forgotten. -/
inductive Outline where
  /-- A token of some kind with its text. -/
  | token (kind : String) (text : List Char)
  /-- A piece of markup text with its words. -/
  | markupText (words : List (List Char))
  /-- A node of some kind with what stands below it. -/
  | inner (kind : String) (children : List Outline)

namespace Outline

mutual

/-- The texts of the tokens, in order. -/
def texts : Outline → List (List Char)
  | token _ text => [text]
  | markupText words => [[' '].intercalate words]
  | inner _ children => textsAll children

/-- The texts of the tokens of several outlines. -/
def textsAll : List Outline → List (List Char)
  | [] => []
  | outline :: rest => outline.texts ++ textsAll rest

end

end Outline

namespace Source

mutual

/-- The outline of a tree of a source. -/
def outline (source : Source) : Tree → Outline
  | .node label children =>
    if Tree.isToken (.node label children) then
      if label.kind == "jsx_text" then .markupText (words (source.chars (.node label children)))
      else .token label.kind (source.chars (.node label children))
    else .inner label.kind (outlines source children)

/-- The outlines of several trees of a source. -/
def outlines (source : Source) : List Tree → List Outline
  | [] => []
  | tree :: rest => outline source tree :: outlines source rest

end

/-- The text of a token is what its outline says, whatever stands below it. -/
theorem texts_outline_of_isToken {source : Source} {label : NodeLabel} {children : List Tree}
    (below : List Tree) (h : Tree.isToken (.node label children) = true) :
    (outline source (.node label children)).texts = [source.tokenChars (.node label below)] := by
  rw [outline, if_pos h, tokenChars]
  show (if label.kind == "jsx_text" then _ else _ : Outline).texts =
    [if label.kind == "jsx_text" then _ else _]
  split
  · rfl
  · rfl

mutual

/-- The tokens of a tree that is no comment have the texts that its outline has when the comments
are deleted. -/
theorem map_tokenChars_tokens (source : Source) (tree : Tree) (hkind : tree.kind ≠ "comment")
    (h : tree.Substantial) :
    (tokens tree).map source.tokenChars = (outline source tree.uncommented).texts := by
  match tree with
  | .node label children =>
    have hcomment : (label.kind == "comment") = false := beq_eq_false_iff_ne.2 hkind
    rw [tokens, hcomment, if_neg Bool.false_ne_true, Tree.uncommented]
    by_cases htoken : (isAtomic label.kind || children.isEmpty) = true
    · -- A token stays one when the comments below it go.
      have hleft : Tree.isToken (.node label (Tree.uncommentedAll children)) = true := by
        rcases Bool.or_eq_true _ _ ▸ htoken with hatomic | hempty
        · simp [Tree.isToken, hatomic]
        · rw [List.isEmpty_iff.1 hempty]
          simp [Tree.isToken, Tree.uncommentedAll]
      rw [if_pos htoken, texts_outline_of_isToken children hleft]
      rfl
    · -- Any other node keeps a child, so it does not turn into a token.
      have hinner : Tree.isToken (.node label children) = false := Bool.eq_false_iff.2 htoken
      obtain ⟨child, hchild, hcode⟩ := h _ (Tree.mem_walk_self _) hinner
      have hleft : Tree.isToken (.node label (Tree.uncommentedAll children)) = false := by
        have hatomic : isAtomic label.kind = false := (Bool.or_eq_false_iff.1 hinner).1
        have hrest : (Tree.uncommentedAll children).isEmpty = false :=
          List.isEmpty_eq_false_iff.2 (Tree.uncommentedAll_ne_nil hchild hcode)
        simp [Tree.isToken, hatomic, hrest]
      rw [if_neg htoken, outline, hleft, if_neg Bool.false_ne_true, Outline.texts]
      exact map_tokenChars_tokensAll source children fun other hother => h.child hother

/-- The same for a list of trees: a comment contributes no token and is gone from the outline. -/
theorem map_tokenChars_tokensAll (source : Source) (trees : List Tree)
    (h : ∀ tree ∈ trees, tree.Substantial) :
    (tokensAll trees).map source.tokenChars =
      Outline.textsAll (outlines source (Tree.uncommentedAll trees)) := by
  match trees with
  | [] => rfl
  | tree :: rest =>
    have hrest := map_tokenChars_tokensAll source rest fun other hother =>
      h other (List.mem_cons_of_mem tree hother)
    rw [tokensAll, Tree.uncommentedAll, List.map_append, hrest]
    by_cases hcomment : tree.kind = "comment"
    · -- A comment has no tokens, and the list without comments does not have it.
      have hnone : tokens tree = [] := by
        cases tree with
        | node label children =>
          rw [Tree.kind_node] at hcomment
          rw [tokens, if_pos (beq_iff_eq.2 hcomment)]
      rw [if_pos (beq_iff_eq.2 hcomment), hnone]
      rfl
    · rw [if_neg fun heq => hcomment (eq_of_beq heq), outlines, Outline.textsAll,
        map_tokenChars_tokens source tree hcomment (h tree List.mem_cons_self)]

end

/-! ### Which nodes are the tokens -/

/-- Whether a node is a token that stands in no comment and in no other token. -/
def isFreeToken (cursor : Cursor) : Bool :=
  cursor.node.isToken && cursor.kind != "comment" &&
    cursor.ancestors.all fun above => !isAtomic above.kind && above.kind != "comment"

/-- The tokens of a tree that stand in no comment and in no other token, in pre-order. -/
def freeTokens (tree : Tree) : List Tree :=
  ((Cursor.walkTree [] tree).filter isFreeToken).map (·.node)

/-- Nothing in a comment or in a token is a free token. -/
theorem filter_isFreeToken_eq_nil {above : List Tree} (parent : Tree) (trees : List Tree)
    (h : parent ∈ above) (hparent : isAtomic parent.kind = true ∨ parent.kind = "comment") :
    (Cursor.walkTrees above trees).filter isFreeToken = [] := by
  rw [List.filter_eq_nil_iff]
  intro cursor hcursor hfree
  rw [Cursor.walkTrees_eq_flatMap, List.mem_flatMap] at hcursor
  obtain ⟨tree, -, hcursor⟩ := hcursor
  have hmem : parent ∈ cursor.ancestors := (Cursor.ancestors_suffix_of_mem_walkTree hcursor).mem h
  have hall := (Bool.and_eq_true _ _ ▸ hfree).2
  have hclear := List.all_eq_true.1 hall parent hmem
  rcases hparent with hatomic | hcomment
  · simp [hatomic] at hclear
  · simp [hcomment] at hclear

mutual

/-- The tokens of a tree are its free tokens, when nothing above the tree forbids it. -/
theorem map_free_walkTree (above : List Tree) (tree : Tree)
    (h : ∀ parent ∈ above, isAtomic parent.kind = false ∧ parent.kind ≠ "comment") :
    ((Cursor.walkTree above tree).filter isFreeToken).map (·.node) = tokens tree := by
  match tree with
  | .node label children =>
    -- No parent hides what is below it.
    have hclear : (above.all fun parent => !isAtomic parent.kind && parent.kind != "comment") =
        true := by
      rw [List.all_eq_true]
      intro parent hparent
      simp [h parent hparent]
    rw [Cursor.walkTree, tokens]
    by_cases hcomment : label.kind = "comment"
    · -- A comment is no token, and it hides everything below it.
      have hroot : isFreeToken ⟨.node label children, above⟩ = false := by
        simp [isFreeToken, Cursor.kind, hcomment]
      rw [List.filter_cons_of_neg (by simp [hroot]),
        filter_isFreeToken_eq_nil (.node label children) children List.mem_cons_self
          (.inr hcomment),
        if_pos (beq_iff_eq.2 hcomment)]
      rfl
    · have hroot : isFreeToken ⟨.node label children, above⟩ =
          (isAtomic label.kind || children.isEmpty) := by
        simp [isFreeToken, hclear, Cursor.kind, Tree.isToken, hcomment]
      rw [if_neg fun heq => hcomment (eq_of_beq heq)]
      by_cases htoken : (isAtomic label.kind || children.isEmpty) = true
      · rw [List.filter_cons_of_pos (by rw [hroot, htoken]), if_pos htoken]
        -- Below a token there is nothing at all, or nothing that counts.
        have hbelow : (Cursor.walkTrees (.node label children :: above) children).filter
            isFreeToken = [] := by
          rcases Bool.or_eq_true _ _ ▸ htoken with hatomic | hempty
          · exact filter_isFreeToken_eq_nil (.node label children) children List.mem_cons_self
              (.inl hatomic)
          · rw [List.isEmpty_iff.1 hempty]
            rfl
        rw [hbelow]
        rfl
      · rw [List.filter_cons_of_neg (by rw [hroot]; exact htoken), if_neg htoken]
        refine map_free_walkTrees _ children fun parent hparent => ?_
        rcases List.mem_cons.1 hparent with rfl | hparent
        · exact ⟨(Bool.or_eq_false_iff.1 (Bool.eq_false_iff.2 htoken)).1, hcomment⟩
        · exact h parent hparent

/-- The same for a list of trees below the same parents. -/
theorem map_free_walkTrees (above : List Tree) (trees : List Tree)
    (h : ∀ parent ∈ above, isAtomic parent.kind = false ∧ parent.kind ≠ "comment") :
    ((Cursor.walkTrees above trees).filter isFreeToken).map (·.node) = tokensAll trees := by
  match trees with
  | [] => rfl
  | tree :: rest =>
    rw [Cursor.walkTrees, List.filter_append, List.map_append, map_free_walkTree above tree h,
      map_free_walkTrees above rest h, tokensAll]

end

/-- The tokens of a tree are its free tokens in the order of the walk. -/
theorem freeTokens_eq_tokens (tree : Tree) : freeTokens tree = tokens tree :=
  map_free_walkTree [] tree nofun

/-! ### The order of the tokens -/

/-- The range of a node within a node within a third one is within the third one. -/
theorem contains_trans {outer middle inner : Tree} (h : outer.contains middle = true)
    (h' : middle.contains inner = true) : outer.contains inner = true := by
  simp only [Tree.contains, Bool.and_eq_true, decide_eq_true_iff] at h h' ⊢
  omega

mutual

/-- Where children stand in their parents one behind the other, so do the tokens of a tree, all of
them in its range. -/
theorem tokens_pairwise (tree : Tree) (h : tree.Consecutive) :
    (∀ token ∈ tokens tree, tree.contains token = true) ∧
      (tokens tree).Pairwise fun first second => first.label.stop ≤ second.label.start := by
  match tree with
  | .node label children =>
    obtain ⟨hwithin, hpairwise⟩ := h _ (Tree.mem_walk_self _)
    rw [tokens]
    split
    · exact ⟨nofun, .nil⟩
    · split
      · refine ⟨fun token htoken => ?_, List.pairwise_singleton _ _⟩
        rw [List.mem_singleton.1 htoken]
        simp [Tree.contains]
      · obtain ⟨hmem, htokens⟩ :=
          tokensAll_pairwise children (fun child hchild => h.child hchild) hpairwise
        refine ⟨fun token htoken => ?_, htokens⟩
        obtain ⟨child, hchild, hcontains⟩ := hmem token htoken
        exact contains_trans (hwithin child hchild) hcontains

/-- The tokens of consecutive trees are within these trees and follow each other. -/
theorem tokensAll_pairwise (trees : List Tree) (h : ∀ tree ∈ trees, tree.Consecutive)
    (hpairwise : trees.Pairwise fun first second => first.label.stop ≤ second.label.start) :
    (∀ token ∈ tokensAll trees, ∃ tree ∈ trees, tree.contains token = true) ∧
      (tokensAll trees).Pairwise fun first second => first.label.stop ≤ second.label.start := by
  match trees with
  | [] => exact ⟨nofun, .nil⟩
  | tree :: rest =>
    obtain ⟨hbefore, hpairwise⟩ := List.pairwise_cons.1 hpairwise
    obtain ⟨hfirst, hfirsts⟩ := tokens_pairwise tree (h tree List.mem_cons_self)
    obtain ⟨hlater, hlaters⟩ :=
      tokensAll_pairwise rest (fun other hother => h other (List.mem_cons_of_mem _ hother)) hpairwise
    rw [tokensAll]
    refine ⟨fun token htoken => ?_, List.pairwise_append.2 ⟨hfirsts, hlaters, ?_⟩⟩
    · rcases List.mem_append.1 htoken with htoken | htoken
      · exact ⟨tree, List.mem_cons_self, hfirst token htoken⟩
      · obtain ⟨other, hother, hcontains⟩ := hlater token htoken
        exact ⟨other, List.mem_cons_of_mem _ hother, hcontains⟩
    · -- The first token ends within its tree, and the second one starts within a later tree.
      intro first hfirstToken second hsecondToken
      have hends := hfirst first hfirstToken
      obtain ⟨other, hother, hstarts⟩ := hlater second hsecondToken
      have hgap := hbefore other hother
      simp only [Tree.contains, Bool.and_eq_true, decide_eq_true_iff] at hends hstarts
      omega

end

/-! ### How the texts are joined -/

/-- What is set between a character and the next one: a space if both are wordish. -/
def gap (last next : Option Char) : List Char :=
  if last.any isWordish && next.any isWordish then [' '] else []

/-- Texts one behind the other, with a space exactly where two wordish characters would meet. -/
def spaced : List (List Char) → List Char
  | [] => []
  | [text] => text
  | text :: next :: rest => text ++ gap text.getLast? next.head? ++ spaced (next :: rest)

/-- In front of the first token there is no space. -/
theorem gap_none (next : Option Char) : gap none next = [] :=
  rfl

/-- A text in front of others. -/
theorem spaced_cons (text : List Char) (rest : List (List Char)) :
    spaced (text :: rest) =
      text ++ gap text.getLast? (rest.head?.bind List.head?) ++ spaced rest := by
  cases rest with
  | nil => simp [spaced, gap]
  | cons next rest => rfl

/-- Joining keeps the last character written, and empty texts do not change it. -/
theorem joinTokens_eq (last : Option Char) (texts : List (List Char)) :
    joinTokens last texts =
      gap last ((texts.filter (!·.isEmpty)).head?.bind List.head?) ++
        spaced (texts.filter (!·.isEmpty)) := by
  induction texts generalizing last with
  | nil => simp [joinTokens, spaced, gap]
  | cons text rest ih =>
    cases text with
    | nil =>
      rw [joinTokens, ih, List.filter_cons_of_neg (by simp)]
    | cons c text =>
      rw [joinTokens, ih, List.filter_cons_of_pos (by simp), spaced_cons]
      simp [gap, List.append_assoc]

/-- Two trees that have the same outline when their comments are deleted have the same normalized
text, if no node but tokens has nothing but comments below it. The normalized text of any tree is
made of the texts of its free tokens, empty ones left out, in the order of a walk, which is their
order in the text when the children of every node stand in it one behind the other; a space stands
exactly where two wordish characters would meet. -/
theorem normalized_layout (s t : Source) (a b : Tree) :
    (a.Substantial → b.Substantial →
      s.outlines (Tree.uncommentedAll [a]) = t.outlines (Tree.uncommentedAll [b]) →
        s.normalized a = t.normalized b) ∧
    s.normalized a =
      String.ofList (spaced (((freeTokens a).map s.tokenChars).filter (!·.isEmpty))) ∧
    (a.Consecutive →
      (freeTokens a).Pairwise fun first second => first.label.stop ≤ second.label.start) := by
  have htexts (source : Source) (tree : Tree) (htree : tree.Substantial) :
      (tokens tree).map source.tokenChars =
        Outline.textsAll (source.outlines (Tree.uncommentedAll [tree])) := by
    have hall := map_tokenChars_tokensAll source [tree] fun other hother =>
      List.mem_singleton.1 hother ▸ htree
    rwa [tokensAll, tokensAll, List.append_nil] at hall
  refine ⟨fun ha hb heq => ?_, ?_, fun ha => ?_⟩
  · rw [normalized, normalized, htexts s a ha, htexts t b hb, heq]
  · rw [normalized, joinTokens_eq, gap_none, List.nil_append, freeTokens_eq_tokens]
  · rw [freeTokens_eq_tokens]
    exact (tokens_pairwise a ha).2

/-- A node without children. -/
def leafAt (id : Nat) (kind : String) (start stop : Nat) : Tree :=
  .node (.inRow id kind "" true start stop) []

/-- `new`, a comment, `A` and some markup text. -/
def spaciousTree : Tree :=
  .node (.inRow 0 "jsx_element" "" true 0 17)
    [leafAt 1 "new" 0 3, leafAt 2 "comment" 4 9, leafAt 3 "identifier" 10 11,
     leafAt 4 "jsx_text" 11 17]

/-- The same without the comment and with less space. -/
def tightTree : Tree :=
  .node (.inRow 0 "jsx_element" "" true 0 9)
    [leafAt 1 "new" 0 3, leafAt 2 "identifier" 4 5, leafAt 3 "jsx_text" 5 9]

/-- The text of `spaciousTree`. -/
def spaciousSource : Source where
  text := "new /*c*/ A y  z "
  tree := some spaciousTree

/-- The text of `tightTree`. -/
def tightSource : Source where
  text := "new A y z"
  tree := some tightTree

/-- The comment and the further blanks are not seen; of the spaces that stay, two keep words apart
and one belongs to the markup text. -/
theorem normalized_layout_comment :
    spaciousTree.Substantial ∧ tightTree.Substantial ∧ spaciousTree.Consecutive ∧
      spaciousSource.outlines (Tree.uncommentedAll [spaciousTree]) =
        tightSource.outlines (Tree.uncommentedAll [tightTree]) ∧
      spaciousSource.normalized spaciousTree = tightSource.normalized tightTree ∧
      spaciousSource.normalized spaciousTree = "new A y z" ∧
      (freeTokens spaciousTree).Pairwise fun first second =>
        first.label.stop ≤ second.label.start := by
  have hspacious : spaciousTree.Substantial := by
    unfold Tree.Substantial
    decide +kernel
  have htight : tightTree.Substantial := by
    unfold Tree.Substantial
    decide +kernel
  have hconsecutive : spaciousTree.Consecutive := by
    unfold Tree.Consecutive
    decide +kernel
  have houtlines : spaciousSource.outlines (Tree.uncommentedAll [spaciousTree]) =
      tightSource.outlines (Tree.uncommentedAll [tightTree]) := by rfl
  -- The two trees differ in a comment and in the positions of their tokens only.
  obtain ⟨hsame, htext, horder⟩ :=
    normalized_layout spaciousSource tightSource spaciousTree tightTree
  refine ⟨hspacious, htight, hconsecutive, houtlines, hsame hspacious htight houtlines, ?_,
    horder hconsecutive⟩
  rw [htext]
  decide +kernel

end Source

end ChangeLens
