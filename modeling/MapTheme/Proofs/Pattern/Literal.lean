/-
  MapTheme.Proofs.Pattern.Literal — the source of a literal text accepts that text and no other.

  A character that means something in a pattern stands behind a backslash there, and so each character is read as
  the set of itself (`read_literalChar`). The anchored source is read as: the start of the text, the characters one
  after the other, the end of the text (`read?_anchored_literal`). Such a tree is found in the text itself alone
  (`foundIn_wholeLiteral`).
-/

import MapTheme.Filter.Writing
import MapTheme.Pattern.Everything

namespace MapTheme.Pattern

open Unicode (CharSet)

/-! ## Reading -/

def literalChar (c : Char) : List Char := if isMeta c then ['\\', c] else [c]

theorem toList_literalSource (s : String) : (literalSource s).toList = s.toList.flatMap literalChar :=
  String.toList_ofList

/-- The flags inside the anchors. -/
def dotAllFlags : Flags := { dotAll := true }

def charNode (c : Char) : Node := .chars (CharSet.single c)

/-- The characters of a literal, as a sequence that has been read. -/
def literalElements (cs : List Char) : List Element := cs.reverse.map fun c => .node ⟨charNode c, 0⟩

theorem readEscape?_of_isMeta (f : Flags) {c : Char} (h : isMeta c = true) (r : List Char) :
    readEscape? f (c :: r) = some (.char c false, r) := by
  simp [isMeta] at h
  rcases h with rfl | rfl | rfl | rfl | rfl | rfl | rfl | rfl | rfl | rfl | rfl | rfl | rfl | rfl | rfl | rfl | rfl |
    rfl <;> rfl

section Steps

variable {fuel : Nat} {names : List (List Char)} {branches : List (Sized Node)} {elements : List Element}

theorem read_meta {c : Char} (h : isMeta c = true) (r : List Char) :
    readExpression? (fuel + 1) dotAllFlags names branches elements ('\\' :: c :: r) =
      readExpression? fuel dotAllFlags names branches (.node ⟨charNode c, 0⟩ :: elements) r := by
  show (readEscape? dotAllFlags (c :: r)).bind _ = _
  rw [readEscape?_of_isMeta dotAllFlags h r]
  rfl

theorem read_plain {c : Char} (h : isMeta c = false) (r : List Char) :
    readExpression? (fuel + 1) dotAllFlags names branches elements (c :: r) =
      readExpression? fuel dotAllFlags names branches (.node ⟨charNode c, 0⟩ :: elements) r := by
  have hskip : skip dotAllFlags (c :: r) = c :: r := rfl
  rw [readExpression?]
  simp only [hskip]
  split
  case h_14 heq =>
    cases heq
    rfl
  -- Every other case is one of a character with a meaning.
  all_goals
    rename_i heq
    cases heq
    try exact absurd h (by decide)

theorem read_literalChar (c : Char) (r : List Char) :
    readExpression? (fuel + 1) dotAllFlags names branches elements (literalChar c ++ r) =
      readExpression? fuel dotAllFlags names branches (.node ⟨charNode c, 0⟩ :: elements) r := by
  unfold literalChar
  split
  · rename_i h
    exact read_meta h r
  · rename_i h
    exact read_plain (Bool.eq_false_iff.mpr h) r

/-- A literal text is read character by character. -/
theorem read_literal (cs r : List Char) :
    readExpression? (cs.length + fuel) dotAllFlags names branches elements (cs.flatMap literalChar ++ r) =
      readExpression? fuel dotAllFlags names branches (literalElements cs ++ elements) r := by
  induction cs generalizing elements with
  | nil => simp [literalElements]
  | cons c cs ih =>
    have hfuel : (c :: cs).length + fuel = cs.length + fuel + 1 := by
      rw [List.length_cons]
      omega
    rw [hfuel, List.flatMap_cons, List.append_assoc, read_literalChar, ih]
    simp [literalElements]

/-- A group without flags stands in the sequence as the tree of what is inside. -/
theorem read_group {inside rest : List Char} {tree : Sized Node} {ns : List (List Char)}
    (h : readExpression? fuel dotAllFlags names [] [] inside = some ⟨tree, ns, ')' :: rest⟩) :
    readExpression? (fuel + 1) dotAllFlags names branches elements ('(' :: '?' :: ':' :: inside) =
      readExpression? fuel dotAllFlags ns branches (.node ⟨.group false tree.value, tree.depth + 1⟩ :: elements)
        rest := by
  show (readExpression? fuel dotAllFlags names [] [] inside).bind _ = _
  rw [h]
  rfl

end Steps

/-! ## Depth -/

theorem foldl_max_le {ds : List Nat} {n d : Nat} (hd : d ≤ n) (h : ∀ x ∈ ds, x ≤ n) : ds.foldl max d ≤ n := by
  induction ds generalizing d with
  | nil => exact hd
  | cons x ds ih =>
    exact ih (Nat.max_le.mpr ⟨hd, h x List.mem_cons_self⟩) fun y hy => h y (List.mem_cons_of_mem x hy)

theorem depthOver_le {ds : List Nat} {n : Nat} (h : ∀ x ∈ ds, x ≤ n) : depthOver ds ≤ n + 1 := by
  unfold depthOver
  split
  · exact Nat.zero_le _
  · exact Nat.le_succ_of_le (h _ List.mem_cons_self)
  · exact Nat.succ_le_succ (foldl_max_le (Nat.zero_le n) h)

/-! ## The tree of a literal -/

def literalNode (cs : List Char) : Node := Node.seqAll (cs.map charNode)

/-- The characters, from the start to the end of a text. -/
def wholeLiteral (cs : List Char) : Node :=
  .seq (.assertion .textStart) (.seq (.group false (literalNode cs)) (.assertion .textEnd))

theorem sequenceOf_literalElements (cs : List Char) : (sequenceOf (literalElements cs)).value = literalNode cs := by
  simp [sequenceOf, literalElements, literalNode, List.filterMap_map, Function.comp_def, Element.node?]

theorem depth_literalElements (cs : List Char) : (sequenceOf (literalElements cs)).depth ≤ 1 := by
  refine depthOver_le fun d hd => ?_
  obtain ⟨e, he, rfl⟩ := List.mem_map.mp hd
  obtain ⟨c, -, rfl⟩ := List.mem_map.mp he
  exact Nat.le_refl 0

theorem length_le_flatMap_literalChar (cs : List Char) : cs.length ≤ (cs.flatMap literalChar).length := by
  induction cs with
  | nil => exact Nat.le_refl 0
  | cons c cs ih =>
    have hc : 1 ≤ (literalChar c).length := by
      unfold literalChar
      split <;> simp
    rw [List.flatMap_cons, List.length_append, List.length_cons]
    omega

theorem anchored_eq (source : String) :
    anchored source = ['(', '?', 's', ')', '^', '(', '?', ':'] ++ source.toList ++ [')', '$'] := by
  have hstart : "(?s)^(?:".toList = ['(', '?', 's', ')', '^', '(', '?', ':'] := by decide
  have hend : ")$".toList = [')', '$'] := by decide
  exact (congrArg (· ++ source.toList ++ ")$".toList) hstart).trans (congrArg (_ ++ ·) hend)

theorem anchored_literalSource (s : String) :
    anchored (literalSource s) =
      '(' :: '?' :: 's' :: ')' :: '^' :: '(' :: '?' :: ':' :: (s.toList.flatMap literalChar ++ [')', '$']) := by
  rw [anchored_eq, toList_literalSource, List.append_assoc]
  rfl

/-- The group of a literal, with the end of the text behind it. -/
theorem read_literalGroup {fuel : Nat} (cs : List Char) :
    readExpression? (cs.length + fuel + 1) dotAllFlags [] [] [] (cs.flatMap literalChar ++ [')', '$']) =
      some ⟨sequenceOf (literalElements cs), [], [')', '$']⟩ := by
  rw [Nat.add_assoc, read_literal, List.append_nil]
  rfl

theorem read?_anchored_literal (s : String) : read? (anchored (literalSource s)) = some (wholeLiteral s.toList) := by
  let inner := sequenceOf (literalElements s.toList)
  let elements : List Element := [.node ⟨.assertion .textEnd, 0⟩, .node ⟨.group false inner.value, inner.depth + 1⟩,
    .node ⟨.assertion .textStart, 0⟩, .switch]
  have hread : readExpression? ((anchored (literalSource s)).length + 1) {} [] [] [] (anchored (literalSource s)) =
      some ⟨sequenceOf elements, [], []⟩ := by
    obtain ⟨spare, hspare⟩ := Nat.exists_eq_add_of_le (length_le_flatMap_literalChar s.toList)
    have hfuel : (anchored (literalSource s)).length + 1 = s.toList.length + (spare + 7) + 1 + 3 := by
      rw [anchored_literalSource]
      simp only [List.length_cons, List.length_append, List.length_nil, hspare]
      omega
    rw [hfuel, anchored_literalSource]
    calc readExpression? (s.toList.length + (spare + 7) + 1 + 3) {} [] [] [] _
      _ = readExpression? (s.toList.length + (spare + 7) + 1 + 1) dotAllFlags [] []
            [.node ⟨.assertion .textStart, 0⟩, .switch] _ := rfl
      _ = readExpression? (s.toList.length + (spare + 7) + 1) dotAllFlags [] [] elements.tail ['$'] :=
            read_group (read_literalGroup s.toList)
      _ = some ⟨sequenceOf elements, [], []⟩ := rfl
  have hdepth : (sequenceOf elements).depth ≤ nestingLimit := by
    have hinner : inner.depth ≤ 1 := depth_literalElements s.toList
    have helements : ∀ d ∈ elements.map Element.depth, d ≤ 2 := by
      simp only [elements, List.map_cons, List.map_nil, List.mem_cons, List.not_mem_nil, or_false, Element.depth]
      omega
    exact Nat.le_trans (depthOver_le helements) (by decide)
  have hvalue : (sequenceOf elements).value = wholeLiteral s.toList := by
    rw [wholeLiteral, ← sequenceOf_literalElements]
    rfl
  rw [read?, hread]
  simp [hdepth, hvalue]

/-! ## Matching -/

theorem has_single (c d : Char) : (CharSet.single c).has d = (d == c) := by
  have hsame : d.toNat = c.toNat ↔ d = c := ⟨fun h => Char.toNat_inj.mp h, congrArg Char.toNat⟩
  rw [Bool.eq_iff_iff, beq_iff_eq, ← hsame]
  simp only [CharSet.has, CharSet.single, List.any_cons, List.any_nil, Bool.or_false, Bool.and_eq_true,
    decide_eq_true_eq]
  omega

theorem ends_seqAll_cons (t : Array Char) (n : Node) (ns : List Node) (ps : Places) :
    ends t (Node.seqAll (n :: ns)) ps = ends t (Node.seqAll ns) (ends t n ps) := by
  cases ns with
  | nil => rw [Node.seqAll, Node.seqAll, ends]
  | cons m ns =>
    rw [Node.seqAll, ends]
    exact List.cons_ne_nil m ns

theorem ends_charNode (t : Array Char) (c : Char) (k : Nat) :
    ends t (charNode c) [k] = if t[k]? = some c then [k + 1] else [] := by
  rw [charNode, ends]
  cases hk : t[k]? with
  | none => simp [hk]
  | some d =>
    by_cases hd : d = c
    · simp [hk, has_single, hd]
    · simp [hk, has_single, hd]

theorem ends_literalNode_nil (t : Array Char) (cs : List Char) : ends t (literalNode cs) [] = [] := by
  induction cs with
  | nil => rw [literalNode, List.map_nil, Node.seqAll, ends]
  | cons c cs ih =>
    rw [literalNode, List.map_cons, ends_seqAll_cons, charNode, ends, List.filterMap_nil]
    exact ih

/-- A literal matches the stretch of its characters. -/
theorem ends_literalNode (t : Array Char) (cs : List Char) (k : Nat) :
    ends t (literalNode cs) [k] = if cs.isPrefixOf (t.toList.drop k) then [k + cs.length] else [] := by
  induction cs generalizing k with
  | nil => simp [literalNode, Node.seqAll, ends]
  | cons c cs ih =>
    rw [literalNode, List.map_cons, ends_seqAll_cons, ends_charNode]
    cases hrest : t.toList.drop k with
    | nil =>
      have hnone : t[k]? = none := by
        rw [← Array.getElem?_toList, ← List.head?_drop, hrest]
        rfl
      rw [hnone]
      exact ends_literalNode_nil t cs
    | cons d rest =>
      have hfirst : t[k]? = some d := by
        rw [← Array.getElem?_toList, ← List.head?_drop, hrest]
        rfl
      have hnext : t.toList.drop (k + 1) = rest := by
        rw [← List.tail_drop, hrest]
        rfl
      rw [hfirst, List.isPrefixOf_cons_cons]
      by_cases hc : d = c
      · have hstep := ih (k + 1)
        rw [hnext] at hstep
        rw [if_pos (congrArg some hc), hc, beq_self_eq_true, Bool.true_and, List.length_cons, Nat.add_comm cs.length 1,
          ← Nat.add_assoc]
        exact hstep
      · have hne : (c == d) = false := beq_false_of_ne (Ne.symm hc)
        rw [if_neg (fun h => hc (Option.some.inj h)), hne]
        exact ends_literalNode_nil t cs

/-- A whole literal is found in its own text alone. -/
theorem foundIn_wholeLiteral (cs : List Char) (text : String) :
    (wholeLiteral cs).foundIn text = (cs == text.toList) := by
  let t := text.toList.toArray
  have hends : ends t (wholeLiteral cs) (List.range (t.size + 1)) = if cs = text.toList then [cs.length] else [] := by
    rw [wholeLiteral, ends, ends_textStart, ends, ends, ends, ends_literalNode, List.drop_zero, Nat.zero_add]
    by_cases hprefix : cs <+: text.toList
    · obtain ⟨rest, hrest⟩ := hprefix
      -- The end of the text is behind the characters only if nothing is left.
      cases rest with
      | nil => simp [t, ← hrest, Assertion.holds]
      | cons d rest => simp [t, ← hrest, Assertion.holds]
    · have hne : cs ≠ text.toList := by
        rintro rfl
        exact hprefix (List.prefix_refl _)
      simp [t, hprefix, hne]
  have hfound : (wholeLiteral cs).foundIn text = !(if cs = text.toList then [cs.length] else []).isEmpty := by
    rw [← hends, Node.foundIn]
  rw [hfound]
  by_cases h : cs = text.toList
  · simp [h]
  · simp [h]

/-- The source of a literal text is read as a pattern, which accepts that text and no other. -/
theorem exists_read?_literalSource (s : String) :
    ∃ n, read? (anchored (literalSource s)) = some n ∧ ∀ text, n.foundIn text = (s == text) := by
  refine ⟨_, read?_anchored_literal s, fun text => ?_⟩
  rw [foundIn_wholeLiteral, Bool.eq_iff_iff, beq_iff_eq, beq_iff_eq, String.toList_inj]

end MapTheme.Pattern
