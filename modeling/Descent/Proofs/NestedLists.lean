import Descent.Proofs.Correspondence.Grammar
import Descent.Proofs.TextReading
import Descent.Grammar.Leaves

/-!
# Nested lists

A grammar of nested lists refers to itself through a deferred parser.  It reads every tree
back from its text, unless some node is enclosed by more lists than deferred parsers may be
open; then it fails where it started.  The lists beside a node do not count.
-/

namespace Descent

inductive NestedTree where
  | leaf
  | node (children : List NestedTree)

namespace NestedTree

/-- What stands between a tree and the ones after it. -/
def gap : List NestedTree → List Char
  | [] => []
  | _ :: _ => [',']

mutual

def chars : NestedTree → List Char
  | .leaf => ['x']
  | .node children => ['['] ++ charsOfAll children ++ [']']

def charsOfAll : List NestedTree → List Char
  | [] => []
  | t :: later => t.chars ++ gap later ++ charsOfAll later

end

def text (t : NestedTree) : String := String.ofList t.chars

mutual

/-- A tree as lists of texts. -/
def value : NestedTree → Value
  | .leaf => .text "x"
  | .node children => .list (valueOfAll children)

def valueOfAll : List NestedTree → List Value
  | [] => []
  | t :: later => t.value :: valueOfAll later

end

/-- Some node of a tree is enclosed by so many of its lists. -/
inductive NodeAt : NestedTree → Nat → Prop
  | root {t : NestedTree} : NodeAt t 0
  | child {t : NestedTree} {children : List NestedTree} {count : Nat} : t ∈ children →
      NodeAt t count → NodeAt (.node children) (count + 1)

/-- Every node of a tree is enclosed by fewer lists. -/
def Fits (room : Nat) (t : NestedTree) : Prop := ∀ count, t.NodeAt count → count < room

theorem not_fits_zero (t : NestedTree) : ¬t.Fits 0 := fun fits => Nat.not_lt_zero 0 (fits 0 .root)

theorem fits_leaf (room : Nat) : leaf.Fits (room + 1) := by
  rintro _ ⟨⟩
  exact Nat.succ_pos room

theorem fits_node {room : Nat} {children : List NestedTree} :
    (node children).Fits (room + 1) ↔ ∀ t ∈ children, t.Fits room := by
  constructor
  · intro fits t member count there
    exact Nat.lt_of_succ_lt_succ (fits (count + 1) (.child member there))
  · intro fits count there
    cases there with
    | root => exact Nat.succ_pos room
    | child member there => exact Nat.succ_lt_succ (fits _ member _ there)

theorem chars_ne_nil (t : NestedTree) : t.chars ≠ [] := by
  cases t <;> simp [chars]

/-- A text begins with the mark of a leaf or of a list. -/
theorem head?_chars (t : NestedTree) (rest : List Char) :
    (t.chars ++ rest).head? ≠ some ']' := by
  cases t <;> simp [chars]

theorem length_le_of_mem {t : NestedTree} {children : List NestedTree} (member : t ∈ children) :
    t.chars.length ≤ (charsOfAll children).length := by
  induction children with
  | nil => cases member
  | cons first later ih =>
      rw [charsOfAll, List.length_append, List.length_append]
      rcases List.mem_cons.mp member with rfl | further
      · omega
      · have within := ih further
        omega

end NestedTree

/-- A list of the elements that the rule stands for, or a leaf. -/
def nestedList (limit : Nat) : Grammar String TextLeaf :=
  .firstOf
    [.between (.exact "[") (.exact "]")
      (.separated (.exact ",")
        (.deferred "V" "V" (Limits.standard.withMaxRecursionDepth limit)) .standard),
     .exact "x"]

def nestedListRules (limit : Nat) : Rules String TextLeaf := [("V", nestedList limit)]

namespace Parser

/-- The parser of one character, as a value. -/
def mark (c : Char) : Parser TextCursor Unit Value := (exact (String.singleton c)).map .text

/-- What stands between the brackets of a list. -/
def elements (inner : Parser TextCursor Unit Value) : Parser TextCursor Unit Value :=
  (separated (mark ',') inner .standard).map .list

/-- A list of what a parser reads, or a leaf. -/
def element (inner : Parser TextCursor Unit Value) : Parser TextCursor Unit Value :=
  firstOf [between (mark '[') (mark ']') (elements inner), mark 'x']

/-- The deferred parser of elements, in which deferred parsers can be opened up to the given
number of levels. -/
def deferredElement (limit levels : Nat) : Parser TextCursor Unit Value :=
  deferred "V" limit fun _ => (nestedListRules limit).deferred levels "V"

theorem parser_nestedList (limit : Nat) :
    (nestedList limit).parser (nestedListRules limit) =
      (⟨element (deferredElement limit limit), []⟩ : Logged (Parser TextCursor Unit Value)) := by
  have levels : Grammar.levels (nestedListRules limit) (nestedList limit) = limit := by
    simp [Grammar.levels, nestedListRules, Rules.depthLimit, nestedList, Grammar.depthLimit,
      Grammar.depthLimitOfAll, Limits.withMaxRecursionDepth]
  rw [Grammar.parser, levels]
  rfl

theorem nestedListRules_deferred (limit levels : Nat) :
    (nestedListRules limit).deferred (levels + 1) "V" =
      (⟨element (deferredElement limit levels), []⟩ : Logged (Parser TextCursor Unit Value)) :=
  rfl

open NestedTree (gap charsOfAll valueOfAll)

/-- While so many further lists may be opened, a parser reads the trees that fit, and nothing
else. -/
structure ReadsTrees (p : Parser TextCursor Unit Value) (context : Context Unit) (room : Nat) :
    Prop where
  reads : ∀ {t : NestedTree}, t.Fits room → t.chars.length ≤ Limits.unlimited →
    ∀ rest, p.Reads context t.chars t.value rest
  misses : ∀ {t : NestedTree}, ¬t.Fits room → t.chars.length ≤ Limits.unlimited →
    ∀ rest, p.Misses context (t.chars ++ rest)
  closes : ∀ rest, p.Misses context (']' :: rest)

variable {context : Context Unit} {inner : Parser TextCursor Unit Value} {room : Nat}

theorem mark_reads (c : Char) (rest : List Char) :
    (mark c).Reads context [c] (.text (String.singleton c)) rest :=
  (exact_char_reads c rest).map _

theorem mark_misses {c : Char} {unread : List Char} (other : unread.head? ≠ some c) :
    (mark c).Misses context unread :=
  (exact_char_misses other).map _

/-- After a tree the parser of commas reads what stands between it and the next one. -/
theorem gap_reads (context : Context Unit) (later : List NestedTree) (rest : List Char) :
    ∃ value, (mark ',').optional.Reads context (gap later) value
      (charsOfAll later ++ ']' :: rest) := by
  cases later with
  | nil =>
      have noComma : (mark ',').Misses context (']' :: rest) :=
        mark_misses (by simp)
      exact ⟨none, noComma.optional⟩
  | cons => exact ⟨_, (mark_reads ',' _).optional⟩

/-- The first tree of a row, with the comma after it. -/
theorem ReadsTrees.first (trees : ReadsTrees inner context room) {t : NestedTree}
    {later : List NestedTree} (fits : t.Fits room) (short : t.chars.length ≤ Limits.unlimited)
    (rest : List Char) :
    (delimited (mark ',') inner).Reads context (t.chars ++ gap later) t.value
      (charsOfAll later ++ ']' :: rest) := by
  obtain ⟨value, delimits⟩ := gap_reads context later rest
  exact (trees.reads fits short _).delimited delimits t.chars_ne_nil

/-- A row of trees that all fit is read to its end. -/
theorem ReadsTrees.row (trees : ReadsTrees inner context room) {children : List NestedTree}
    (fits : ∀ t ∈ children, t.Fits room)
    (short : ∀ t ∈ children, t.chars.length ≤ Limits.unlimited) (rest : List Char) :
    (delimited (mark ',') inner).ReadsRow context (']' :: rest) (charsOfAll children)
      (valueOfAll children) := by
  induction children with
  | nil => exact .done ((trees.closes rest).delimited _)
  | cons t later ih =>
      obtain ⟨firstFits, laterFit⟩ := List.forall_mem_cons.mp fits
      obtain ⟨firstShort, laterShort⟩ := List.forall_mem_cons.mp short
      have some : t.chars ++ gap later ≠ [] := by simp [t.chars_ne_nil]
      exact .next some (trees.first firstFits firstShort rest) (ih laterFit laterShort)

/-- A row is read up to the first tree that does not fit, and no bracket closes it there. -/
theorem ReadsTrees.row_stops (trees : ReadsTrees inner context room)
    {children : List NestedTree} (exceeds : ∃ t ∈ children, ¬t.Fits room)
    (short : ∀ t ∈ children, t.chars.length ≤ Limits.unlimited) (rest : List Char) :
    ∃ read left values, charsOfAll children = read ++ left ∧
      (delimited (mark ',') inner).ReadsRow context (left ++ ']' :: rest) read values ∧
      (left ++ ']' :: rest).head? ≠ some ']' := by
  induction children with
  | nil => obtain ⟨_, ⟨⟩, _⟩ := exceeds
  | cons t later ih =>
      obtain ⟨firstShort, laterShort⟩ := List.forall_mem_cons.mp short
      by_cases fits : t.Fits room
      · have further : ∃ t ∈ later, ¬t.Fits room := by
          obtain ⟨u, member, exceeding⟩ := exceeds
          rcases List.mem_cons.mp member with rfl | further
          · exact absurd fits exceeding
          · exact ⟨u, further, exceeding⟩
        obtain ⟨read, left, values, split, row, unclosed⟩ := ih further laterShort
        have some : t.chars ++ gap later ≠ [] := by simp [t.chars_ne_nil]
        have first : (delimited (mark ',') inner).Reads context (t.chars ++ gap later) t.value
            (read ++ (left ++ ']' :: rest)) := by
          rw [← List.append_assoc, ← split]
          exact trees.first fits firstShort rest
        refine ⟨t.chars ++ gap later ++ read, left, t.value :: values, ?_,
          .next some first row, unclosed⟩
        rw [charsOfAll, split, ← List.append_assoc]
      · have missed := trees.misses fits firstShort (gap later ++ charsOfAll later ++ ']' :: rest)
        rw [← List.append_assoc, ← List.append_assoc] at missed
        refine ⟨[], charsOfAll (t :: later), [], rfl, .done (missed.delimited _), ?_⟩
        rw [charsOfAll, List.append_assoc, List.append_assoc]
        exact t.head?_chars _

theorem ReadsRow.elements {cs rest : List Char} {values : List Value}
    (row : (delimited (mark ',') inner).ReadsRow context rest cs values)
    (short : cs.length ≤ Limits.unlimited) :
    (Parser.elements inner).Reads context cs (.list values) rest := by
  have enough : values.length ≤ Limits.standard.maxRepetitions := row.length_le.trans short
  exact (row.many rfl enough "SEPARATED").map Value.list

theorem ReadsTrees.bracketed (trees : ReadsTrees inner context room) {children : List NestedTree}
    (fits : ∀ t ∈ children, t.Fits room) (short : (charsOfAll children).length ≤ Limits.unlimited)
    (rest : List Char) :
    (between (mark '[') (mark ']') (elements inner)).Reads context
      (NestedTree.node children).chars (NestedTree.node children).value rest := by
  have each : ∀ t ∈ children, t.chars.length ≤ Limits.unlimited :=
    fun _ member => (NestedTree.length_le_of_mem member).trans short
  exact (mark_reads '[' _).between ((trees.row fits each rest).elements short)
    (mark_reads ']' rest) (List.cons_ne_nil _ _)

/-- A list with an element that does not fit is not closed where the parser expects it. -/
theorem ReadsTrees.bracketed_misses (trees : ReadsTrees inner context room)
    {children : List NestedTree} (exceeds : ∃ t ∈ children, ¬t.Fits room)
    (short : (charsOfAll children).length ≤ Limits.unlimited) (rest : List Char) :
    (between (mark '[') (mark ']') (elements inner)).Misses context
      ((NestedTree.node children).chars ++ rest) := by
  have each : ∀ t ∈ children, t.chars.length ≤ Limits.unlimited :=
    fun _ member => (NestedTree.length_le_of_mem member).trans short
  obtain ⟨read, left, values, split, row, unclosed⟩ := trees.row_stops exceeds each rest
  have brief : read.length ≤ Limits.unlimited := by
    rw [split, List.length_append] at short
    omega
  have text : (NestedTree.node children).chars ++ rest =
      ['['] ++ read ++ (left ++ ']' :: rest) := by
    simp only [NestedTree.chars, split, List.append_assoc, List.cons_append, List.nil_append]
  rw [text]
  exact (mark_reads '[' _).between_misses (row.elements brief) (mark_misses unclosed)

theorem alternatives_miss {unread : List Char}
    (noList : (between (mark '[') (mark ']') (elements inner)).Misses context unread)
    (noLeaf : unread.head? ≠ some 'x') :
    ∀ q ∈ [between (mark '[') (mark ']') (elements inner), mark 'x'], q.Misses context unread :=
  List.forall_mem_cons.mpr ⟨noList, List.forall_mem_singleton.mpr (mark_misses noLeaf)⟩

/-- In front of a tree that does not fit, the choice fails where it stands. -/
theorem ReadsTrees.refuses (trees : ReadsTrees inner context room) {t : NestedTree}
    (exceeds : ¬t.Fits (room + 1)) (short : t.chars.length ≤ Limits.unlimited)
    (rest read : List Char) :
    ((element inner).parse (.onText read (t.chars ++ rest))).Yields context
      (.failure ⟨"no alternative matched", ["BETWEEN OR EXACT \"x\""],
        .onText read (t.chars ++ rest)⟩) := by
  cases t with
  | leaf => exact absurd (NestedTree.fits_leaf room) exceeds
  | node children =>
      have within : (charsOfAll children).length ≤ Limits.unlimited := by
        simp only [NestedTree.chars, List.length_append] at short
        omega
      have some : ∃ t ∈ children, ¬t.Fits room := by
        rw [NestedTree.fits_node] at exceeds
        simpa using exceeds
      have refused := firstOf_refuses (alternatives_miss (trees.bracketed_misses some within rest)
        (by simp [NestedTree.chars])) read
      rw [if_neg (by simp [NestedTree.chars])] at refused
      exact refused

/-- A list of what a parser reads, or a leaf, takes room for one list more. -/
theorem ReadsTrees.element (trees : ReadsTrees inner context room) :
    ReadsTrees (Parser.element inner) context (room + 1) where
  reads {t} fits short rest := by
    cases t with
    | leaf =>
        have noList : (between (mark '[') (mark ']') (elements inner)).Misses context
            ('x' :: rest) := (mark_misses (by simp)).between _ _
        exact (mark_reads 'x' rest).firstOf (List.cons_ne_nil _ _) _
          (List.forall_mem_singleton.mpr noList) []
    | node children =>
        have within : (charsOfAll children).length ≤ Limits.unlimited := by
          simp only [NestedTree.chars, List.length_append] at short
          omega
        exact (trees.bracketed (NestedTree.fits_node.mp fits) within rest).firstOf
          (List.cons_ne_nil _ _) [] (List.forall_mem_nil _) _
  misses exceeds short rest read := ⟨_, trees.refuses exceeds short rest read⟩
  closes rest :=
    Misses.firstOf (alternatives_miss ((mark_misses (by simp)).between _ _) (by simp))

theorem deferredElement_reads {limit opened : Nat} (levels : Nat)
    (enough : limit = opened + room) (covered : room ≤ levels) :
    ReadsTrees (deferredElement limit levels) ⟨(), opened⟩ room := by
  induction room generalizing opened levels with
  | zero =>
      have full : limit ≤ opened := Nat.le_of_eq enough
      exact ⟨fun fits => absurd fits (NestedTree.not_fits_zero _),
        fun _ _ _ => deferred_misses full, fun _ => deferred_misses full⟩
  | succ room ih =>
      obtain ⟨levels, rfl⟩ := Nat.exists_eq_add_of_le' (Nat.le_of_add_left_le covered)
      have below : opened < limit := by omega
      have trees : ((nestedListRules limit).deferred (levels + 1) "V" :
          Logged (Parser TextCursor Unit Value)).value.ReadsTrees ⟨(), opened + 1⟩ (room + 1) := by
        rw [nestedListRules_deferred]
        exact (ih levels (by omega) (by omega)).element
      exact ⟨fun fits short rest => (trees.reads fits short rest).deferred below,
        fun exceeds short rest => (trees.misses exceeds short rest).deferred below,
        fun rest => (trees.closes rest).deferred below⟩

end Parser

/-- The parse of a text as nested lists. -/
def parseNestedList (limit : Nat) (text : String) : Run Unit (Outcome TextCursor Value) :=
  (nestedList limit).parse (nestedListRules limit) (TextCursor.start text .standard)

theorem parseNestedList_yields {limit : Nat} {text : String} {cs : List Char}
    {context : Context Unit} {outcome : Outcome TextCursor Value} (spelled : text.toList = cs)
    (yields : ((Parser.element (Parser.deferredElement limit limit)).parse
      (.onText [] cs)).Yields context outcome) :
    (parseNestedList limit text).Yields context outcome := by
  rw [parseNestedList, TextCursor.start_eq_onText spelled, Grammar.parse,
    Parser.parser_nestedList]
  exact (Run.Settles.adopt _).bind yields

/-- The parser of nested lists reads every tree back whose nodes are enclosed by no more lists
than the limit allows, and fails at the start of any other. -/
theorem nestedList_reads_back (limit : Nat) {t : NestedTree}
    (short : t.text.utf8ByteSize ≤ Limits.unlimited) :
    ((∀ count, t.NodeAt count → count ≤ limit) →
      (parseNestedList limit t.text).Yields ⟨(), 0⟩
        (.success t.value (.finish t.text .standard))) ∧
    ((∃ count, t.NodeAt count ∧ limit < count) →
      (parseNestedList limit t.text).Yields ⟨(), 0⟩
        (.failure ⟨"no alternative matched", ["BETWEEN OR EXACT \"x\""],
          TextCursor.start t.text .standard⟩)) := by
  have spelled : t.text.toList = t.chars := String.toList_ofList
  have fits : t.chars.length ≤ Limits.unlimited := by
    rw [← spelled]
    exact TextCursor.length_le_unlimited short
  have elements : (Parser.deferredElement limit limit).ReadsTrees ⟨(), 0⟩ limit :=
    Parser.deferredElement_reads limit (Nat.zero_add limit).symm (Nat.le_refl _)
  constructor
  · intro within
    have reads := elements.element.reads
      (fun count there => Nat.lt_succ_of_le (within count there)) fits [] []
    rw [List.append_nil] at reads
    rw [TextCursor.finish_eq_onText spelled]
    exact parseNestedList_yields spelled reads
  · rintro ⟨count, there, exceeds⟩
    have unfit : ¬t.Fits (limit + 1) := by
      intro fits
      have within := fits count there
      omega
    have refused := elements.refuses unfit fits [] []
    rw [List.append_nil] at refused
    rw [TextCursor.start_eq_onText spelled]
    exact parseNestedList_yields spelled refused

/-- A list of a list and an empty list, with a leaf that two lists enclose. -/
theorem nestedList_reads_back_pair :
    let t : NestedTree := .node [.node [.leaf], .node []]
    t.text = "[[x],[]]" ∧ t.text.utf8ByteSize ≤ Limits.unlimited ∧
      (parseNestedList 2 "[[x],[]]").Yields ⟨(), 0⟩
        (.success (.list [.list [.text "x"], .list []]) ⟨"[[x],[]]", 8, .standard, by decide⟩) ∧
      (parseNestedList 1 "[[x],[]]").Yields ⟨(), 0⟩
        (.failure ⟨"no alternative matched", ["BETWEEN OR EXACT \"x\""],
          TextCursor.start "[[x],[]]" .standard⟩) := by
  intro t
  have text : t.text = "[[x],[]]" := by decide
  have short : t.text.utf8ByteSize ≤ Limits.unlimited := by
    rw [text]
    decide
  have fits : t.Fits 3 := by
    simp [t, NestedTree.fits_node, NestedTree.fits_leaf]
  have deep : t.NodeAt 2 := .child List.mem_cons_self (.child List.mem_cons_self .root)
  have reads := (nestedList_reads_back 2 short).1
    fun count there => Nat.le_of_lt_succ (fits count there)
  have refuses := (nestedList_reads_back 1 short).2 ⟨2, deep, by decide⟩
  rw [text] at reads refuses
  exact ⟨text, short, reads, refuses⟩

end Descent
