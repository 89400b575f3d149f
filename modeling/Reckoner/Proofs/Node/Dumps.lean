import Reckoner.Proofs.Console.Plain
import Reckoner.Proofs.Node.Levels
import Reckoner.Proofs.Number.Literal
import Reckoner.Proofs.Text.Lines

/-! # Reading a dump

A line of a dump tells the depth of its node by how far it is indented, and its label and span. The
lines after it that are further in are those of the trees below it, so the tree is found again from
the lines alone. Two kinds of nodes may share a label: a reference to `function` is told from a call
by having nothing below it.
-/
namespace Reckoner

namespace Node
variable {η : Type}

/-! ## Lines -/

/-- What a line tells about its node. -/
structure Entry where
  depth : Nat
  label : Text
  span : Option Span

def Entry.of (a : Nat × Node η) : Entry := ⟨a.1, a.2.label, a.2.span⟩

def leading (text : Text) : Nat := Nat.ofDigitChars 10 (text.takeWhile Text.isDigit) 0

/-- Reads a line: two blanks for each step in, the label up to the blank before the bracket, and the
two ends of the span with two points between them. -/
def Entry.ofLine (line : Text) : Entry :=
  let body := line.dropWhile (· == ' ')
  let range := (body.dropWhile (· != '[')).drop 1
  ⟨(line.takeWhile (· == ' ')).length / 2, (body.takeWhile (· != '[')).dropLast,
    some ⟨leading range, leading ((range.dropWhile Text.isDigit).drop 2)⟩⟩

/-- A label that can be found in its line, and the line in its dump. -/
structure Findable (label : Text) : Prop where
  head : label.head?.any (· != ' ') = true
  plain : ∀ c ∈ label, c ≠ '[' ∧ c ≠ '\n'

theorem findable_of {label : Text} (hne : label ≠ [])
    (h : ∀ c ∈ label, c ≠ ' ' ∧ c ≠ '[' ∧ c ≠ '\n') : Findable label := by
  cases label with
  | nil => exact absurd rfl hne
  | cons c rest => exact ⟨bne_iff_ne.mpr (h c List.mem_cons_self).1, fun d hd => (h d hd).2⟩

theorem findable_name {w : Text} (h : Text.isName w = true) : Findable w := by
  refine findable_of (by rintro rfl; cases h) fun c hc => ?_
  have hp := Text.isNamePart_of_isName h c hc
  refine ⟨?_, ?_, ?_⟩ <;>
    · rintro rfl
      exact absurd hp (by decide)

theorem findable_number {x : Float} (h : x.isFinite = true) : Findable (Written.number x) := by
  obtain ⟨c, hc, -⟩ := Written.exists_mark h
  have ha : ∀ c ∈ Written.alphabet, c ≠ ' ' ∧ c ≠ '[' ∧ c ≠ '\n' := Text.forall_of_all (by decide)
  exact findable_of (List.ne_nil_of_mem hc) fun c hc => ha c (Written.number_subset x hc)

theorem findable_label {node : Node η} (h : ∀ v span, node ≠ .value v span) :
    Findable node.label := by
  cases node with
  | value v span => exact absurd rfl (h v span)
  | binary op left right span =>
    change Findable (operatorLabel op)
    cases op <;> exact ⟨rfl, Text.forall_of_all (by decide)⟩
  | negate operand span =>
    change Findable negateLabel
    exact ⟨rfl, Text.forall_of_all (by decide)⟩
  | call callee arguments span =>
    change Findable "function".toList
    exact ⟨rfl, Text.forall_of_all (by decide)⟩

theorem leading_ofNat (n : Nat) (rest : Text) (hr : ∀ c ∈ rest.head?, Text.isDigit c = false) :
    leading (Text.ofNat n ++ rest) = n ∧ (Text.ofNat n ++ rest).dropWhile Text.isDigit = rest := by
  obtain ⟨ht, hd⟩ := Text.takeWhile_append_stop (Text.isDigit_ofNat n) hr
  rw [leading, ht, hd]
  exact ⟨Nat.ofDigitChars_toDigits (by decide) (by decide), rfl⟩

theorem Findable.starts {label : Text} (h : Findable label) (rest : Text) :
    ∀ c ∈ (label ++ rest).head?, (c == ' ') = false := by
  cases label with
  | nil => cases h.head
  | cons c label =>
    rintro d ⟨⟩
    simpa using h.head

theorem Findable.unbracketed {label : Text} (h : Findable label) :
    ∀ c ∈ label ++ [' '], (c != '[') = true := by
  intro c hc
  rcases List.mem_append.mp hc with hc | hc
  · exact bne_iff_ne.mpr (h.plain c hc).1
  · rw [List.mem_singleton.mp hc]
    rfl

theorem ofLine_eq {label : Text} (hl : Findable label) (depth : Nat) (span : Span) :
    Entry.ofLine (List.replicate (2 * depth) ' ' ++
      (label ++ [' '] ++ '[' :: (span.written ++ [']']))) = ⟨depth, label, some span⟩ := by
  have hblanks : ∀ c ∈ List.replicate (2 * depth) ' ', (c == ' ') = true := by simp
  have hbracket : ∀ c ∈ ('[' :: (span.written ++ [']'])).head?, (c != '[') = false := by simp
  have hw : span.written ++ [']'] =
      Text.ofNat span.start ++ '.' :: '.' :: (Text.ofNat span.stop ++ [']']) := by
    simp [Span.written]
  have hfirst := hl.starts ([' '] ++ '[' :: (span.written ++ [']']))
  rw [← List.append_assoc] at hfirst
  obtain ⟨hindent, hbody⟩ := Text.takeWhile_append_stop hblanks hfirst
  obtain ⟨hlabel, hrange⟩ := Text.takeWhile_append_stop hl.unbracketed hbracket
  obtain ⟨hstart, hpoints⟩ := leading_ofNat span.start
    ('.' :: '.' :: (Text.ofNat span.stop ++ [']'])) (by rintro c ⟨⟩; rfl)
  obtain ⟨hstop, -⟩ := leading_ofNat span.stop [']'] (by rintro c ⟨⟩; rfl)
  simp only [Entry.ofLine, hindent, hbody, hlabel, hrange, List.length_replicate,
    List.dropLast_concat, List.drop_succ_cons, List.drop_zero]
  rw [hw, hstart, hpoints, List.drop_succ_cons, List.drop_succ_cons, List.drop_zero, hstop,
    Nat.mul_div_cancel_left depth (by decide)]

theorem ofLine_line {node : Node η} {span : Span} (hs : node.span = some span)
    (hl : Findable node.label) (depth : Nat) :
    Entry.ofLine (line depth node) = Entry.of (depth, node) := by
  have he : Entry.of (depth, node) = ⟨depth, node.label, some span⟩ := by rw [← hs]; rfl
  rw [he, ← ofLine_eq hl depth span]
  simp [line, hs]

theorem line_plain {node : Node η} {span : Span} (hs : node.span = some span)
    (hl : Findable node.label) (depth : Nat) : ∀ c ∈ line depth node, (c == '\n') = false := by
  have hspan : ∀ c ∈ span.written, c ≠ '\n' := by
    intro c hc
    rw [Span.written, List.mem_append, List.mem_append] at hc
    rcases hc with (hc | hc) | hc
    · exact Text.plain_ofNat _ c hc
    · rintro rfl
      exact absurd hc (by decide)
    · exact Text.plain_ofNat _ c hc
  intro c hc
  simp only [line, hs, List.mem_append, List.mem_replicate] at hc
  apply beq_false_of_ne
  rcases hc with (hc | hc) | (hc | hc) | hc
  · rw [hc.2]
    decide
  · exact (hl.plain c hc).2
  · rintro rfl
    exact absurd hc (by decide)
  · exact hspan c hc
  · rw [List.mem_singleton.mp hc]
    decide

/-! ## Trees -/

def operator? (label : Text) : Option Operator :=
  [.plus, .minus, .times, .divide].find? fun op => operatorLabel op == label

def leaf (read : Text → Float) (label : Text) : Value η :=
  if Text.isName label then .reference label else .number (read label)

/-- The node with a label and a span that has these nodes below it. -/
def assemble (read : Text → Float) (label : Text) (span : Option Span) : List (Node η) → Node η
  | [] => .value (leaf read label) span
  | first :: rest =>
    match operator? label, rest with
    | some op, second :: _ => .binary op first second span
    | _, _ => if label = negateLabel then .negate first span else .call first rest span

/-- The trees whose lines are listed. A tree goes on as long as the lines are further in than the
line of its root. -/
def grow (read : Text → Float) : List Entry → List (Node η)
  | [] => []
  | e :: rest =>
    assemble read e.label e.span (grow read (rest.takeWhile fun f => e.depth < f.depth)) ::
      grow read (rest.dropWhile fun f => e.depth < f.depth)
termination_by entries => entries.length
decreasing_by
  · exact Nat.lt_succ_of_le (List.takeWhile_prefix _).length_le
  · exact Nat.lt_succ_of_le (List.dropWhile_suffix _).length_le

/-- The tree that is dumped as a text. -/
def ofDump? (read : Text → Float) (text : Text) : Option (Node η) :=
  (grow read ((Text.lines text).map Entry.ofLine)).head?

section Reading
variable {read : Text → Float}

/-- A node whose line tells what it is. -/
structure Told (read : Text → Float) (node : Node η) : Prop where
  located : ∃ span, node.span = some span
  findable : Findable node.label
  value : ∀ v span, node = .value v span → leaf read v.written = v

theorem leaf_name {w : Text} (h : Text.isName w = true) :
    leaf read w = (.reference w : Value η) := if_pos h

theorem leaf_number {x : Float} (h : x.isFinite = true) (hr : read (Written.number x) = x) :
    leaf read (Written.number x) = (.number x : Value η) := by
  rw [leaf, Written.isName_number h, if_neg Bool.false_ne_true, hr]

theorem assemble_children {node : Node η} (h : node.Told read) :
    assemble read node.label node.span node.children = node := by
  cases node with
  | value v span => exact congrArg (Node.value · span) (h.value v span rfl)
  | binary op left right span => cases op <;> rfl
  | negate operand span => rfl
  | call callee arguments span => cases arguments <;> rfl

theorem grow_placedAll (depth : Nat) {nodes : List (Node η)}
    (h : ∀ n ∈ preorderAll nodes, n.Told read) :
    grow read ((placedAll depth nodes).map Entry.of) = nodes := by
  induction hs : sizeAll nodes using Nat.strongRecOn generalizing depth nodes with
  | ind size ih =>
    cases nodes with
    | nil => rw [placedAll, List.map_nil, grow]
    | cons n ns =>
      rw [preorderAll, n.preorder_eq, List.cons_append, List.forall_mem_cons,
        List.forall_mem_append] at h
      obtain ⟨hn, hbelow, hnext⟩ := h
      rw [sizeAll, n.size_eq] at hs
      -- the lines of the children are further in, and the next tree starts no further in
      have hdeeper : ∀ e ∈ (placedAll (depth + 1) n.children).map Entry.of,
          decide (depth < e.depth) = true := by
        intro e he
        obtain ⟨a, ha, rfl⟩ := List.mem_map.mp he
        rw [placedAll_eq_flatMap] at ha
        obtain ⟨m, -, ha⟩ := List.mem_flatMap.mp ha
        exact decide_eq_true (placed_depth ha)
      have hstop : ∀ e ∈ ((placedAll depth ns).map Entry.of).head?,
          decide (depth < e.depth) = false := by
        cases ns with
        | nil => rintro e ⟨⟩
        | cons m ns =>
          rw [placedAll, placed_eq]
          rintro e ⟨⟩
          exact decide_eq_false (Nat.lt_irrefl depth)
      obtain ⟨ht, hd⟩ := Text.takeWhile_append_stop hdeeper hstop
      rw [placedAll, placed_eq, List.cons_append, List.map_cons, List.map_append, grow]
      change assemble read n.label n.span (grow read (List.takeWhile (fun f => depth < f.depth) _))
        :: grow read (List.dropWhile (fun f => depth < f.depth) _) = _
      rw [ht, hd, ih _ (by omega) (depth + 1) hbelow rfl, ih _ (by omega) depth hnext rfl,
        assemble_children hn]

theorem mem_preorder_of_placed {depth : Nat} {node : Node η} {a : Nat × Node η}
    (h : a ∈ node.placed depth) : a.2 ∈ node.preorder := by
  rw [← node.map_snd_placed depth]
  exact List.mem_map_of_mem h

/-- The lines of a dump are those of the nodes in preorder. -/
theorem lines_dump {root : Node η} (h : ∀ n ∈ root.preorder, n.Told read) :
    Text.lines root.dump = (root.placed 0).map fun a => line a.1 a.2 := by
  have hne : (root.placed 0).map (fun a => line a.1 a.2) ≠ [] := by
    rw [placed_eq]
    exact List.cons_ne_nil _ _
  rw [dump, dumpLines_eq, Text.lines, Text.splitAt_eq_splitOnP, Text.joined]
  refine List.splitOn_intercalate '\n' (fun l hl hm => ?_) hne
  obtain ⟨a, ha, rfl⟩ := List.mem_map.mp hl
  obtain ⟨⟨span, hs⟩, hf, -⟩ := h a.2 (mem_preorder_of_placed ha)
  exact absurd (line_plain hs hf a.1 '\n' hm) (by decide)

theorem ofDump?_dump {root : Node η} (h : ∀ n ∈ root.preorder, n.Told read) :
    ofDump? read root.dump = some root := by
  have he : ((root.placed 0).map fun a => line a.1 a.2).map Entry.ofLine =
      (placedAll 0 [root]).map Entry.of := by
    rw [List.map_map, placedAll, placedAll, List.append_nil]
    refine List.map_congr_left fun a ha => ?_
    obtain ⟨⟨span, hs⟩, hf, -⟩ := h a.2 (mem_preorder_of_placed ha)
    exact ofLine_line hs hf a.1
  rw [ofDump?, lines_dump h, he, grow_placedAll 0]
  · rfl
  · rw [preorderAll, preorderAll, List.append_nil]
    exact h

end Reading

end Node

end Reckoner
