import Reckoner.Proofs.Grammar.Similar
import Reckoner.Proofs.Program.Diagnosis
import Reckoner.Proofs.Run.Steady
import Reckoner.Proofs.Token.Padding

/-! # Layout does not matter

More layout between the tokens of a source changes neither how the source stands nor what it
computes. The program is the same but for its spans, which start and end at the same tokens, and an
error is the same at the same token, at the same character or at the end. Only an exhausted stack is
reported at the start of either source, whatever stands there.
-/
namespace Reckoner
open Token (Reads Covers Stuck Padded)

/-- The tokens at the same place among the tokens of two sources. -/
def Token.Twins (source other : Text) (t t' : Token) : Prop :=
  (t, t') ∈ (scan source).tokens.zip (scan other).tokens

/-- Offsets of the same token of two sources, of the character at which no token starts, or of the
ends. -/
inductive SamePlace (source other : Text) : Nat → Nat → Prop
  | token {t t' : Token} (h : Token.Twins source other t t') :
      SamePlace source other t.start t'.start
  | character {i i' : Nat} (h : (Token.scan source).fault = some i)
      (h' : (Token.scan other).fault = some i') (hc : source[i]? = other[i']?) :
      SamePlace source other i i'
  | ending : SamePlace source other source.length other.length

/-- No token, no unreadable character and no end stands where there is layout at the start. -/
theorem SamePlace.pos {source text : Text} {c : Char} (hc : Blank.isLayout c = true) {i i' : Nat}
    (h : SamePlace source (c :: text) i i') : 0 < i' := by
  obtain ⟨last, rest, hr, he⟩ := Token.exists_reads 1 text
  have hscan : Token.scan (c :: text) = Token.scanFrom 1 0 text := Token.scanFrom_layout hc 0 text
  cases h with
  | token ht =>
    have hm := (List.of_mem_zip ht).2
    rw [hscan] at hm
    exact (hr.mem hm).2.1
  | character hf hf' hchar =>
    rw [hscan] at hf'
    rcases he with ⟨-, hnone⟩ | ⟨-, hlast⟩
    · cases hnone.symm.trans hf'
    · cases hlast.symm.trans hf'
      exact hr.drop.1
  | ending => exact Nat.succ_pos _

namespace Token
variable {source padded : Text}

theorem Padded.scans (h : Padded source padded) :
    List.Forall₂ Alike (scan source).tokens (scan padded).tokens ∧
    ((Covers source (scan source).tokens ∧ Covers padded (scan padded).tokens) ∨
      ∃ i i' rest rest', Reads 0 source (scan source).tokens i rest ∧
        Reads 0 padded (scan padded).tokens i' rest' ∧ Stuck rest ∧ Stuck rest' ∧
        (scan source).fault = some i ∧ (scan padded).fault = some i' ∧
          source[i]? = padded[i']?) := by
  obtain ⟨tokens, tokens', last, last', rest, rest', hr, hr', ha, he⟩ := h.reads 0 0
  rcases he with ⟨rfl, rfl⟩ | ⟨hs, hs', hc⟩
  · have hs : scan source = ⟨tokens, none⟩ := covers_iff.mp hr.covers
    have hs' : scan padded = ⟨tokens', none⟩ := covers_iff.mp hr'.covers
    rw [hs, hs']
    exact ⟨ha, .inl ⟨hr.covers, hr'.covers⟩⟩
  · have hscan {text rest : Text} {tokens : List Token} {last : Nat}
        (hr : Reads 0 text tokens last rest) (hs : Stuck rest) :
        scan text = ⟨tokens, some last⟩ := by
      rw [scan, hr.scanFrom_eq, scanFrom_stuck hs, List.append_nil]
    have hchar {text rest : Text} {tokens : List Token} {last : Nat}
        (hr : Reads 0 text tokens last rest) : text[last]? = rest.head? := by
      rw [hr.drop.2.2, Nat.sub_zero, List.head?_drop]
    rw [hscan hr hs, hscan hr' hs']
    exact ⟨ha, .inr ⟨last, last', rest, rest', hr, hr', hs, hs', rfl, rfl,
      (hchar hr).trans (hc.trans (hchar hr').symm)⟩⟩

theorem Padded.twins (h : Padded source padded) :
    List.Forall₂ (Twins source padded) (scan source).tokens (scan padded).tokens :=
  List.forall₂_iff_zip.mpr ⟨h.scans.1.length_eq, id⟩

theorem Padded.alike (h : Padded source padded) {t t' : Token} (ht : Twins source padded t t') :
    Alike t t' := List.forall₂_zip h.scans.1 ht

end Token

namespace Standing
variable {source padded : Text}

/-- Two sources stand in the same way, at the same place. -/
inductive Matches (source other : Text) : Standing → Standing → Prop
  | sentence {d e : Sentence} (h : d.Similar (Token.Twins source other) e) :
      Matches source other (.sentence d) (.sentence e)
  | unfinished : Matches source other .unfinished .unfinished
  | misplaced {t t' : Token} (h : Token.Twins source other t t') :
      Matches source other (.misplaced t) (.misplaced t')
  | unreadable {i i' : Nat} (h : (Token.scan source).fault = some i)
      (h' : (Token.scan other).fault = some i') (hc : source[i]? = other[i']?) :
      Matches source other (.unreadable i) (.unreadable i')

theorem Holds.of_padded {standing : Standing} (hs : standing.Holds source)
    (hp : Padded source padded) :
    ∃ other : Standing, other.Holds padded ∧ standing.Matches source padded other := by
  obtain ⟨ha, hends⟩ := hp.scans
  have htwins := hp.twins
  cases hs with
  | @sentence d hd =>
    have hscan := Token.covers_iff.mp hd
    rcases hends with ⟨-, hc'⟩ | ⟨i, i', rest, rest', -, -, -, -, hf, -⟩
    · rw [hscan] at htwins
      obtain ⟨e, he, hy⟩ := d.exists_similar (fun t t' ht => (hp.alike ht).1) htwins
      exact ⟨.sentence e, .sentence (hy ▸ hc'), .sentence he⟩
    · rw [hscan] at hf
      cases hf
  | @unfinished tokens hc hv hn =>
    have hscan := Token.covers_iff.mp hc
    rcases hends with ⟨-, hc'⟩ | ⟨i, i', rest, rest', -, -, -, -, hf, -⟩
    · have hk := Token.kinds_eq ha
      rw [hscan] at hk
      exact ⟨.unfinished, .unfinished hc' (hv.of_kinds hk) fun hs => hn (hs.of_kinds hk.symm),
        .unfinished⟩
    · rw [hscan] at hf
      cases hf
  | @misplaced before t last rest hr hv hn =>
    obtain ⟨last', rest', hr', -⟩ := Token.exists_reads 0 padded
    have hscan :
        (Token.scan source).tokens = before ++ [t] ++ (Token.scanFrom last 0 rest).tokens :=
      congrArg Token.Scan.tokens hr.scanFrom_eq
    rw [hscan] at htwins
    obtain ⟨us, after, hsplit, hu, -⟩ := Derivation.exists_append_of_forall₂ htwins
    obtain ⟨before', ts, rfl, hbefore, hts⟩ := Derivation.exists_append_of_forall₂ hu
    obtain ⟨t', _, ht, hnil, rfl⟩ := List.forall₂_cons_left_iff.mp hts
    cases hnil
    change (Token.scanFrom 0 0 padded).tokens = _ at hsplit
    rw [hsplit] at hr'
    obtain ⟨middle, hfirst, -⟩ := hr'.split
    have hk := Token.kinds_eq (hu.imp fun _ _ => hp.alike)
    have hkb := Token.kinds_eq (hbefore.imp fun _ _ => hp.alike)
    exact ⟨.misplaced t', .misplaced hfirst (hv.of_kinds hkb) fun h => hn (h.of_kinds hk.symm),
      .misplaced ht⟩
  | @unreadable tokens offset rest hr hv hstuck =>
    have hscan : Token.scan source = ⟨tokens, some offset⟩ := by
      rw [Token.scan, hr.scanFrom_eq, Token.scanFrom_stuck hstuck, List.append_nil]
    have hk := Token.kinds_eq ha
    rw [hscan] at hends hk
    rcases hends with ⟨hc, -⟩ | ⟨i, i', rest, rest', -, hr', -, hs', hf, hf', hc⟩
    · cases congrArg Token.Scan.fault (hscan.symm.trans (Token.covers_iff.mp hc))
    · cases hf
      exact ⟨.unreadable i', .unreadable hr' (hv.of_kinds hk) hs',
        .unreadable (congrArg Token.Scan.fault hscan) hf' hc⟩

end Standing

/-- The same error in two sources, at the same place. No place is known where the stack is
exhausted. -/
def ParseError.Relaid (source other : Text) (error error' : ParseError) : Prop :=
  ∃ kind message i i', error.Points kind message source i ∧ error'.Points kind message other i' ∧
    (SamePlace source other i i' ∨ error.cause = .stackExhausted ∧ i = 0 ∧ i' = 0)

namespace Program
variable {η : Type}

/-- Programs whose trees differ in their spans alone, and these start and end at the same tokens. So
they do the same in every environment. -/
structure Relaid (program other : Program η) : Prop where
  bare_eq : other.root.bare = program.root.bare
  spans_match : List.Forall₂
    (fun n m => Span.Matches (Token.Twins program.source other.source) n.span m.span)
    program.root.preorder other.root.preorder
  execute_eq : ∀ (σ : Type) (calls : Calls σ η) (env : Environment η) (running : Limits) (s : σ),
    other.execute calls env running s = program.execute calls env running s

variable {source padded : Text}

theorem relaid_of_similar {d e : Sentence} (hp : Padded source padded)
    (h : d.Similar (Token.Twins source padded) e) :
    (⟨source, d.tree⟩ : Program η).Relaid ⟨padded, e.tree⟩ := by
  have hb : (e.tree : Node η).bare = (d.tree : Node η).bare :=
    (h.bare_tree fun t t' ht => (hp.alike ht).2).symm
  refine ⟨hb, h.spans_tree, fun σ calls env running s => ?_⟩
  rw [execute, execute, ← Node.ground_bare, hb, Node.ground_bare]

theorem depthError_relaid (limits : Limits) {obstacle obstacle' : Obstacle}
    (h : Derivation.Similar.Hinders (Token.Twins source padded) obstacle obstacle') :
    ParseError.Relaid source padded (depthError limits source obstacle)
      (depthError limits padded obstacle') := by
  have hle {text : Text} {t : Token} (hm : t ∈ (Token.scan text).tokens) :
      t.start ≤ text.length := by
    obtain ⟨last, rest, hr, -⟩ := Token.exists_reads 0 text
    have hb := hr.laid.bounded t hm
    rw [Token.stop_eq] at hb
    omega
  cases h with
  | level ht =>
    obtain ⟨hm, hm'⟩ := List.of_mem_zip ht
    exact ⟨_, _, _, _, ParseError.located_points _ (hle hm), ParseError.located_points _ (hle hm'),
      .inl (.token ht)⟩
  | stack =>
    exact ⟨_, _, 0, 0, ParseError.located_points _ (Nat.zero_le _),
      ParseError.located_points _ (Nat.zero_le _), .inr ⟨rfl, rfl, rfl⟩⟩

/-- More layout between the tokens of a source, at its start or its end leaves the tokens, the tree,
its outcomes and its errors as they are. Spans and errors are at the same tokens, but for an
exhausted stack, which has no place of its own. -/
theorem compile_padded (h : Padded source padded) (limits : Limits) :
    List.Forall₂ Token.Alike (Token.scan source).tokens (Token.scan padded).tokens ∧
    ((∃ program other : Program η, compile limits (.ofText source) = .ok program ∧
        compile limits (.ofText padded) = .ok other ∧ program.Relaid other) ∨
      ∃ error error' : ParseError,
        (compile limits (.ofText source) : Except Node.Fault (Program η)) =
          .error (.source error) ∧
        (compile limits (.ofText padded) : Except Node.Fault (Program η)) =
          .error (.source error') ∧ error.Relaid source padded error') := by
  refine ⟨h.scans.1, ?_⟩
  obtain ⟨standing, hs⟩ := Standing.exists_holds source
  obtain ⟨other, ho, hm⟩ := hs.of_padded h
  have hreport := hs.reported (η := η) limits
  have hreport' := ho.reported (η := η) limits
  cases hm with
  | @sentence d e hd =>
    cases hs with
    | sentence hc =>
    cases ho with
    | sentence hc' =>
    have hcompile := @compile_derivation η limits source d hc
    have hcompile' := @compile_derivation η limits padded e hc'
    have hexcess := hd.excess limits 0
    generalize d.excess limits 0 = first at hcompile hexcess
    generalize e.excess limits 0 = first' at hcompile' hexcess
    cases hexcess with
    | none => exact .inl ⟨_, _, hcompile, hcompile', relaid_of_similar h hd⟩
    | some ht => exact .inr ⟨_, _, hcompile, hcompile', depthError_relaid limits ht⟩
  | unfinished =>
    obtain ⟨⟨error, hc, hp⟩, -⟩ := hreport
    obtain ⟨⟨error', hc', hp'⟩, -⟩ := hreport'
    exact .inr ⟨error, error', hc, hc', _, _, _, _, hp, hp', .inl .ending⟩
  | @misplaced t t' ht =>
    obtain ⟨⟨error, hc, hp⟩, -⟩ := hreport
    obtain ⟨⟨error', hc', hp'⟩, -⟩ := hreport'
    rw [← (h.alike ht).2] at hp'
    exact .inr ⟨error, error', hc, hc', _, _, _, _, hp, hp', .inl (.token ht)⟩
  | @unreadable i i' hf hf' hchar =>
    obtain ⟨c, hget, error, hc, hp⟩ := hreport
    obtain ⟨c', hget', error', hc', hp'⟩ := hreport'
    rw [hget, hget', Option.some_inj] at hchar
    subst hchar
    have hsame : SamePlace source padded i i' := .character hf hf' (hget.trans hget'.symm)
    exact .inr ⟨error, error', hc, hc', _, _, _, _, hp, hp', .inl hsame⟩

theorem compile_padded_call :
    Padded "f(x)".toList "f( \n\tx)".toList ∧ ∃ program other : Program Unit,
      compile (.ofNesting 1) (.ofText "f(x)".toList) = .ok program ∧
      compile (.ofNesting 1) (.ofText "f( \n\tx)".toList) = .ok other ∧ program.Relaid other := by
  have hopen : Reads 1 "(x)".toList [⟨.openParen, ['('], 1⟩] 2 "x)".toList :=
    .token (w := ['(']) (Token.munch_iff.mpr ⟨rfl, rfl⟩) (.stop 2 _)
  have hcall : Reads 0 "f(x)".toList [⟨.name, ['f'], 0⟩, ⟨.openParen, ['('], 1⟩] 2 "x)".toList :=
    .token (w := ['f']) (Token.munch_iff.mpr ⟨rfl, rfl⟩) hopen
  have hl : ∀ c ∈ " \n\t".toList, Blank.isLayout c = true := by simp [Blank.isLayout]
  have he : "f( \n\tx)".toList = "f(x)".toList.take 2 ++ (" \n\t".toList ++ "x)".toList) := by
    decide
  have h : Padded "f(x)".toList "f( \n\tx)".toList := by
    rw [he]
    exact Padded.between hcall hl
  refine ⟨h, (compile_padded h (.ofNesting 1)).2.resolve_right ?_⟩
  rintro ⟨error, -, he, -⟩
  cases he

/-! ## No place for an error -/

/-- Both errors are at the start, which is no longer the place of the first token. -/
theorem compile_padded_exhausted :
    Padded (nested '1' 3000) (' ' :: nested '1' 3000) ∧
    ∃ (error error' : ParseError) (message : Text),
      (compile (.ofNesting 10000) (.ofText (nested '1' 3000)) :
        Except Node.Fault (Program Unit)) = .error (.source error) ∧
      error.Points .nestingTooDeep message (nested '1' 3000) 0 ∧
      (compile (.ofNesting 10000) (.ofText (' ' :: nested '1' 3000)) :
        Except Node.Fault (Program Unit)) = .error (.source error') ∧
      error'.Points .nestingTooDeep message (' ' :: nested '1' 3000) 0 ∧
      ¬SamePlace (nested '1' 3000) (' ' :: nested '1' 3000) 0 0 := by
  have hb : Blank.isLayout ' ' = true := rfl
  obtain ⟨d, hd, hn⟩ := exists_nested (.inl rfl) munch_one 3000
  obtain ⟨d', last, hn', hr, -⟩ := @reads_nested Unit .number '1' (.inl rfl) munch_one 3000 0 1
  let e : Sentence := .product (.unary (.applied (.atom d')))
  have he : Covers (' ' :: nested '1' 3000) e.yield := (Reads.layout hb hr).covers
  have hen : e.extent = ⟨3000, 3000⟩ := hn'
  obtain ⟨error, hc, hp⟩ := @compile_exhausted Unit (.ofNesting 10000) _ d hd
    (by rw [hn]; decide) (by rw [hn]; decide)
  obtain ⟨error', hc', hp'⟩ := @compile_exhausted Unit (.ofNesting 10000) _ e he
    (by rw [hen]; decide) (by rw [hen]; decide)
  exact ⟨.insert hb (.refl _), error, error', _, hc, hp, hc', hp',
    fun h => Nat.lt_irrefl 0 (h.pos hb)⟩

end Program

end Reckoner
