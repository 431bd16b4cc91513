import AssistedDialing.Text.Digit
import AssistedDialing.Yaml.Lexer

/-!
# Tokens of a list in a mapping

`flowListChars name first words` is the YAML text of a mapping with one pair, whose value is a list
of words between brackets. `ofText_flowListChars` says which tokens it consists of. Behind the colon
the lexer is in states of one shape, `At`: every round reads one token and keeps the shape, and none
waits for a key any more.
-/

namespace AssistedDialing.Yaml

open Text

/-! ## Words -/

/-- `isWordChar c` holds for ASCII letters and digits and the underscore. -/
def isWordChar (c : Char) : Bool :=
  isAsciiDigit c || isAsciiLetter c || c == '_'

/-- A word is a non-empty text of ASCII letters, digits and underscores. -/
structure IsWord (cs : List Char) : Prop where
  ne_nil : cs ≠ []
  chars : ∀ c ∈ cs, isWordChar c = true

theorem toNat_of_isWordChar {c : Char} (h : isWordChar c = true) :
    48 ≤ c.toNat ∧ c.toNat ≤ 122 := by
  simp only [isWordChar, isAsciiDigit, isAsciiLetter, Bool.or_eq_true, Bool.and_eq_true,
    decide_eq_true_eq, beq_iff_eq] at h
  obtain (h | h | h) | rfl := h
  · omega
  · omega
  · omega
  · decide

/-- A character that cannot stand in a word differs from all characters of words. -/
theorem beq_eq_false_of_isWordChar {c d : Char} (h : isWordChar c = true)
    (hd : isWordChar d = false) : (c == d) = false := by
  rw [beq_eq_false_iff_ne]
  rintro rfl
  rw [h] at hd
  exact Bool.noConfusion hd

theorem isAmong_eq_false_of_isWordChar {c : Char} {text : String} (h : isWordChar c = true)
    (htext : text.toList.any isWordChar = false) : isAmong text c = false := by
  rw [isAmong, ← Bool.not_eq_true, List.contains_iff_mem]
  intro hmem
  rw [← Bool.not_eq_true, List.any_eq_true] at htext
  exact htext ⟨c, hmem, h⟩

theorem isBreak_eq_false_of_isWordChar {c : Char} (h : isWordChar c = true) :
    isBreak c = false := by
  rw [isBreak, beq_eq_false_of_isWordChar h (by decide), beq_eq_false_of_isWordChar h (by decide),
    beq_eq_false_of_isWordChar h (by decide), beq_eq_false_of_isWordChar h (by decide)]
  rfl

theorem isGap_eq_false_of_isWordChar {c : Char} (h : isWordChar c = true) : isGap c = false := by
  rw [isGap, isBlank, isBreak_eq_false_of_isWordChar h, beq_eq_false_of_isWordChar h (by decide),
    beq_eq_false_of_isWordChar h (by decide)]
  rfl

theorem isAllowed_of_isWordChar {c : Char} (h : isWordChar c = true) : isAllowed c = true := by
  have hcode := toNat_of_isWordChar h
  simp only [isAllowed, Bool.or_eq_true, Bool.and_eq_true, decide_eq_true_eq]
  omega

/-- No plain scalar ends in a word. -/
theorem endsPlain_eq_false_of_isWordChar {c : Char} (h : isWordChar c = true) (flow : Bool)
    (next : Option Char) : endsPlain flow c next = false := by
  rw [endsPlain, isGap_eq_false_of_isWordChar h, beq_eq_false_of_isWordChar h (by decide),
    isAmong_eq_false_of_isWordChar h (by decide), Bool.false_and, Bool.and_false]
  rfl

/-! ## Places in a text -/

namespace Cursor

theorem rest_next (cursor : Cursor) : cursor.next.rest = cursor.rest.drop 1 := by
  rw [next]
  cases hrest : cursor.rest with
  | nil => exact hrest
  | cons c rest => grind

theorem rest_skip (count : Nat) (cursor : Cursor) :
    (cursor.skip count).rest = cursor.rest.drop count := by
  induction count generalizing cursor with
  | zero => rfl
  | succ count ih => rw [skip, ih, rest_next, List.drop_drop, Nat.add_comm]

/-- Behind a word the line is the same. -/
theorem skip_word {cs rest : List Char} (h : ∀ c ∈ cs, isWordChar c = true)
    (index line column : Nat) :
    skip cs.length ⟨cs ++ rest, index, line, column⟩ =
      ⟨rest, index + cs.length, line, column + cs.length⟩ := by
  induction cs generalizing index column with
  | nil => rfl
  | cons c cs ih =>
      have hc := h c List.mem_cons_self
      have hmark : (c == byteOrderMark) = false := beq_eq_false_of_isWordChar hc (by decide)
      have hnext : next ⟨c :: cs ++ rest, index, line, column⟩ =
          ⟨cs ++ rest, index + 1, line, column + 1⟩ := by
        rw [next]
        simp only [List.cons_append, isBreak_eq_false_of_isWordChar hc, hmark, Bool.false_eq_true,
          if_false]
      rw [List.length_cons, skip, hnext, ih fun d hd ↦ h d (List.mem_cons_of_mem _ hd)]
      congr 1 <;> omega

end Cursor

/-! ## Plain scalars -/

/-- A plain scalar that starts with a word goes on as far as the word does. -/
theorem plainRun_word {flow : Bool} {cs rest : List Char} {c : Char}
    (h : ∀ c ∈ cs, isWordChar c = true) (hc : endsPlain flow c rest.head? = true) :
    plainRun flow (cs ++ c :: rest) = cs := by
  induction cs with
  | nil => rw [List.nil_append, plainRun, hc, if_pos rfl]
  | cons d cs ih =>
      have hd := endsPlain_eq_false_of_isWordChar (h d List.mem_cons_self) flow
        (cs ++ c :: rest).head?
      rw [List.cons_append, plainRun, hd, if_neg Bool.false_ne_true,
        ih fun e he ↦ h e (List.mem_cons_of_mem _ he)]

/-- `beginsToken next` holds for the characters that begin nothing that is skipped between tokens,
and at the end of the text. -/
def beginsToken (next : Option Char) : Bool :=
  next.all fun c ↦ !(c == ' ' || c == '#' || c == byteOrderMark || isBreak c)

theorem beginsToken_of_isWordChar {c : Char} (h : isWordChar c = true) :
    beginsToken (some c) = true := by
  rw [beginsToken, Option.all_some, isBreak_eq_false_of_isWordChar h,
    beq_eq_false_of_isWordChar h (by decide), beq_eq_false_of_isWordChar h (by decide),
    beq_eq_false_of_isWordChar h (by decide)]
  rfl

namespace Cursor

variable {cursor : Cursor}

theorem takeWhile_spaces {rest : List Char} (h : beginsToken rest.head? = true) :
    rest.takeWhile (· == ' ') = [] := by
  cases rest with
  | nil => rfl
  | cons c rest =>
      have hspace : (c == ' ') = false := by
        cases hc : c == ' ' with
        | false => rfl
        | true => simp [beginsToken, beq_iff_eq.mp hc] at h
      rw [List.takeWhile_cons, hspace]
      rfl

theorem lineBreak?_of_beginsToken (h : beginsToken cursor.peek = true) :
    cursor.lineBreak? = none := by
  unfold lineBreak?
  cases hpeek : cursor.peek with
  | none => rfl
  | some c =>
      rw [hpeek] at h
      simp only [beginsToken, Option.all_some, isBreak, Bool.not_eq_true',
        Bool.or_eq_false_iff] at h
      simp [h, isBreak]

theorem skipComment_of_beginsToken (h : beginsToken cursor.peek = true) :
    cursor.skipComment = cursor := by
  unfold skipComment
  split
  · rename_i hcomment
    rw [beq_iff_eq.mp hcomment] at h
    exact absurd h (by decide)
  · rfl

end Cursor

theorem plainGap_of_beginsToken {cursor : Cursor} (h : beginsToken cursor.peek = true) :
    plainGap cursor = ⟨some [], cursor, false⟩ := by
  have hspaces : cursor.takeWhile (· == ' ') = ([], cursor) := by
    rw [Cursor.takeWhile, Cursor.takeWhile_spaces h]
    rfl
  simp only [plainGap, hspaces, Cursor.lineBreak?_of_beginsToken h]

/-- A plain scalar is a word when a mark stands behind it. -/
theorem plainScalar_word {flow : Bool} {indent : Int} {cursor : Cursor} {cs rest : List Char}
    {c : Char} (hrest : cursor.rest = cs ++ c :: rest) (hcs : IsWord cs)
    (hc : beginsToken (some c) = true) (hends : endsPlain flow c rest.head? = true) :
    plainScalar flow indent cursor = ⟨cs, cursor.skip cs.length, false⟩ := by
  have hrun : plainRun flow cursor.rest = cs := by
    rw [hrest]
    exact plainRun_word hcs.chars hends
  have hpeek : (cursor.skip cs.length).peek = some c := by
    rw [Cursor.peek, Cursor.rest_skip, hrest, List.drop_left]
    rfl
  have hgap : plainGap (cursor.skip cs.length) = ⟨some [], cursor.skip cs.length, false⟩ :=
    plainGap_of_beginsToken (by rwa [hpeek])
  have hcomment : (cursor.peek == some '#') = false := by
    obtain ⟨d, ds, hds⟩ := List.exists_cons_of_ne_nil hcs.ne_nil
    have hd := hcs.chars d (by rw [hds]; exact List.mem_cons_self)
    rw [Cursor.peek, hrest, hds]
    exact beq_eq_false_of_isWordChar hd (by decide)
  have hne : cs.isEmpty = false := List.isEmpty_eq_false_iff.mpr hcs.ne_nil
  simp only [plainScalar, plainFrom, hrun, hne, hcomment, hgap]
  rfl

/-! ## One round of the lexer -/

namespace Lexer

/-- `lexer.round` reads the next token, as `Lexed.ofLexer` does. -/
def round (lexer : Lexer) : Except Failure Lexer := do
  let lexer ← lexer.dropStale
  lexer.step

/-- Spaces before a token are skipped. -/
theorem skipGaps_of_rest {lexer : Lexer} (spaces : Nat) {rest : List Char}
    (hrest : lexer.cursor.rest = List.replicate spaces ' ' ++ rest)
    (hbegins : beginsToken rest.head? = true) : lexer.skipGaps = lexer.advance spaces := by
  have hskipped : (lexer.cursor.skip spaces).rest = rest := by
    rw [Cursor.rest_skip, hrest, List.drop_left' List.length_replicate]
  have hspaces : lexer.cursor.skipSpaces = lexer.cursor.skip spaces := by
    rw [Cursor.skipSpaces, Cursor.skipWhile, hrest, List.takeWhile_append_of_pos (by simp),
      Cursor.takeWhile_spaces hbegins, List.append_nil, List.length_replicate]
  have hbegins : beginsToken (lexer.cursor.skip spaces).peek = true := by
    rwa [Cursor.peek, hskipped]
  have hmark : (lexer.cursor.peek == some byteOrderMark) = false := by
    cases spaces with
    | zero =>
        rw [beq_eq_false_iff_ne]
        intro hpeek
        rw [Cursor.skip, hpeek] at hbegins
        exact absurd hbegins (by decide)
    | succ spaces =>
        rw [Cursor.peek, hrest]
        rfl
  simp only [skipGaps, hmark, Bool.and_false, Bool.false_eq_true, if_false, skipGapsFrom, hspaces,
    Cursor.skipComment_of_beginsToken hbegins, Cursor.lineBreak?_of_beginsToken hbegins]
  rfl

/-- A character of a word begins a plain scalar. -/
theorem readToken_of_isWordChar {lexer : Lexer} {c : Char} {rest : List Char}
    (hrest : lexer.cursor.rest = c :: rest) (hc : isWordChar c = true) :
    lexer.readToken = lexer.readPlain := by
  have hne {d : Char} (hd : isWordChar d = false) : (c == d) = false :=
    beq_eq_false_of_isWordChar hc hd
  have hmarker : lexer.cursor.isMarker = false := by
    have hstart (d : Char) (hd : isWordChar d = false) :
        (lexer.cursor.rest.take 3 == [d, d, d]) = false := by
      rw [hrest, List.take_succ_cons, List.cons_beq_cons, hne hd]
      rfl
    rw [Cursor.isMarker, hstart '-' (by decide), hstart '.' (by decide)]
    rfl
  have hstarts (next : Option Char) : startsPlain lexer.inFlow c next = true := by
    rw [startsPlain, isGap_eq_false_of_isWordChar hc, isAmong_eq_false_of_isWordChar hc (by decide)]
    rfl
  have hpeek : lexer.cursor.peek = some c := by rw [Cursor.peek, hrest]; rfl
  simp only [readToken, hpeek, hmarker, hstarts, hne (by decide : isWordChar '%' = false),
    hne (by decide : isWordChar '[' = false), hne (by decide : isWordChar '\x7b' = false),
    hne (by decide : isWordChar ']' = false), hne (by decide : isWordChar '\x7d' = false),
    hne (by decide : isWordChar ',' = false), hne (by decide : isWordChar '-' = false),
    hne (by decide : isWordChar '?' = false), hne (by decide : isWordChar ':' = false),
    hne (by decide : isWordChar '*' = false), hne (by decide : isWordChar '&' = false),
    hne (by decide : isWordChar '!' = false), hne (by decide : isWordChar '|' = false),
    hne (by decide : isWordChar '>' = false), hne (by decide : isWordChar '\'' = false),
    hne (by decide : isWordChar '\"' = false), Bool.false_and, Bool.false_eq_true, if_false,
    if_true]

/-- `At depth allows tokens rest lexer` describes a lexer behind the colon: it is in so many flow
collections of the only block mapping, has read `tokens`, and `rest` is left. A key that is still
possible is one in a flow collection, which need not be a key. -/
structure At (depth : Nat) (allows : Bool) (tokens : List Token) (rest : List Char)
    (lexer : Lexer) : Prop where
  rest : lexer.cursor.rest = rest
  depth : lexer.depth = depth
  indents : lexer.indents = [0]
  allowsKey : lexer.allowsKey = allows
  tokens : lexer.tokens = tokens
  keys : ∀ key ∈ lexer.keys, key.1 ≠ 0 ∧ key.2.required = false

namespace At

variable {depth : Nat} {allows : Bool} {tokens : List Token} {rest : List Char} {lexer : Lexer}

/-- Possible keys can be forgotten, since none is required. -/
theorem dropStale (h : At depth allows tokens rest lexer) :
    ∃ further, lexer.dropStale = .ok further ∧ At depth allows tokens rest further := by
  have hstale : ((lexer.keys.partition fun entry ↦ entry.2.isStale lexer.cursor).1.any
      fun entry ↦ entry.2.required) = false := by
    rw [List.any_eq_false]
    intro key hkey
    rw [List.partition_eq_filter_filter] at hkey
    exact Bool.not_eq_true _ ▸ (h.keys key (List.mem_filter.mp hkey).1).2
  refine ⟨{ lexer with keys := (lexer.keys.partition fun entry ↦ entry.2.isStale lexer.cursor).2 },
    ?_, { h with keys := ?_ }⟩
  · show (if (lexer.keys.partition fun entry ↦ entry.2.isStale lexer.cursor).1.any
        fun entry ↦ entry.2.required then _ else _) = _
    rw [hstale]
    rfl
  · intro key hkey
    simp only [List.partition_eq_filter_filter] at hkey
    exact h.keys key (List.mem_filter.mp hkey).1

theorem forgetKey (h : At depth allows tokens rest lexer) :
    ∃ further, lexer.forgetKey = .ok further ∧ At depth allows tokens rest further := by
  unfold Lexer.forgetKey
  split
  · exact ⟨lexer, rfl, h⟩
  · rename_i key hkey
    have hmem : (lexer.depth, key) ∈ lexer.keys := by
      obtain ⟨before, after, hkeys, -⟩ := List.lookup_eq_some_iff.mp hkey
      rw [hkeys]
      exact List.mem_append_right _ List.mem_cons_self
    have hoptional : key.required = false := (h.keys _ hmem).2
    rw [hoptional]
    refine ⟨_, rfl, { h with keys := ?_ }⟩
    intro other hother
    exact h.keys other (List.mem_filter.mp hother).1

/-- What a round does in a state of this shape is to read the next token. -/
theorem round_eq (spaces : Nat) (rest : List Char)
    (h : At depth allows tokens (List.replicate spaces ' ' ++ rest) lexer)
    (hbegins : beginsToken rest.head? = true) :
    ∃ further, At depth allows tokens rest further ∧ lexer.round = further.readToken := by
  obtain ⟨fresh, hfresh, hat⟩ := h.dropStale
  have hskipped : At depth allows tokens rest fresh.skipGaps := by
    rw [skipGaps_of_rest spaces hat.rest hbegins]
    have hrest : (fresh.cursor.skip spaces).rest = rest := by
      rw [Cursor.rest_skip, hat.rest, List.drop_left' List.length_replicate]
    exact { hat with rest := hrest }
  obtain ⟨further, hfurther, hat⟩ := hskipped.dropStale
  have hclose : further.closeTo further.cursor.column = further := by
    rw [closeTo]
    split
    · rfl
    · have hopen : further.indents.takeWhile
          (fun indent : Nat ↦ (further.cursor.column : Int) < (indent : Int)) = [] := by
        rw [hat.indents, List.takeWhile_cons, if_neg (by simp)]
      simp only [hopen, List.length_nil, List.drop_zero, List.map_nil, List.append_nil]
  refine ⟨further, hat, ?_⟩
  rw [Lexer.round, hfresh]
  show fresh.step = _
  rw [step, hfurther]
  show (further.closeTo further.cursor.column).readToken = _
  rw [hclose]

theorem add (h : At depth allows tokens rest lexer) (token : Token) :
    At depth allows (tokens ++ [token]) rest (lexer.add token) :=
  { h with tokens := congrArg (· ++ [token]) h.tokens }

/-- After the next character and a token the shape is the same. -/
theorem advance_add {c : Char} (h : At depth allows tokens (c :: rest) lexer) (token : Token) :
    At depth allows (tokens ++ [token]) rest ((lexer.advance 1).add token) := by
  have hrest : (lexer.cursor.skip 1).rest = rest := by
    rw [Cursor.rest_skip, h.rest]
    rfl
  exact { h.add token with rest := hrest }

/-- The list begins. -/
theorem round_open (h : At 0 false tokens (' ' :: '[' :: rest) lexer) :
    ∃ further, lexer.round = .ok further ∧
      At 1 true (tokens ++ [.flowSequenceStart]) rest further := by
  obtain ⟨present, hat, hround⟩ := h.round_eq 1 ('[' :: rest) rfl
  have hopen : present.readToken = present.openFlow .flowSequenceStart := by
    rw [readToken, Cursor.peek, hat.rest, Cursor.isMarker, hat.rest]
    rfl
  have hsave : present.saveKey = .ok present := by
    rw [saveKey, hat.allowsKey]
    rfl
  have hinside : At 1 true tokens ('[' :: rest)
      ({ present with depth := present.depth + 1 }.allowing true) :=
    { hat with depth := congrArg (· + 1) hat.depth, allowsKey := rfl }
  refine ⟨_, ?_, hinside.advance_add .flowSequenceStart⟩
  rw [hround, hopen, openFlow, hsave]
  rfl

/-- A comma in the list. -/
theorem round_comma (h : At 1 false tokens (',' :: rest) lexer) :
    ∃ further, lexer.round = .ok further ∧ At 1 true (tokens ++ [.flowEntry]) rest further := by
  obtain ⟨present, hat, hround⟩ := h.round_eq 0 (',' :: rest) rfl
  have hcomma : present.readToken = present.readFlowEntry := by
    rw [readToken, Cursor.peek, hat.rest, Cursor.isMarker, hat.rest]
    rfl
  have hallowing : At 1 true tokens (',' :: rest) (present.allowing true) :=
    { hat with allowsKey := rfl }
  obtain ⟨fresh, hfresh, hat⟩ := hallowing.forgetKey
  refine ⟨_, ?_, hat.advance_add .flowEntry⟩
  rw [hround, hcomma, readFlowEntry, hfresh]
  rfl

/-- The list ends. -/
theorem round_close (h : At 1 false tokens (']' :: rest) lexer) :
    ∃ further, lexer.round = .ok further ∧
      At 0 false (tokens ++ [.flowSequenceEnd]) rest further := by
  obtain ⟨present, hat, hround⟩ := h.round_eq 0 (']' :: rest) rfl
  have hclose : present.readToken = present.closeFlow .flowSequenceEnd := by
    rw [readToken, Cursor.peek, hat.rest, Cursor.isMarker, hat.rest]
    rfl
  have hflow : present.inFlow = true := by
    rw [inFlow, hat.depth]
    rfl
  obtain ⟨fresh, hfresh, hat⟩ := hat.forgetKey
  have houtside : At 0 false tokens (']' :: rest)
      ({ fresh with depth := fresh.depth - 1 }.allowing false) :=
    { hat with depth := congrArg (· - 1) hat.depth, allowsKey := rfl }
  refine ⟨_, ?_, houtside.advance_add .flowSequenceEnd⟩
  rw [hround, hclose, closeFlow, hflow, hfresh]
  rfl

/-- A word of the list. -/
theorem round_word (spaces : Nat) {cs : List Char} {c : Char} (hcs : IsWord cs)
    (hc : beginsToken (some c) = true) (hends : endsPlain true c rest.head? = true)
    (h : At 1 true tokens (List.replicate spaces ' ' ++ (cs ++ c :: rest)) lexer) :
    ∃ further, lexer.round = .ok further ∧
      At 1 false (tokens ++ [.scalar (String.ofList cs) true]) (c :: rest) further := by
  obtain ⟨d, ds, rfl⟩ := List.exists_cons_of_ne_nil hcs.ne_nil
  have hd := hcs.chars d List.mem_cons_self
  obtain ⟨present, hat, hround⟩ := h.round_eq spaces _ (beginsToken_of_isWordChar hd)
  have hflow : present.inFlow = true := by
    rw [inFlow, hat.depth]
    rfl
  obtain ⟨fresh, hfresh, hfreshAt⟩ := hat.forgetKey
  obtain ⟨saved, hsave, hsaved⟩ : ∃ saved, present.saveKey = .ok saved ∧
      At 1 true tokens (d :: ds ++ c :: rest) saved := by
    rw [saveKey, hat.allowsKey, hflow, hfresh]
    refine ⟨_, rfl, { hfreshAt with keys := ?_ }⟩
    intro key hkey
    obtain rfl | hkey := List.mem_cons.mp hkey
    · exact ⟨by rw [hfreshAt.depth]; exact Nat.one_ne_zero, rfl⟩
    · exact hfreshAt.keys key hkey
  have hscalar : plainScalar saved.inFlow (saved.indent + 1) saved.cursor =
      ⟨d :: ds, saved.cursor.skip (d :: ds).length, false⟩ := by
    have hinside : saved.inFlow = true := by
      rw [inFlow, hsaved.depth]
      rfl
    rw [hinside]
    exact plainScalar_word hsaved.rest hcs hc hends
  have hread : At 1 false tokens (c :: rest)
      ({ saved with cursor := saved.cursor.skip (d :: ds).length }.allowing false) :=
    { hsaved with
      rest := by
        show (saved.cursor.skip (d :: ds).length).rest = _
        rw [Cursor.rest_skip, hsaved.rest, List.drop_left]
      allowsKey := rfl }
  refine ⟨_, ?_, hread.add (.scalar (String.ofList (d :: ds)) true)⟩
  rw [hround, readToken_of_isWordChar hat.rest hd, readPlain, hsave]
  simp only [hscalar, bind, Except.bind, pure, Except.pure]

/-- The text ends. -/
theorem round_end (h : At 0 false tokens [] lexer) :
    ∃ further, lexer.round = .ok further ∧ further.tokens = tokens ++ [.blockEnd, .streamEnd] := by
  obtain ⟨present, hat, hround⟩ := h.round_eq 0 [] rfl
  have hend : present.readToken = present.readEnd := by
    rw [readToken, Cursor.peek, hat.rest]
    rfl
  have hclosed : present.closeTo (-1) =
      { present with indents := [], tokens := tokens ++ [.blockEnd] } := by
    rw [closeTo, inFlow, hat.depth, hat.indents, hat.tokens]
    rfl
  have hnone : present.keys.lookup present.depth = none := by
    rw [List.lookup_eq_none_iff, hat.depth]
    intro key hkey
    rw [bne_iff_ne]
    exact (hat.keys key hkey).1.symm
  have hforget : (present.closeTo (-1)).forgetKey = .ok (present.closeTo (-1)) := by
    rw [hclosed, Lexer.forgetKey]
    simp only [hnone]
  refine ⟨_, by rw [hround, hend, readEnd, leaveBlocks, hforget, hclosed]; rfl, ?_⟩
  show tokens ++ [.blockEnd] ++ [.streamEnd] = _
  rw [List.append_assoc]
  rfl

end At

/-! ## The key of the mapping -/

/-- `keySaved cs` is a lexer that knows that a key may start with the text `cs`. -/
def keySaved (cs : List Char) : Lexer where
  cursor := ⟨cs, 0, 0, 0⟩
  keys := [(0, ⟨0, false, ⟨cs, 0, 0, 0⟩⟩)]

/-- `keyRead cs rest` is a lexer between the possible key `cs` and the rest of the text. -/
def keyRead (cs rest : List Char) : Lexer where
  cursor := ⟨rest, cs.length, 0, cs.length⟩
  allowsKey := false
  keys := [(0, ⟨0, false, ⟨cs ++ rest, 0, 0, 0⟩⟩)]
  tokens := [.scalar (String.ofList cs) true]

/-- The first word of a text may turn out to be a key. -/
theorem round_key {cs rest : List Char} (hcs : IsWord cs) (hrest : rest.head? = some ' ') :
    round { cursor := ⟨cs ++ ':' :: rest, 0, 0, 0⟩ } = .ok (keyRead cs (':' :: rest)) := by
  obtain ⟨c, ds, rfl⟩ := List.exists_cons_of_ne_nil hcs.ne_nil
  have hc := hcs.chars c List.mem_cons_self
  have hgaps : skipGaps { cursor := ⟨c :: ds ++ ':' :: rest, 0, 0, 0⟩ } =
      { cursor := ⟨c :: ds ++ ':' :: rest, 0, 0, 0⟩ } :=
    skipGaps_of_rest 0 rfl (beginsToken_of_isWordChar hc)
  have hround : round { cursor := ⟨c :: ds ++ ':' :: rest, 0, 0, 0⟩ } =
      readToken { cursor := ⟨c :: ds ++ ':' :: rest, 0, 0, 0⟩ } := by
    show step { cursor := ⟨c :: ds ++ ':' :: rest, 0, 0, 0⟩ } = _
    rw [step, hgaps]
    rfl
  have hsave : saveKey { cursor := ⟨c :: ds ++ ':' :: rest, 0, 0, 0⟩ } =
      .ok (keySaved (c :: ds ++ ':' :: rest)) := rfl
  have hends : endsPlain false ':' rest.head? = true := by
    rw [hrest]
    rfl
  have hskip : (keySaved (c :: ds ++ ':' :: rest)).cursor.skip (c :: ds).length =
      ⟨':' :: rest, (c :: ds).length, 0, (c :: ds).length⟩ := by
    rw [keySaved, Cursor.skip_word hcs.chars, Nat.zero_add]
  have hscalar : plainScalar (keySaved (c :: ds ++ ':' :: rest)).inFlow
      ((keySaved (c :: ds ++ ':' :: rest)).indent + 1) (keySaved (c :: ds ++ ':' :: rest)).cursor =
        ⟨c :: ds, ⟨':' :: rest, (c :: ds).length, 0, (c :: ds).length⟩, false⟩ := by
    rw [← hskip]
    exact plainScalar_word rfl hcs rfl hends
  rw [hround, readToken_of_isWordChar rfl hc, readPlain, hsave]
  simp only [hscalar, bind, Except.bind, pure, Except.pure]
  rfl

/-- A colon behind a word makes it the key of a mapping, unless the word is too long for a key. -/
theorem round_colon (cs : List Char) {rest : List Char} (hlength : cs.length ≤ 1024)
    (hrest : rest.head? = some ' ') :
    ∃ further, (keyRead cs (':' :: rest)).round = .ok further ∧
      At 0 false [.blockMappingStart, .key, .scalar (String.ofList cs) true, .value] rest
        further := by
  have hfresh : (keyRead cs (':' :: rest)).dropStale = .ok (keyRead cs (':' :: rest)) := by
    have hstale : PossibleKey.isStale ⟨0, false, ⟨cs ++ ':' :: rest, 0, 0, 0⟩⟩
        (keyRead cs (':' :: rest)).cursor = false := by
      show (false || decide (1024 < cs.length - 0)) = false
      rw [Bool.false_or, decide_eq_false_iff_not]
      omega
    rw [dropStale]
    simp only [keyRead, List.partition_eq_filter_filter] at hstale ⊢
    simp [hstale]
  have hgaps : (keyRead cs (':' :: rest)).skipGaps = keyRead cs (':' :: rest) :=
    skipGaps_of_rest 0 rfl rfl
  have hround : (keyRead cs (':' :: rest)).round = (keyRead cs (':' :: rest)).readToken := by
    rw [Lexer.round, hfresh]
    show step _ = _
    rw [step, hgaps, hfresh]
    rfl
  have hvalue : (keyRead cs (':' :: rest)).readToken = (keyRead cs (':' :: rest)).readValue := by
    have hpeek : (keyRead cs (':' :: rest)).cursor.peekAt 1 = some ' ' := by
      rw [← hrest]
      exact List.head?_eq_getElem?.symm
    rw [readToken, hpeek]
    rfl
  refine ⟨_, by rw [hround, hvalue]; rfl, ?_, rfl, rfl, rfl, rfl, ?_⟩
  · exact Cursor.rest_skip 1 _
  · intro key hkey
    exact absurd hkey List.not_mem_nil

end Lexer

/-! ## All rounds -/

namespace Lexed

open Lexer

/-- `ReadsTo lexer tokens` holds when the lexer reads its text to the end and finds `tokens`, in no
more rounds than characters are left, and one. -/
def ReadsTo (lexer : Lexer) (tokens : List Token) : Prop :=
  ∀ fuel, lexer.cursor.rest.length < fuel → ofLexer fuel lexer = ⟨tokens, none⟩

theorem ofLexer_succ_of_round {lexer further : Lexer} (h : lexer.round = .ok further) (fuel : Nat) :
    ofLexer (fuel + 1) lexer =
      if further.tokens.getLast? == some .streamEnd then ⟨further.tokens, none⟩
      else ofLexer fuel further := by
  rw [Lexer.round] at h
  rw [ofLexer]
  cases hfresh : lexer.dropStale with
  | error failure =>
      rw [hfresh] at h
      cases h
  | ok fresh =>
      rw [hfresh] at h
      have hstep : fresh.step = .ok further := h
      simp only [hstep]

theorem ReadsTo.of_round {lexer further : Lexer} {tokens : List Token}
    (hround : lexer.round = .ok further)
    (hshorter : further.cursor.rest.length < lexer.cursor.rest.length)
    (hlast : further.tokens.getLast? ≠ some .streamEnd) (h : ReadsTo further tokens) :
    ReadsTo lexer tokens := by
  intro fuel hfuel
  obtain ⟨fuel, rfl⟩ : ∃ less, fuel = less + 1 := ⟨fuel - 1, by omega⟩
  rw [ofLexer_succ_of_round hround, beq_eq_false_iff_ne.mpr hlast, if_neg Bool.false_ne_true]
  exact h fuel (by omega)

theorem ReadsTo.of_end {lexer further : Lexer} {tokens : List Token}
    (hround : lexer.round = .ok further) (htokens : further.tokens = tokens ++ [.streamEnd]) :
    ReadsTo lexer (tokens ++ [.streamEnd]) := by
  intro fuel hfuel
  obtain ⟨fuel, rfl⟩ : ∃ less, fuel = less + 1 := ⟨fuel - 1, by omega⟩
  rw [ofLexer_succ_of_round hround, htokens, List.getLast?_concat]
  rfl

/-- The characters of the further items of a list and of its end. -/
def itemChars (words : List (List Char)) : List Char :=
  words.flatMap (fun cs ↦ ',' :: ' ' :: cs) ++ [']']

/-- The tokens of the further items of a list, of its end and of the end of the text. -/
def itemTokens (words : List (List Char)) : List Token :=
  words.flatMap (fun cs ↦ [.flowEntry, .scalar (String.ofList cs) true]) ++
    [.flowSequenceEnd, .blockEnd, .streamEnd]

@[simp] theorem itemChars_cons (cs : List Char) (words : List (List Char)) :
    itemChars (cs :: words) = ',' :: ' ' :: (cs ++ itemChars words) := by
  simp [itemChars]

@[simp] theorem itemTokens_cons (cs : List Char) (words : List (List Char)) :
    itemTokens (cs :: words) =
      .flowEntry :: .scalar (String.ofList cs) true :: itemTokens words := by
  simp [itemTokens]

/-- What stands behind an item ends it. -/
theorem itemChars_begins (words : List (List Char)) :
    ∃ c rest, itemChars words = c :: rest ∧ beginsToken (some c) = true ∧
      endsPlain true c rest.head? = true := by
  cases words with
  | nil => exact ⟨']', [], rfl, rfl, rfl⟩
  | cons cs words => exact ⟨',', _, itemChars_cons cs words, rfl, rfl⟩

/-- The further items of the list, and its end. -/
theorem readsTo_items {words : List (List Char)} {tokens : List Token} {lexer : Lexer}
    (hwords : ∀ cs ∈ words, IsWord cs) (h : At 1 false tokens (itemChars words) lexer) :
    ReadsTo lexer (tokens ++ itemTokens words) := by
  induction words generalizing tokens lexer with
  | nil =>
      obtain ⟨closed, hclosed, hat⟩ := h.round_close
      obtain ⟨ended, hended, htokens⟩ := hat.round_end
      have hend : ReadsTo closed (tokens ++ [.flowSequenceEnd, .blockEnd] ++ [.streamEnd]) :=
        .of_end hended (by simp [htokens])
      have hall := ReadsTo.of_round hclosed (by simp [h.rest, hat.rest, itemChars])
        (by simp [hat.tokens]) hend
      rwa [List.append_assoc] at hall
  | cons cs words ih =>
      obtain ⟨c, rest, hrest, hbegins, hends⟩ := itemChars_begins words
      rw [itemChars_cons, hrest] at h
      obtain ⟨entered, hentered, hat⟩ := h.round_comma
      obtain ⟨read, hread, hreadAt⟩ := hat.round_word 1
        (hwords cs List.mem_cons_self) hbegins hends
      rw [← hrest] at hreadAt
      have hitems := ih (fun ds hds ↦ hwords ds (List.mem_cons_of_mem _ hds)) hreadAt
      have hshorter : read.cursor.rest.length < entered.cursor.rest.length := by
        rw [hat.rest, hreadAt.rest, hrest, List.length_cons, List.length_cons, List.length_append,
          List.length_cons]
        omega
      have hword := ReadsTo.of_round hread hshorter (by simp [hreadAt.tokens]) hitems
      have hall := ReadsTo.of_round hentered (by simp [h.rest, hat.rest])
        (by simp [hat.tokens]) hword
      simpa using hall

/-- `flowListChars name first words` is the text of a mapping whose only value is a list. -/
def flowListChars (name first : List Char) (words : List (List Char)) : List Char :=
  name ++ ':' :: ' ' :: '[' :: (first ++ itemChars words)

/-- `flowListTokens name first words` is the tokens of that text. -/
def flowListTokens (name first : List Char) (words : List (List Char)) : List Token :=
  [.blockMappingStart, .key, .scalar (String.ofList name) true, .value, .flowSequenceStart,
    .scalar (String.ofList first) true] ++ itemTokens words

theorem isAllowed_flowListChars {name first : List Char} {words : List (List Char)}
    (hname : IsWord name) (hfirst : IsWord first) (hwords : ∀ cs ∈ words, IsWord cs) :
    (flowListChars name first words).all isAllowed = true := by
  have hword {cs : List Char} (hcs : IsWord cs) : cs.all isAllowed = true :=
    List.all_eq_true.mpr fun c hc ↦ isAllowed_of_isWordChar (hcs.chars c hc)
  have hitems : (itemChars words).all isAllowed = true := by
    induction words with
    | nil => rfl
    | cons cs words ih =>
        rw [itemChars_cons, List.all_cons, List.all_cons, List.all_append,
          hword (hwords cs List.mem_cons_self),
          ih fun ds hds ↦ hwords ds (List.mem_cons_of_mem _ hds)]
        rfl
  rw [flowListChars, List.all_append, hword hname, List.all_cons, List.all_cons, List.all_cons,
    List.all_append, hword hfirst, hitems]
  rfl

/-- A list in a mapping consists of the tokens that one expects. -/
theorem ofText_flowListChars {name first : List Char} {words : List (List Char)}
    (hname : IsWord name) (hlength : name.length ≤ 1024) (hfirst : IsWord first)
    (hwords : ∀ cs ∈ words, IsWord cs) :
    ofText (String.ofList (flowListChars name first words)) =
      ⟨flowListTokens name first words, none⟩ := by
  obtain ⟨c, rest, hrest, hbegins, hends⟩ := itemChars_begins words
  have hspace : (' ' :: '[' :: (first ++ itemChars words)).head? = some ' ' := rfl
  obtain ⟨valued, hvalued, hvaluedAt⟩ := round_colon name hlength hspace
  obtain ⟨opened, hopened, hopenedAt⟩ := hvaluedAt.round_open
  rw [hrest] at hopenedAt
  obtain ⟨read, hread, hreadAt⟩ := hopenedAt.round_word 0 hfirst hbegins hends
  rw [← hrest] at hreadAt
  have hitems := readsTo_items hwords hreadAt
  have hword := ReadsTo.of_round hread
    (by simp [hopenedAt.rest, hreadAt.rest, hrest, List.length_pos_iff.mpr hfirst.ne_nil])
    (by simp [hreadAt.tokens]) hitems
  have hshorter : opened.cursor.rest.length < valued.cursor.rest.length := by
    rw [hvaluedAt.rest, hopenedAt.rest, hrest, List.length_cons, List.length_cons]
    omega
  have hlist := ReadsTo.of_round hopened hshorter (by simp [hopenedAt.tokens]) hword
  have hvalue := ReadsTo.of_round hvalued (by simp [keyRead, hvaluedAt.rest])
    (by simp [hvaluedAt.tokens]) hlist
  have hkey := round_key hname hspace
  have hall := ReadsTo.of_round hkey
    (by simp [keyRead, List.length_pos_iff.mpr hname.ne_nil]) (by simp [keyRead]) hvalue
  rw [ofText, String.toList_ofList, isAllowed_flowListChars hname hfirst hwords, if_pos rfl]
  exact hall _ (Nat.lt_add_of_pos_right Nat.two_pos)

end Lexed

end AssistedDialing.Yaml
