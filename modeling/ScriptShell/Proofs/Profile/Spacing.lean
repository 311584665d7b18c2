import ScriptShell.Proofs.Profile.Documents

/-!
# The two forms of a document

The compact form and the indented form of a document are the same tokens, each written in one way,
with different blanks between them (`Json.Spaced`). So both are texts of the document, and the one
comes from the other when the blanks outside quotes are dropped (`Json.squeeze_pretty`).
-/

namespace ScriptShell

namespace Json

/-! ## Tokens as they are written -/

/-- The characters of a token in both forms. -/
def Token.chars : Token → List Char
  | .mark symbol => [symbol.char]
  | .boolean value => word value
  | .number token => token.toList
  | .text value => quote value

/-- A token that is written as JSON: what stands for a number is one. -/
def Token.Sound : Token → Prop
  | .number token => isNumber token.toList = true
  | _ => True

/-- The characters are the tokens one after another as they are written, with blanks around them. -/
inductive Spaced : List Token → List Char → Prop
  | nil : Spaced [] []
  | blank {c : Char} {tokens : List Token} {rest : List Char} (hblank : isBlank c = true)
      (hrest : Spaced tokens rest) : Spaced tokens (c :: rest)
  | token {token : Token} {tokens : List Token} {rest : List Char} (hends : token.EndsBefore rest)
      (hrest : Spaced tokens rest) : Spaced (token :: tokens) (token.chars ++ rest)

private theorem unit?_hexDigit :
    ∀ code < 0x20, unit? '0' '0' (hexDigit (code / 0x10)) (hexDigit (code % 0x10)) = some code := by
  decide

/-- A character in quotes is one piece. -/
theorem exists_piece_quoteChar (c : Char) :
    ∃ piece : Piece, piece.Spelled (quoteChar c) ∧
      ∀ pieces chars, characters? pieces = some chars →
        characters? (piece :: pieces) = some (c :: chars) := by
  have hplain : ∀ pieces chars, characters? pieces = some chars →
      characters? (.plain c :: pieces) = some (c :: chars) := by
    intro pieces chars h
    rw [characters?, h, Option.map_some]
  fun_cases quoteChar c with
  | case1 | case2 | case3 | case4 | case5 | case6 | case7 =>
      subst_vars
      exact ⟨_, .short rfl, hplain⟩
  | case8 _ _ _ _ _ _ _ hcontrol =>
      -- A control that is written by its number is far below the surrogates.
      refine ⟨_, .unit (unit?_hexDigit _ hcontrol), fun pieces chars h => ?_⟩
      have hhigh : isHigh c.toNat = false := by
        simp only [isHigh, Bool.and_eq_false_iff, decide_eq_false_iff_not]
        omega
      have hlow : isLow c.toNat = false := by
        simp only [isLow, Bool.and_eq_false_iff, decide_eq_false_iff_not]
        omega
      rw [characters?.eq_def]
      simp [hhigh, hlow, h]
  | case9 hquote hslash _ _ _ _ _ hcontrol =>
      exact ⟨_, .plain hquote hslash (Nat.le_of_not_lt hcontrol), hplain⟩

theorem exists_literal (text : List Char) :
    ∃ pieces, Literal pieces (text.flatMap quoteChar) ∧ characters? pieces = some text := by
  induction text with
  | nil => exact ⟨[], .nil, rfl⟩
  | cons c text ih =>
      obtain ⟨pieces, hpieces, htext⟩ := ih
      obtain ⟨piece, hpiece, hcons⟩ := exists_piece_quoteChar c
      exact ⟨piece :: pieces, .cons hpiece hpieces, hcons _ _ htext⟩

theorem Token.spelled_chars {token : Token} (h : token.Sound) : token.Spelled token.chars := by
  cases token with
  | mark mark => exact .mark mark
  | boolean value => exact .boolean value
  | number token => exact .number h
  | text value =>
      obtain ⟨pieces, hpieces, hvalue⟩ := exists_literal value.toList
      exact .text hpieces hvalue

theorem Spaced.spells {tokens : List Token} {chars : List Char} (h : Spaced tokens chars)
    (hsound : ∀ token ∈ tokens, token.Sound) : Spells tokens chars := by
  induction h with
  | nil => exact .nil
  | blank hblank _ ih => exact .blank hblank (ih hsound)
  | token hends _ ih =>
      obtain ⟨htoken, hrest⟩ := List.forall_mem_cons.mp hsound
      exact .token (Token.spelled_chars htoken) hends (ih hrest)

/-! ## Both forms -/

theorem apart_nil : Apart [] :=
  nofun

theorem apart_cons_mark (mark : Mark) (rest : List Char) : Apart (mark.char :: rest) := by
  rintro c ⟨⟩
  exact isNumeric_char mark

theorem apart_lineBreak (level : Nat) (rest : List Char) : Apart (lineBreak level ++ rest) := by
  rintro c ⟨⟩
  rfl

theorem Spaced.mark {tokens : List Token} {rest : List Char} (mark : Mark)
    (hrest : Spaced tokens rest) :
    Spaced (.mark mark :: tokens) (mark.char :: rest) :=
  .token trivial hrest

theorem Spaced.text {tokens : List Token} {rest : List Char} (value : String)
    (hrest : Spaced tokens rest) : Spaced (.text value :: tokens) (quote value ++ rest) :=
  .token trivial hrest

theorem Spaced.lineBreak {tokens : List Token} {rest : List Char} (level : Nat)
    (hrest : Spaced tokens rest) :
    Spaced tokens (lineBreak level ++ rest) := by
  have hblanks : ∀ count, Spaced tokens (List.replicate count ' ' ++ rest) := by
    intro count
    induction count with
    | zero => exact hrest
    | succ count ih => exact .blank rfl ih
  exact .blank rfl (hblanks _)

-- What comes behind a document is carried along, since a number at its end must end there.
mutual

theorem spaced_compact (document : Json) {tokens : List Token} {rest : List Char}
    (hrest : Spaced tokens rest) (hends : Apart rest) :
    Spaced (document.tokens ++ tokens) (document.compact ++ rest) := by
  cases document with
  | number token => exact .token hends hrest
  | boolean value => exact .token trivial hrest
  | text value => exact .text value hrest
  | array items =>
      simp only [Json.tokens, compact, List.cons_append, List.append_assoc, List.nil_append]
      exact .mark .openItems (spaced_compactItems items (.mark .closeItems hrest)
        (apart_cons_mark .closeItems rest))
  | object fields =>
      simp only [Json.tokens, compact, List.cons_append, List.append_assoc, List.nil_append]
      exact .mark .openFields (spaced_compactFields fields (.mark .closeFields hrest)
        (apart_cons_mark .closeFields rest))

theorem spaced_compactItems (items : List Json) {tokens : List Token} {rest : List Char}
    (hrest : Spaced tokens rest) (hends : Apart rest) :
    Spaced (itemTokens items ++ tokens) (compactItems items ++ rest) := by
  match items with
  | [] => exact hrest
  | [last] => exact spaced_compact last hrest hends
  | item :: next :: items =>
      simp only [itemTokens, compactItems, List.cons_append, List.append_assoc]
      exact spaced_compact item (.mark .comma (spaced_compactItems (next :: items) hrest hends))
        (apart_cons_mark .comma _)

theorem spaced_compactFields (fields : List (String × Json)) {tokens : List Token}
    {rest : List Char} (hrest : Spaced tokens rest) (hends : Apart rest) :
    Spaced (fieldTokens fields ++ tokens) (compactFields fields ++ rest) := by
  match fields with
  | [] => exact hrest
  | [(name, value)] =>
      simp only [fieldTokens, compactFields, List.cons_append, List.append_assoc]
      exact .text name (.mark .colon (spaced_compact value hrest hends))
  | (name, value) :: next :: fields =>
      simp only [fieldTokens, compactFields, List.cons_append, List.append_assoc]
      have hfields := spaced_compactFields (next :: fields) hrest hends
      exact .text name (.mark .colon (spaced_compact value (.mark .comma hfields)
        (apart_cons_mark .comma _)))

end

mutual

theorem spaced_pretty (level : Nat) (document : Json) {tokens : List Token} {rest : List Char}
    (hrest : Spaced tokens rest) (hends : Apart rest) :
    Spaced (document.tokens ++ tokens) (document.pretty level ++ rest) := by
  match document with
  | .number token => exact .token hends hrest
  | .boolean value => exact .token trivial hrest
  | .text value => exact .text value hrest
  | .array [] => exact .mark .openItems (.mark .closeItems hrest)
  | .array (item :: items) =>
      simp only [Json.tokens, pretty, List.cons_append, List.append_assoc, List.nil_append]
      have hclose := (Spaced.mark .closeItems hrest).lineBreak level
      exact .mark .openItems (spaced_prettyItems (level + 1) (item :: items) hclose
        (apart_lineBreak level _))
  | .object [] => exact .mark .openFields (.mark .closeFields hrest)
  | .object (field :: fields) =>
      simp only [Json.tokens, pretty, List.cons_append, List.append_assoc, List.nil_append]
      have hclose := (Spaced.mark .closeFields hrest).lineBreak level
      exact .mark .openFields (spaced_prettyFields (level + 1) (field :: fields) hclose
        (apart_lineBreak level _))

theorem spaced_prettyItems (level : Nat) (items : List Json) {tokens : List Token}
    {rest : List Char} (hrest : Spaced tokens rest) (hends : Apart rest) :
    Spaced (itemTokens items ++ tokens) (prettyItems level items ++ rest) := by
  match items with
  | [] => exact hrest
  | [last] =>
      simp only [itemTokens, prettyItems, List.append_assoc]
      exact (spaced_pretty level last hrest hends).lineBreak level
  | item :: next :: items =>
      simp only [itemTokens, prettyItems, List.cons_append, List.append_assoc]
      have hitems := spaced_prettyItems level (next :: items) hrest hends
      exact (spaced_pretty level item (.mark .comma hitems) (apart_cons_mark .comma _)).lineBreak
        level

theorem spaced_prettyFields (level : Nat) (fields : List (String × Json)) {tokens : List Token}
    {rest : List Char} (hrest : Spaced tokens rest) (hends : Apart rest) :
    Spaced (fieldTokens fields ++ tokens) (prettyFields level fields ++ rest) := by
  match fields with
  | [] => exact hrest
  | [(name, value)] =>
      simp only [fieldTokens, prettyFields, List.cons_append, List.append_assoc]
      have hvalue := spaced_pretty level value hrest hends
      exact (Spaced.text name (.mark .colon (.blank rfl hvalue))).lineBreak level
  | (name, value) :: next :: fields =>
      simp only [fieldTokens, prettyFields, List.cons_append, List.append_assoc]
      have hfields := spaced_prettyFields level (next :: fields) hrest hends
      have hvalue := spaced_pretty level value (.mark .comma hfields) (apart_cons_mark .comma _)
      exact (Spaced.text name (.mark .colon (.blank rfl hvalue))).lineBreak level

end

mutual

/-- The compact form has no blanks outside quotes at all. -/
theorem compact_eq_flatMap (document : Json) :
    document.compact = document.tokens.flatMap Token.chars := by
  match document with
  | .number token => simp [compact, Json.tokens, Token.chars]
  | .boolean value => simp [compact, Json.tokens, Token.chars]
  | .text value => simp [compact, Json.tokens, Token.chars]
  | .array items => simp [compact, Json.tokens, Token.chars, Mark.char, compactItems_eq_flatMap]
  | .object fields => simp [compact, Json.tokens, Token.chars, Mark.char, compactFields_eq_flatMap]

theorem compactItems_eq_flatMap (items : List Json) :
    compactItems items = (itemTokens items).flatMap Token.chars := by
  match items with
  | [] => rfl
  | [last] => rw [compactItems, itemTokens, compact_eq_flatMap]
  | item :: next :: items =>
      rw [compactItems, itemTokens, compact_eq_flatMap, compactItems_eq_flatMap]
      simp [Token.chars, Mark.char]

theorem compactFields_eq_flatMap (fields : List (String × Json)) :
    compactFields fields = (fieldTokens fields).flatMap Token.chars := by
  match fields with
  | [] => rfl
  | [(name, value)] =>
      rw [compactFields, fieldTokens, compact_eq_flatMap]
      simp [Token.chars, Mark.char]
  | (name, value) :: next :: fields =>
      rw [compactFields, fieldTokens, compact_eq_flatMap, compactFields_eq_flatMap]
      simp [Token.chars, Mark.char]

end

/-- A document that is written as JSON: what stands for its numbers are numbers. -/
def Sound (document : Json) : Prop :=
  ∀ token ∈ document.tokens, token.Sound

namespace Sound

theorem text (value : String) : (Json.text value).Sound :=
  List.forall_mem_singleton.mpr trivial

theorem boolean (value : Bool) : (Json.boolean value).Sound :=
  List.forall_mem_singleton.mpr trivial

theorem number {token : String} (hnumber : isNumber token.toList = true) :
    (Json.number token).Sound :=
  List.forall_mem_singleton.mpr hnumber

private theorem itemTokens {items : List Json} (hitems : ∀ item ∈ items, item.Sound) :
    ∀ token ∈ Json.itemTokens items, token.Sound := by
  match items with
  | [] => exact nofun
  | [last] => exact hitems last List.mem_cons_self
  | item :: next :: items =>
      obtain ⟨hitem, hitems⟩ := List.forall_mem_cons.mp hitems
      exact List.forall_mem_append.mpr
        ⟨hitem, List.forall_mem_cons.mpr ⟨trivial, itemTokens hitems⟩⟩

private theorem fieldTokens {fields : List (String × Json)}
    (hfields : ∀ field ∈ fields, field.2.Sound) :
    ∀ token ∈ Json.fieldTokens fields, token.Sound := by
  match fields with
  | [] => exact nofun
  | [(name, value)] =>
      have hvalue := hfields (name, value) List.mem_cons_self
      exact List.forall_mem_cons.mpr ⟨trivial, List.forall_mem_cons.mpr ⟨trivial, hvalue⟩⟩
  | (name, value) :: next :: fields =>
      obtain ⟨hvalue, hfields⟩ := List.forall_mem_cons.mp hfields
      refine List.forall_mem_cons.mpr ⟨trivial, List.forall_mem_cons.mpr ⟨trivial, ?_⟩⟩
      exact List.forall_mem_append.mpr
        ⟨hvalue, List.forall_mem_cons.mpr ⟨trivial, fieldTokens hfields⟩⟩

theorem array {items : List Json} (hitems : ∀ item ∈ items, item.Sound) :
    (Json.array items).Sound :=
  List.forall_mem_cons.mpr ⟨trivial, List.forall_mem_append.mpr
    ⟨itemTokens hitems, List.forall_mem_singleton.mpr trivial⟩⟩

theorem object {fields : List (String × Json)} (hfields : ∀ field ∈ fields, field.2.Sound) :
    (Json.object fields).Sound :=
  List.forall_mem_cons.mpr ⟨trivial, List.forall_mem_append.mpr
    ⟨fieldTokens hfields, List.forall_mem_singleton.mpr trivial⟩⟩

end Sound

theorem writes_compact {document : Json} (hsound : document.Sound) :
    Writes document document.compact := by
  have hspaced := spaced_compact document .nil apart_nil
  rw [List.append_nil, List.append_nil] at hspaced
  exact hspaced.spells hsound

theorem writes_pretty {document : Json} (hsound : document.Sound) (level : Nat) :
    Writes document (document.pretty level) := by
  have hspaced := spaced_pretty level document .nil apart_nil
  rw [List.append_nil, List.append_nil] at hspaced
  exact hspaced.spells hsound

/-! ## Without blanks -/

/-- Where a character of a text stands. -/
inductive Place where
  | outside
  | inside
  | escaped

/-- The characters without the blanks outside quotes, from a place on. -/
def squeezeFrom : Place → List Char → List Char
  | _, [] => []
  | .outside, c :: rest =>
    if isBlank c then squeezeFrom .outside rest
    else c :: squeezeFrom (if c = '"' then .inside else .outside) rest
  | .inside, c :: rest =>
    c :: squeezeFrom (if c = '"' then .outside else if c = '\\' then .escaped else .inside) rest
  | .escaped, c :: rest => c :: squeezeFrom .inside rest

/-- The characters without the blanks outside quotes. -/
def squeeze (chars : List Char) : List Char :=
  squeezeFrom .outside chars

private theorem hexDigit_plain :
    ∀ digit < 0x10, hexDigit digit ≠ '"' ∧ hexDigit digit ≠ '\\' := by
  decide

theorem squeezeFrom_quoteChar (c : Char) (rest : List Char) :
    squeezeFrom .inside (quoteChar c ++ rest) = quoteChar c ++ squeezeFrom .inside rest := by
  fun_cases quoteChar c with
  | case1 | case2 | case3 | case4 | case5 | case6 | case7 => rfl
  | case8 _ _ _ _ _ _ _ hcontrol =>
      have hhigh := hexDigit_plain (c.toNat / 0x10) (by omega)
      have hlow := hexDigit_plain (c.toNat % 0x10) (by omega)
      simp [squeezeFrom, hhigh, hlow]
  | case9 hquote hslash => simp [squeezeFrom, hquote, hslash]

theorem squeezeFrom_flatMap_quoteChar (text rest : List Char) :
    squeezeFrom .inside (text.flatMap quoteChar ++ rest) =
      text.flatMap quoteChar ++ squeezeFrom .inside rest := by
  induction text with
  | nil => rfl
  | cons c text ih =>
      rw [List.flatMap_cons, List.append_assoc, squeezeFrom_quoteChar, ih, List.append_assoc]

theorem squeeze_append_of_isNumeric {chars : List Char} (hchars : ∀ c ∈ chars, isNumeric c = true)
    (rest : List Char) : squeeze (chars ++ rest) = chars ++ squeeze rest := by
  induction chars with
  | nil => rfl
  | cons c chars ih =>
      obtain ⟨hc, hchars⟩ := List.forall_mem_cons.mp hchars
      have hblank : isBlank c = false := by
        refine Bool.eq_false_iff.mpr fun hblank => ?_
        rw [isNumeric_of_isBlank hblank] at hc
        cases hc
      have hquote : c ≠ '"' := by
        rintro rfl
        cases hc
      rw [List.cons_append, squeeze, squeezeFrom, hblank, if_neg hquote]
      exact congrArg (c :: ·) (ih hchars)

theorem squeeze_chars_append {token : Token} (h : token.Sound) (rest : List Char) :
    squeeze (token.chars ++ rest) = token.chars ++ squeeze rest := by
  cases token with
  | mark symbol => cases symbol <;> rfl
  | boolean value => cases value <;> rfl
  | number token => exact squeeze_append_of_isNumeric (isNumeric_of_isNumber h) rest
  | text value =>
      have hbody := squeezeFrom_flatMap_quoteChar value.toList ('"' :: rest)
      simpa [Token.chars, quote, squeeze, squeezeFrom, isBlank] using hbody

theorem Spaced.squeeze {tokens : List Token} {chars : List Char} (h : Spaced tokens chars)
    (hsound : ∀ token ∈ tokens, token.Sound) : squeeze chars = tokens.flatMap Token.chars := by
  induction h with
  | nil => rfl
  | blank hblank _ ih =>
      rw [Json.squeeze, squeezeFrom, if_pos hblank]
      exact ih hsound
  | token _ _ ih =>
      obtain ⟨htoken, hrest⟩ := List.forall_mem_cons.mp hsound
      rw [squeeze_chars_append htoken, ih hrest, List.flatMap_cons]

/-- The indented form of a document comes to its compact form, also in front of blanks. -/
theorem squeeze_pretty {document : Json} (hsound : document.Sound) (level : Nat)
    {blanks : List Char} (hblanks : Spaced [] blanks) (hends : Apart blanks) :
    squeeze (document.pretty level ++ blanks) = document.compact := by
  have hspaced := spaced_pretty level document hblanks hends
  rw [List.append_nil] at hspaced
  rw [hspaced.squeeze hsound, compact_eq_flatMap]

end Json

end ScriptShell
