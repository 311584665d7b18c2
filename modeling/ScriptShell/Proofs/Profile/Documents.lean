import ScriptShell.Proofs.Profile.Tokens

/-!
# JSON documents as texts

A document has one list of tokens (`Json.tokens`), and a text is a text of the document if it spells
them. `Json.read?` reads a text by recursive descent over its tokens: it gives a document exactly if
the text is one of that document (`Json.read?_eq_some_iff`). So no text is one of two documents.
-/

namespace ScriptShell

namespace Json

/-! ## The tokens of a document -/

mutual

/-- The tokens of a document. -/
def tokens : Json → List Token
  | .number token => [.number token]
  | .boolean value => [.boolean value]
  | .text value => [.text value]
  | .array items => .mark .openItems :: (itemTokens items ++ [.mark .closeItems])
  | .object fields => .mark .openFields :: (fieldTokens fields ++ [.mark .closeFields])

/-- The tokens of items with a comma between each two. -/
def itemTokens : List Json → List Token
  | [] => []
  | [last] => last.tokens
  | item :: next :: rest => item.tokens ++ .mark .comma :: itemTokens (next :: rest)

/-- The tokens of fields with a comma between each two. -/
def fieldTokens : List (String × Json) → List Token
  | [] => []
  | [(name, value)] => .text name :: .mark .colon :: value.tokens
  | (name, value) :: next :: rest =>
    .text name :: .mark .colon :: (value.tokens ++ .mark .comma :: fieldTokens (next :: rest))

end

/-- The characters are a text of the document. -/
def Writes (document : Json) (chars : List Char) : Prop :=
  Spells document.tokens chars

/-! ## Reading -/

mutual

/-- Reads the document that tokens begin with, to a depth. -/
def value? : Nat → List Token → Option (Json × List Token)
  | _ + 1, .number token :: rest => some (.number token, rest)
  | _ + 1, .boolean value :: rest => some (.boolean value, rest)
  | _ + 1, .text value :: rest => some (.text value, rest)
  | _ + 1, .mark .openItems :: .mark .closeItems :: rest => some (.array [], rest)
  | depth + 1, .mark .openItems :: rest =>
    (items? depth rest).map fun (items, rest) => (.array items, rest)
  | _ + 1, .mark .openFields :: .mark .closeFields :: rest => some (.object [], rest)
  | depth + 1, .mark .openFields :: rest =>
    (fields? depth rest).map fun (fields, rest) => (.object fields, rest)
  | _, _ => none

/-- Reads items up to the bracket that closes them. -/
def items? : Nat → List Token → Option (List Json × List Token)
  | 0, _ => none
  | depth + 1, tokens =>
    match value? depth tokens with
    | some (item, .mark .comma :: rest) =>
      (items? depth rest).map fun (items, rest) => (item :: items, rest)
    | some (item, .mark .closeItems :: rest) => some ([item], rest)
    | _ => none

/-- Reads fields up to the brace that closes them. -/
def fields? : Nat → List Token → Option (List (String × Json) × List Token)
  | depth + 1, .text name :: .mark .colon :: tokens =>
    match value? depth tokens with
    | some (value, .mark .comma :: rest) =>
      (fields? depth rest).map fun (fields, rest) => ((name, value) :: fields, rest)
    | some (value, .mark .closeFields :: rest) => some ([(name, value)], rest)
    | _ => none
  | _, _ => none

end

/-- Reads the document of a text. -/
def read? (chars : List Char) : Option Json := do
  let tokens ← tokens? chars
  match value? tokens.length tokens with
  | some (document, []) => some document
  | _ => none

/-! ## What is written is read -/

/-- A document does not begin with the bracket that closes items. -/
theorem exists_tokens_eq (document : Json) :
    ∃ token rest, document.tokens = token :: rest ∧ token ≠ .mark .closeItems := by
  cases document <;> exact ⟨_, _, rfl, nofun⟩

theorem exists_itemTokens_eq (item : Json) (items : List Json) :
    ∃ token rest, itemTokens (item :: items) = token :: rest ∧ token ≠ .mark .closeItems := by
  obtain ⟨token, rest, htokens, hopens⟩ := item.exists_tokens_eq
  cases items with
  | nil => exact ⟨token, rest, htokens, hopens⟩
  | cons next items => exact ⟨token, _, by rw [itemTokens, htokens, List.cons_append], hopens⟩

theorem value?_openItems {tokens : List Token} (depth : Nat)
    (hopens : tokens.head? ≠ some (.mark .closeItems)) :
    value? (depth + 1) (.mark .openItems :: tokens) =
      (items? depth tokens).map fun (items, rest) => (.array items, rest) := by
  rw [value?]
  rintro rest rfl
  exact hopens rfl

theorem value?_openFields {tokens : List Token} (depth : Nat)
    (hopens : tokens.head? ≠ some (.mark .closeFields)) :
    value? (depth + 1) (.mark .openFields :: tokens) =
      (fields? depth tokens).map fun (fields, rest) => (.object fields, rest) := by
  rw [value?]
  rintro rest rfl
  exact hopens rfl

-- Every level of the descent begins with a token of its own, so the number of tokens is a depth that
-- is never used up. The two companions need one level more, for the step from item to item.
mutual

theorem value?_tokens (document : Json) (rest : List Token) (depth : Nat)
    (hdepth : document.tokens.length ≤ depth) :
    value? depth (document.tokens ++ rest) = some (document, rest) := by
  obtain ⟨depth, rfl⟩ : ∃ n, depth = n + 1 := by
    obtain ⟨first, others, hfirst, -⟩ := document.exists_tokens_eq
    rw [hfirst, List.length_cons] at hdepth
    exact Nat.exists_eq_succ_of_ne_zero (by omega)
  cases document with
  | number | boolean | text => rfl
  | array items =>
      cases items with
      | nil => rfl
      | cons item items =>
          rw [tokens, List.length_cons, List.length_append, List.length_singleton] at hdepth
          have hread := items?_itemTokens item items rest depth (by omega)
          obtain ⟨first, others, hfirst, hopens⟩ := exists_itemTokens_eq item items
          rw [tokens, List.cons_append, List.append_assoc, List.singleton_append,
            value?_openItems _ (by simpa [hfirst] using hopens), hread, Option.map_some]
  | object fields =>
      cases fields with
      | nil => rfl
      | cons field fields =>
          obtain ⟨name, value⟩ := field
          rw [tokens, List.length_cons, List.length_append, List.length_singleton] at hdepth
          have hread := fields?_fieldTokens name value fields rest depth (by omega)
          have hopens : (fieldTokens ((name, value) :: fields) ++
              .mark .closeFields :: rest).head? ≠ some (.mark .closeFields) := by
            cases fields <;> simp [fieldTokens]
          rw [tokens, List.cons_append, List.append_assoc, List.singleton_append,
            value?_openFields _ hopens, hread, Option.map_some]
termination_by depth

theorem items?_itemTokens (item : Json) (items : List Json) (rest : List Token) (depth : Nat)
    (hdepth : (itemTokens (item :: items)).length < depth) :
    items? depth (itemTokens (item :: items) ++ .mark .closeItems :: rest) =
      some (item :: items, rest) := by
  obtain ⟨depth, rfl⟩ : ∃ n, depth = n + 1 := Nat.exists_eq_succ_of_ne_zero (by omega)
  cases items with
  | nil =>
      have hread := value?_tokens item (.mark .closeItems :: rest) depth (Nat.le_of_lt_succ hdepth)
      rw [itemTokens, items?, hread]
  | cons next items =>
      rw [itemTokens, List.length_append, List.length_cons] at hdepth
      have hread := value?_tokens item
        (.mark .comma :: (itemTokens (next :: items) ++ .mark .closeItems :: rest)) depth (by omega)
      have hrest := items?_itemTokens next items rest depth (by omega)
      rw [itemTokens, List.append_assoc, List.cons_append, items?, hread]
      simp only [hrest, Option.map_some]
termination_by depth

theorem fields?_fieldTokens (name : String) (value : Json) (fields : List (String × Json))
    (rest : List Token) (depth : Nat)
    (hdepth : (fieldTokens ((name, value) :: fields)).length < depth) :
    fields? depth (fieldTokens ((name, value) :: fields) ++ .mark .closeFields :: rest) =
      some ((name, value) :: fields, rest) := by
  obtain ⟨depth, rfl⟩ : ∃ n, depth = n + 1 := Nat.exists_eq_succ_of_ne_zero (by omega)
  cases fields with
  | nil =>
      rw [fieldTokens, List.length_cons, List.length_cons] at hdepth
      have hread := value?_tokens value (.mark .closeFields :: rest) depth (by omega)
      rw [fieldTokens, List.cons_append, List.cons_append, fields?, hread]
  | cons next fields =>
      obtain ⟨other, next⟩ := next
      rw [fieldTokens, List.length_cons, List.length_cons, List.length_append,
        List.length_cons] at hdepth
      have hread := value?_tokens value (.mark .comma ::
        (fieldTokens ((other, next) :: fields) ++ .mark .closeFields :: rest)) depth (by omega)
      have hrest := fields?_fieldTokens other next fields rest depth (by omega)
      rw [fieldTokens, List.cons_append, List.cons_append, List.append_assoc, List.cons_append,
        fields?, hread]
      simp only [hrest, Option.map_some]
termination_by depth

end

/-! ## What is read was written -/

mutual

theorem eq_tokens_of_value? {depth : Nat} {tokens rest : List Token} {document : Json}
    (h : value? depth tokens = some (document, rest)) : tokens = document.tokens ++ rest := by
  revert h
  fun_cases value? depth tokens with
  | case1 | case2 | case3 | case4 | case6 =>
      rintro ⟨⟩
      rfl
  | case5 depth others =>
      intro h
      obtain ⟨⟨items, behind⟩, hitems, heq⟩ := Option.map_eq_some_iff.mp h
      cases heq
      rw [(eq_itemTokens_of_items? hitems).2, Json.tokens, List.cons_append, List.append_assoc,
        List.singleton_append]
  | case7 depth others =>
      intro h
      obtain ⟨⟨fields, behind⟩, hfields, heq⟩ := Option.map_eq_some_iff.mp h
      cases heq
      rw [(eq_fieldTokens_of_fields? hfields).2, Json.tokens, List.cons_append, List.append_assoc,
        List.singleton_append]
  | case8 => exact nofun
termination_by depth

theorem eq_itemTokens_of_items? {depth : Nat} {tokens rest : List Token} {items : List Json}
    (h : items? depth tokens = some (items, rest)) :
    items ≠ [] ∧ tokens = itemTokens items ++ .mark .closeItems :: rest := by
  revert h
  fun_cases items? depth tokens with
  | case1 => exact nofun
  | case2 depth tokens item others hitem =>
      intro h
      obtain ⟨⟨items, behind⟩, hitems, heq⟩ := Option.map_eq_some_iff.mp h
      cases heq
      obtain ⟨hne, hothers⟩ := eq_itemTokens_of_items? hitems
      obtain ⟨next, items, rfl⟩ := List.exists_cons_of_ne_nil hne
      refine ⟨List.cons_ne_nil _ _, ?_⟩
      rw [eq_tokens_of_value? hitem, hothers, itemTokens, List.append_assoc, List.cons_append]
  | case3 depth tokens item others hitem =>
      rintro ⟨⟩
      exact ⟨List.cons_ne_nil _ _, eq_tokens_of_value? hitem⟩
  | case4 => exact nofun
termination_by depth

theorem eq_fieldTokens_of_fields? {depth : Nat} {tokens rest : List Token}
    {fields : List (String × Json)} (h : fields? depth tokens = some (fields, rest)) :
    fields ≠ [] ∧ tokens = fieldTokens fields ++ .mark .closeFields :: rest := by
  revert h
  fun_cases fields? depth tokens with
  | case1 depth name others value others' hvalue =>
      intro h
      obtain ⟨⟨fields, behind⟩, hfields, heq⟩ := Option.map_eq_some_iff.mp h
      cases heq
      obtain ⟨hne, hothers⟩ := eq_fieldTokens_of_fields? hfields
      obtain ⟨next, fields, rfl⟩ := List.exists_cons_of_ne_nil hne
      refine ⟨List.cons_ne_nil _ _, ?_⟩
      rw [eq_tokens_of_value? hvalue, hothers, fieldTokens, List.cons_append, List.cons_append,
        List.append_assoc, List.cons_append]
  | case2 depth name others value others' hvalue =>
      rintro ⟨⟩
      refine ⟨List.cons_ne_nil _ _, ?_⟩
      rw [eq_tokens_of_value? hvalue, fieldTokens, List.cons_append, List.cons_append]
  | case3 => exact nofun
  | case4 => exact nofun
termination_by depth

end

/-- The document that is read is the one that the text is a text of. -/
theorem read?_eq_some_iff {chars : List Char} {document : Json} :
    read? chars = some document ↔ Writes document chars := by
  unfold read? Writes
  constructor
  · intro h
    obtain ⟨tokens, htokens, h⟩ := Option.bind_eq_some_iff.mp h
    split at h
    · rename_i hvalue
      cases h
      have hall := eq_tokens_of_value? hvalue
      rw [List.append_nil] at hall
      exact hall ▸ tokens?_eq_some_iff.mp htokens
    · cases h
  · intro h
    have hvalue := value?_tokens document [] document.tokens.length (Nat.le_refl _)
    rw [List.append_nil] at hvalue
    rw [tokens?_eq_some_iff.mpr h, Option.bind_eq_bind, Option.bind_some, hvalue]

/-- A text is a text of one document at most. -/
theorem Writes.unique {first second : Json} {chars : List Char} (hfirst : Writes first chars)
    (hsecond : Writes second chars) : first = second := by
  rw [← read?_eq_some_iff] at hfirst hsecond
  exact Option.some.inj (hfirst.symm.trans hsecond)

end Json

end ScriptShell
