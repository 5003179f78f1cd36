import SchemaMigration.Catalog.TypeText

/-
  Type texts read back.

  A type text is a word, in most types followed by arguments in parentheses, and
  then by attributes. `TypeText.ofText` finds these parts again: the word ends at
  the first parenthesis that opens, the arguments at the last that closes, so a
  member of an enumeration may hold parentheses, commas, quotes and backslashes.
  The letter case of the word and of the attributes does not count.

  Main statements: `quotedMembers_literals`, the members of an enumeration read
  back whatever they hold; `ofText_bare` and `ofText_withArgs`, a type text falls
  into the parts it was made of.
-/
namespace SchemaMigration.Catalog

open Text Sql Table

/-! ## Letter case -/

theorem toLower_eq_or (c : Char) :
    c.toLower = c ∨ 65 ≤ c.toNat ∧ c.toNat ≤ 90 ∧ c.toLower.toNat = c.toNat + 32 := by
  unfold Char.toLower
  split
  · rename_i h
    have hA : 65 ≤ c.val.toNat := UInt32.le_iff_toNat_le.1 h.1
    have hZ : c.val.toNat ≤ 90 := UInt32.le_iff_toNat_le.1 h.2
    have hgap : ('a'.val - 'A'.val).toNat = 32 := by decide
    refine .inr ⟨hA, hZ, ?_⟩
    show (c.val + ('a'.val - 'A'.val)).toNat = c.val.toNat + 32
    rw [UInt32.toNat_add, hgap]
    omega
  · exact .inl rfl

theorem isBlank_toLower (c : Char) : isBlank c.toLower = isBlank c := by
  rcases toLower_eq_or c with h | ⟨hA, hZ, hl⟩
  · rw [h]
  · unfold isBlank
    simp only [hl]
    grind

/-- A character that is below the letters, or between those of the two cases, is only itself
in lower case. -/
theorem toLower_eq_iff {c d : Char} (hd : d.toNat < 65 ∨ 90 < d.toNat ∧ d.toNat < 97) :
    c.toLower = d ↔ c = d := by
  rcases toLower_eq_or c with h | ⟨hA, hZ, hl⟩
  · rw [h]
  · constructor
    · rintro rfl
      omega
    · rintro rfl
      omega

/-! ## Cutting -/

theorem typeParts_withArgs {head list tail : List Char} (hh : '(' ∉ head) (ht : ')' ∉ tail) :
    typeParts (head ++ '(' :: (list ++ ')' :: tail)) = (head, some list, tail) := by
  have hopen := cutAt_beq_append hh (list ++ ')' :: tail)
  have hclose := cutAtLast_beq_append list ht
  rw [typeParts, hopen, Option.bind_some, hclose]
  rfl

theorem typeParts_bare {head tail : List Char} (hh : ∀ c ∈ head, isBlank c = false ∧ c ≠ '(')
    (ht : '(' ∉ tail) (hs : ∀ c ∈ tail.head?, isBlank c = true) :
    typeParts (head ++ tail) = (head, none, tail.drop 1) := by
  have hopen : cutAt (· == '(') (head ++ tail) = none := by
    refine cutAt_eq_none_iff.2 fun c hc => beq_eq_false_iff_ne.2 ?_
    rcases List.mem_append.1 hc with hc | hc
    · exact (hh c hc).2
    · exact fun h => ht (h ▸ hc)
  rw [typeParts, hopen]
  cases tail with
  | nil =>
    rw [List.append_nil, cutAt_eq_none_iff.2 fun c hc => (hh c hc).1]
    rfl
  | cons d tail =>
    rw [cutAt_append_of_not (fun c hc => (hh c hc).1) (hs d rfl)]
    rfl

/-! ## Members of an enumeration -/

/-- A quote that no other follows closes a member. -/
theorem quotedMembers_close (acc rest : List Char) (h : rest.head? ≠ some '\'') :
    quotedMembers (some acc) ('\'' :: rest) = acc.reverse :: quotedMembers none rest := by
  cases rest with
  | nil => simp [quotedMembers]
  | cons d ds =>
    have hd : d ≠ '\'' := by simpa using h
    conv => lhs; rw [quotedMembers.eq_def]
    simp [hd]

theorem quotedMembers_literalBody (acc value rest : List Char) (h : rest.head? ≠ some '\'') :
    quotedMembers (some acc) (doubled '\'' (doubled '\\' value) ++ '\'' :: rest) =
      (acc.reverse ++ value) :: quotedMembers none rest := by
  induction value generalizing acc with
  | nil => simpa [doubled] using quotedMembers_close acc rest h
  | cons c cs ih =>
    -- A backslash and a quote stand twice in the literal, anything else as it is.
    by_cases hb : c = '\\'
    · subst hb
      have hstep : doubled '\'' (doubled '\\' ('\\' :: cs)) ++ '\'' :: rest =
          '\\' :: '\\' :: (doubled '\'' (doubled '\\' cs) ++ '\'' :: rest) := by
        simp [doubled]
      rw [hstep, quotedMembers, ih]
      simp
    · by_cases hq : c = '\''
      · subst hq
        have hstep : doubled '\'' (doubled '\\' ('\'' :: cs)) ++ '\'' :: rest =
            '\'' :: '\'' :: (doubled '\'' (doubled '\\' cs) ++ '\'' :: rest) := by
          simp [doubled]
        rw [hstep, quotedMembers, ih]
        simp
      · have hstep : doubled '\'' (doubled '\\' (c :: cs)) ++ '\'' :: rest =
            c :: (doubled '\'' (doubled '\\' cs) ++ '\'' :: rest) := by
          simp [doubled, hb, hq]
        rw [hstep, quotedMembers, if_neg hq, if_neg hb, ih]
        · simp
        · exact fun _ h => absurd h hq
        · exact fun _ _ h => absurd h hb

theorem quotedMembers_literal (value rest : List Char) (h : rest.head? ≠ some '\'') :
    quotedMembers none (literal value ++ rest) = value :: quotedMembers none rest := by
  have hlit : literal value ++ rest =
      '\'' :: (doubled '\'' (doubled '\\' value) ++ '\'' :: rest) := by simp [literal]
  rw [hlit, quotedMembers, if_pos rfl, quotedMembers_literalBody [] value rest h]
  rfl

/-- Members written as literals between commas read back, whatever they hold. -/
theorem quotedMembers_literals (values : List (List Char)) :
    quotedMembers none ([','].intercalate (values.map literal)) = values := by
  induction values with
  | nil => rfl
  | cons v vs ih =>
    cases vs with
    | nil =>
      have := quotedMembers_literal v [] (by simp)
      simpa [quotedMembers] using this
    | cons w ws =>
      rw [List.map_cons, List.map_cons, List.intercalate_cons_cons, List.append_assoc,
        quotedMembers_literal v _ (by simp)]
      show v :: quotedMembers none (',' :: [','].intercalate (literal w :: ws.map literal)) = _
      rw [quotedMembers, if_neg (by decide)]
      exact congrArg (v :: ·) ih

/-! ## Whole type texts -/

/-- What a type text says behind its word and arguments. -/
def attributes (unsigned : Bool) : List Char := if unsigned then " unsigned".toList else []

section
variable {word tail : List Char} {u : Bool}

theorem mem_attributes (ht : tail.map Char.toLower = attributes u) {c : Char} (hc : c ∈ tail) :
    c.toLower ∈ attributes u := ht ▸ List.mem_map_of_mem hc

theorem not_mem_of_attributes (ht : tail.map Char.toLower = attributes u) {d : Char}
    (hd : d.toNat < 65) (hu : d ∉ attributes true) : d ∉ tail := by
  intro hc
  have hmem := mem_attributes ht hc
  rw [(toLower_eq_iff (.inl hd)).2 rfl] at hmem
  cases u with
  | true => exact hu hmem
  | false => simp [attributes] at hmem

theorem isBlank_getLast?_of_attributes (ht : tail.map Char.toLower = attributes u) :
    ∀ c ∈ tail.getLast?, isBlank c = false := by
  intro c hc
  have hlast : (attributes u).getLast? = some c.toLower := by
    rw [← ht, List.getLast?_map, Option.mem_def.1 hc]
    rfl
  rw [← isBlank_toLower]
  cases u with
  | true => rw [show c.toLower = 'd' from (Option.some.inj hlast).symm]; rfl
  | false => simp [attributes] at hlast

theorem isBlank_head?_of_attributes (ht : tail.map Char.toLower = attributes u) :
    ∀ c ∈ tail.head?, isBlank c = true := by
  intro c hc
  have hhead : (attributes u).head? = some c.toLower := by
    rw [← ht, List.head?_map, Option.mem_def.1 hc]
    rfl
  rw [← isBlank_toLower]
  cases u with
  | true => rw [show c.toLower = ' ' from (Option.some.inj hhead).symm]; rfl
  | false => simp [attributes] at hhead

theorem words_attributes (u : Bool) :
    (words (attributes u)).map String.ofList = if u then ["unsigned"] else [] := by
  cases u <;> decide

theorem words_drop_attributes (u : Bool) :
    (words ((attributes u).drop 1)).map String.ofList = if u then ["unsigned"] else [] := by
  cases u <;> decide

/-- A type text without arguments. -/
theorem ofText_bare (hne : word ≠ []) (hw : ∀ c ∈ word, isBlank c = false ∧ c ≠ '(')
    (ht : tail.map Char.toLower = attributes u) :
    TypeText.ofText (String.ofList (word ++ tail)) =
      ⟨String.ofList (word.map Char.toLower), [], u, false⟩ := by
  -- The word begins the text and the attributes, if there are any, end it; neither with a blank.
  have htrim : trim (word ++ tail) = word ++ tail := by
    refine trim_eq_self (fun c hc => ?_) (fun c hc => ?_)
    · rw [List.head?_append, List.head?_eq_some_head hne] at hc
      exact (hw c (Option.some.inj hc ▸ List.head_mem hne)).1
    · rw [List.getLast?_append] at hc
      cases hl : tail.getLast? with
      | some d => exact isBlank_getLast?_of_attributes ht c (by rw [hl] at hc ⊢; exact hc)
      | none =>
        rw [hl] at hc
        exact (hw c (List.mem_of_getLast? hc)).1
  have hparts : typeParts (word ++ tail) = (word, none, tail.drop 1) :=
    typeParts_bare hw (not_mem_of_attributes ht (by decide) (by decide))
      (isBlank_head?_of_attributes ht)
  have hword : trim word = word :=
    trim_eq_self (fun c hc => (hw c (List.mem_of_mem_head? hc)).1)
      (fun c hc => (hw c (List.mem_of_getLast? hc)).1)
  have hquals : (words ((tail.drop 1).map Char.toLower)).map String.ofList =
      if u then ["unsigned"] else [] := by
    rw [List.map_drop, ht, words_drop_attributes]
  simp only [TypeText.ofText, String.toList_ofList, htrim, hparts, hword, hquals]
  cases u <;> simp

/-- A type text with arguments: members of an enumeration, or pieces between commas. -/
theorem ofText_withArgs (list : List Char) (hne : word ≠ [])
    (hw : ∀ c ∈ word, isBlank c = false ∧ c ≠ '(')
    (ht : tail.map Char.toLower = attributes u) :
    TypeText.ofText (String.ofList (word ++ '(' :: (list ++ ')' :: tail))) =
      ⟨String.ofList (word.map Char.toLower),
        if String.ofList (word.map Char.toLower) = "enum" ∨
            String.ofList (word.map Char.toLower) = "set" then
          (quotedMembers none list).map String.ofList
        else (pieces (· == ',') list).map (fun a => String.ofList (trim a)), u, false⟩ := by
  -- Without attributes the text ends with the parenthesis.
  have htrim : trim (word ++ '(' :: (list ++ ')' :: tail)) = word ++ '(' :: (list ++ ')' :: tail) := by
    refine trim_eq_self (fun c hc => ?_) (fun c hc => ?_)
    · rw [List.head?_append, List.head?_eq_some_head hne] at hc
      exact (hw c (Option.some.inj hc ▸ List.head_mem hne)).1
    · have hshape : word ++ '(' :: (list ++ ')' :: tail) = (word ++ '(' :: list) ++ (')' :: tail) := by
        simp
      rw [hshape, List.getLast?_append] at hc
      cases hl : tail.getLast? with
      | some d =>
        have hcons : (')' :: tail).getLast? = some d := by
          rw [List.getLast?_cons, hl]
          rfl
        rw [hcons] at hc
        exact isBlank_getLast?_of_attributes ht c (by rw [hl]; exact hc)
      | none =>
        rw [List.getLast?_eq_none_iff.1 hl] at hc
        obtain rfl : ')' = c := by simpa using hc
        rfl
  have hparts : typeParts (word ++ '(' :: (list ++ ')' :: tail)) = (word, some list, tail) :=
    typeParts_withArgs (fun h => (hw _ h).2 rfl)
      (not_mem_of_attributes ht (by decide) (by decide))
  have hword : trim word = word :=
    trim_eq_self (fun c hc => (hw c (List.mem_of_mem_head? hc)).1)
      (fun c hc => (hw c (List.mem_of_getLast? hc)).1)
  have hquals : (words (tail.map Char.toLower)).map String.ofList =
      if u then ["unsigned"] else [] := by
    rw [ht, words_attributes]
  simp only [TypeText.ofText, String.toList_ofList, htrim, hparts, hword, hquals]
  cases u <;> simp

end

end SchemaMigration.Catalog
