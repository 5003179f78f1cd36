import SchemaMigration.Proofs.RowReaders

/-
  Declared types read back.

  A type is declared by its keyword, by numbers or members behind it, and by `UNSIGNED`
  where the type accepts it. In any letter case of these words the declaration reads back
  as the type and the sign, whatever the members of an enumeration hold.

  So the type of an inspected column is never altered when the column is declared again.
  Its sign is: a catalog also says `unsigned` of types that do not accept it here, of
  `float unsigned` for one, and inspection accepts such a column without the word.

  Main statements: `declared_read_back`; `redeclared_iff`, exactly when a column keeps its
  sign; `unsigned_lost`.
-/
namespace SchemaMigration.Catalog

open Text Sql Table Database

/-! ## Keywords and arguments -/

/-- The word by which a type is declared. -/
def keyword (type : ColumnType) : String :=
  String.ofList (type.sql.toList.takeWhile (· ≠ '('))

/-- What stands behind the word: numbers or members in parentheses, or nothing. -/
def arguments (type : ColumnType) : String :=
  String.ofList (type.sql.toList.dropWhile (· ≠ '('))

theorem sql_eq_keyword_append (type : ColumnType) : type.sql = keyword type ++ arguments type := by
  apply String.toList_injective
  rw [String.toList_append, keyword, arguments, String.toList_ofList, String.toList_ofList,
    List.takeWhile_append_dropWhile]

/-- Where the text of a type falls apart into a word and what a parenthesis opens, these
are its keyword and its arguments. -/
theorem keyword_arguments_of_append {type : ColumnType} {word behind : List Char}
    (hsql : type.sql.toList = word ++ behind) (hword : '(' ∉ word)
    (hbehind : ∀ c ∈ behind.head?, c = '(') :
    (keyword type).toList = word ∧ (arguments type).toList = behind := by
  have hpass : ∀ c ∈ word, decide (c ≠ '(') = true := fun c hc =>
    decide_eq_true fun h => hword (h ▸ hc)
  have hstop : behind.takeWhile (· ≠ '(') = [] ∧ behind.dropWhile (· ≠ '(') = behind := by
    cases behind with
    | nil => exact ⟨rfl, rfl⟩
    | cons c cs =>
      rw [hbehind c rfl]
      exact ⟨rfl, rfl⟩
  rw [keyword, arguments, String.toList_ofList, String.toList_ofList, hsql,
    List.takeWhile_append_of_pos hpass, List.dropWhile_append_of_pos hpass, hstop.1, hstop.2,
    List.append_nil]
  exact ⟨rfl, rfl⟩

/-- A character below the letters is only itself in lower case, so is a text of these. -/
theorem eq_of_map_toLower {cs ds : List Char} (h : cs.map Char.toLower = ds)
    (hd : ∀ d ∈ ds, d.toNat < 65) : cs = ds := by
  rw [← h, eq_comm]
  refine (List.map_congr_left fun c hc => ?_).trans (List.map_id cs)
  have hbelow := hd c.toLower (h ▸ List.mem_map_of_mem hc)
  exact ((toLower_eq_iff (.inl hbelow)).1 rfl).symm

theorem toNat_lt_of_mem_argumentText {ns : List UInt32} {c : Char}
    (h : c ∈ (argumentText ns).toList) : c.toNat < 65 := by
  rw [argumentText] at h
  split at h
  · simp at h
  · rw [String.toList_append, String.toList_append, List.mem_append, List.mem_append] at h
    rcases h with (h | h) | h
    · rw [show c = '(' from by simpa using h]
      decide
    · have hnumbers : c ∈ numbers ns := by rwa [String.toList_ofList] at h
      rcases mem_intercalate hnumbers with hcomma | ⟨w, hw, hc⟩
      · rw [List.mem_singleton.1 hcomma]
        decide
      · obtain ⟨n, -, rfl⟩ := List.mem_map.1 hw
        have := isDigit_bounds (isDigit_of_mem_digits hc)
        omega
    · rw [show c = ')' from by simpa using h]
      decide

theorem head?_argumentText (ns : List UInt32) : ∀ c ∈ (argumentText ns).toList.head?, c = '(' := by
  intro c hc
  rw [argumentText] at hc
  split at hc
  · cases hc
  · rw [String.toList_append, String.toList_append, List.append_assoc] at hc
    exact (Option.some.inj hc).symm

/-- But for an enumeration, a type is declared by a word in upper case and numbers. -/
theorem keyword_arguments_of_numbers {type : ColumnType} (h : ∀ values, type ≠ .enum values) :
    (keyword type).toList.map Char.toLower = (typeWord type).toList ∧
      arguments type = argumentText (typeNumbers none type) := by
  have hshown : shownType type none = lowered type.sql := by
    cases type with
    | enum values => exact absurd rfl (h values)
    | _ => exact String.append_empty
  have hlower : type.sql.toList.map Char.toLower =
      (typeWord type).toList ++ (argumentText (typeNumbers none type)).toList := by
    rw [← String.toList_append, ← shownType_eq none h, hshown, lowered, String.toList_ofList]
  obtain ⟨word, behind, hsql, hword, hbehind⟩ := List.map_eq_append_iff.1 hlower
  have hbehind := eq_of_map_toLower hbehind fun _ => toNat_lt_of_mem_argumentText
  subst hbehind
  have hopen : '(' ∉ word := fun hc =>
    ((isTypeWord_typeWord type).2.2 '(' (hword ▸ List.mem_map_of_mem (f := Char.toLower) hc)).2 rfl
  obtain ⟨hkeyword, harguments⟩ := keyword_arguments_of_append hsql hopen (head?_argumentText _)
  rw [hkeyword]
  exact ⟨hword, String.toList_injective harguments⟩

theorem keyword_arguments_enum (values : List String) :
    (keyword (.enum values)).toList = "ENUM".toList ∧ (arguments (.enum values)).toList =
      '(' :: ([','].intercalate ((values.map String.toList).map literal) ++ [')']) := by
  have hsql : (ColumnType.enum values).sql.toList = "ENUM".toList ++
      '(' :: ([','].intercalate ((values.map String.toList).map literal) ++ [')']) :=
    toList_members "ENUM(" values
  exact keyword_arguments_of_append hsql (by decide) fun _ hc => (Option.some.inj hc).symm

/-! ## Reading a declaration -/

/-- A text declares a type, unsigned or not, in some letter case of its words. -/
inductive Declares (type : ColumnType) (unsigned : Bool) : String → Prop
  | intro (word sign : String) : sameName word (keyword type) = true →
      sameName sign (if unsigned then " UNSIGNED" else "") = true →
      Declares type unsigned (word ++ arguments type ++ sign)

/-- What a column clause says of the type declares it. -/
theorem declares_sql (type : ColumnType) (unsigned : Bool) :
    Declares type unsigned (type.sql ++ if unsigned then " UNSIGNED" else "") := by
  rw [sql_eq_keyword_append]
  exact .intro _ _ (beq_self_eq_true _) (beq_self_eq_true _)

/-- A declaration of a type reads back as the type and its sign. -/
theorem declared_read_back {type : ColumnType} {unsigned : Bool} {text : String}
    (hunsigned : unsigned = true → type.acceptsUnsigned = true)
    (h : Declares type unsigned text) :
    (TypeText.ofText text).unsigned = unsigned ∧ (TypeText.ofText text).zerofill = false ∧
      (TypeText.ofText text).columnType? = some type := by
  obtain ⟨word, sign, hword, hsign⟩ := h
  have hword := beq_iff_eq.1 hword
  have hsign : sign.toList.map Char.toLower = attributes unsigned := by
    rw [beq_iff_eq.1 hsign]
    cases unsigned <;> decide
  -- Only an enumeration has arguments in quotes.
  by_cases hnumbers : ∀ values, type ≠ .enum values
  · obtain ⟨hkeyword, harguments⟩ := keyword_arguments_of_numbers hnumbers
    have hlist : word ++ arguments type ++ sign = String.ofList (word.toList ++
        (argumentText (typeNumbers none type)).toList ++ sign.toList) := by
      rw [harguments]
      apply String.toList_injective
      simp
    rw [hlist, ofText_numbers (hword.trans hkeyword) hsign (isTypeWord_typeWord type)
      (typeWord_ne hnumbers)]
    exact ⟨rfl, rfl, columnType?_parts hnumbers (fun _ _ => (Option.some_ne_none 1).symm) hunsigned⟩
  · obtain ⟨values, rfl⟩ : ∃ values, type = .enum values := by simpa using hnumbers
    obtain ⟨hkeyword, harguments⟩ := keyword_arguments_enum values
    have hspelled : word.toList.map Char.toLower = "enum".toList := by
      rw [hword, hkeyword]
      decide
    have hlist : word ++ arguments (.enum values) ++ sign = String.ofList (word.toList ++
        '(' :: ([','].intercalate ((values.map String.toList).map literal) ++
          ')' :: sign.toList)) := by
      apply String.toList_injective
      rw [String.toList_append, String.toList_append, harguments]
      simp
    rw [hlist, ofText_members hspelled hsign rfl]
    exact ⟨rfl, rfl, rfl⟩

/-- Members that hold all that separates them, and a number in mixed letter case. -/
theorem declared_read_back_mixed :
    (TypeText.ofText "eNum('','it''s','a\\\\b','x,(y)')").columnType? =
        some (.enum ["", "it's", "a\\b", "x,(y)"]) ∧
      (TypeText.ofText "Decimal(8,2) unSIGNED").unsigned = true ∧
      (TypeText.ofText "Decimal(8,2) unSIGNED").columnType? = some (.decimal 8 2) := by
  have hmembers : "eNum('','it''s','a\\\\b','x,(y)')" =
      "eNum" ++ arguments (.enum ["", "it's", "a\\b", "x,(y)"]) ++ "" := by decide +kernel
  have hnumbers : "Decimal(8,2) unSIGNED" =
      "Decimal" ++ arguments (.decimal 8 2) ++ " unSIGNED" := by decide +kernel
  have henum := @declared_read_back (.enum ["", "it's", "a\\b", "x,(y)"]) false _ (by decide)
    (.intro "eNum" "" (by decide +kernel) (by decide))
  have hdecimal := @declared_read_back (.decimal 8 2) true _ (fun _ => rfl)
    (.intro "Decimal" " unSIGNED" (by decide +kernel) (by decide))
  rw [← hmembers] at henum
  rw [← hnumbers] at hdecimal
  exact ⟨henum.2.2, hdecimal.1, hdecimal.2.2⟩

/-! ## Columns declared again -/

/-- What the definition of a column says of its type. -/
def typeClause (c : Column) : String :=
  c.type.sql ++ if c.unsigned && c.type.acceptsUnsigned then " UNSIGNED" else ""

/-- A column that a type cannot be unsigned in is inspected as signed. -/
theorem unsigned_of_columnOfRow {table : String} {row : Row} {i : InspectedColumn}
    (h : columnOfRow table row = .ok i) :
    i.column.unsigned = ((TypeText.ofText i.rawType).unsigned && i.column.type.acceptsUnsigned) := by
  rw [columnOfRow] at h
  split at h
  · cases h
  dsimp only at h
  split at h
  · cases h
  · obtain rfl := Except.ok.inj h
    dsimp only

/-- An inspected column is declared with the type of its row, whatever the row says. The sign
is that of the row exactly if a type that is said to be unsigned accepts it. -/
theorem redeclared_iff {table : String} {row : Row} {i : InspectedColumn}
    (h : columnOfRow table row = .ok i) :
    i.rawType = (row.text? "Type").getD "" ∧
      i.column.definition = typeClause i.column ++ (attributesOf i.column).sql ∧
      (TypeText.ofText (typeClause i.column)).columnType? =
        (TypeText.ofText i.rawType).columnType? ∧
      ((TypeText.ofText (typeClause i.column)).unsigned = (TypeText.ofText i.rawType).unsigned ↔
        ((TypeText.ofText i.rawType).unsigned = true → i.column.type.acceptsUnsigned = true)) := by
  obtain ⟨htype, hraw, -⟩ := columnOfRow_eq_ok h
  have hkeeps : (i.column.unsigned && i.column.type.acceptsUnsigned) =
      ((TypeText.ofText i.rawType).unsigned && i.column.type.acceptsUnsigned) := by
    rw [unsigned_of_columnOfRow h, Bool.and_assoc, Bool.and_self]
  obtain ⟨hsign, -, hread⟩ := declared_read_back (fun hsign => (Bool.and_eq_true_iff.1 hsign).2)
    (declares_sql i.column.type (i.column.unsigned && i.column.type.acceptsUnsigned))
  have hclause : (TypeText.ofText (typeClause i.column)).unsigned =
      ((TypeText.ofText i.rawType).unsigned && i.column.type.acceptsUnsigned) := hsign.trans hkeeps
  refine ⟨hraw, definition_eq i.column, hread.trans htype.symm, ?_⟩
  rw [hclause, Bool.and_eq_left_iff_imp]

/-- A number that is said to be unsigned and accepts it is declared as in the catalog. -/
theorem redeclared_iff_decimal :
    ∃ i, columnOfRow "orders" (Memory.columnRow "total" "decimal(8,2) unsigned" false none "" "") =
        .ok i ∧
      i.column.definition = "DECIMAL(8,2) UNSIGNED NOT NULL" ∧
      (TypeText.ofText (typeClause i.column)).unsigned = true := by
  refine ⟨_, rfl, by decide +kernel, ?_⟩
  obtain ⟨-, -, -, hsign⟩ := @redeclared_iff "orders"
    (Memory.columnRow "total" "decimal(8,2) unsigned" false none "" "") _ rfl
  exact (hsign.2 fun _ => rfl).trans (by decide +kernel)

/-- A floating point number that is said to be unsigned is accepted without the word. -/
theorem unsigned_lost :
    ∃ i, columnOfRow "orders" (Memory.columnRow "price" "float unsigned" false none "" "") = .ok i ∧
      i.column.definition = "FLOAT NOT NULL" ∧ typeClause i.column = "FLOAT" ∧
      (TypeText.ofText "float unsigned").unsigned = true ∧
      (TypeText.ofText "FLOAT").unsigned = false := by
  refine ⟨_, rfl, ?_, ?_, ?_, ?_⟩
  · decide +kernel
  · decide +kernel
  · decide +kernel
  · decide +kernel

end SchemaMigration.Catalog
