import SchemaMigration.Proofs.CatalogRows
import SchemaMigration.Proofs.DefaultTexts
import SchemaMigration.Proofs.TableStatement

/-
  The catalog rows of a table that a blueprint creates.

  A catalog shows a column with its type in lower case, the members of an
  enumeration as they are, its default as a text, and in `Extra` whether it
  counts up, whether its default is an expression, and what it is set to on
  update. An index or a foreign key has one row for each of its columns. Three
  things are the catalog's own choice, and a `CatalogStyle` fixes them: the
  display width of whole numbers, whether the index that a foreign key brings
  with it is listed, and the order in which the rows of one index come.

  Main statement: `columnOfRow_columnRowOf`, the row of a column reads back as
  that column.
-/
namespace SchemaMigration.Catalog

open Text Sql Table Database

/-! ## Rows -/

/-- What a catalog may choose in showing a table. A signed one-digit number is a
boolean, so it is no width of a number. -/
structure CatalogStyle where
  width : Column → Option UInt32 := fun _ => none
  listsKeyIndex : ForeignKey → Bool := fun _ => true
  arrange : List KeyPart → List KeyPart := id
  width_ne_one : ∀ c : Column, c.type = .tinyInteger → c.unsigned = false → width c ≠ some 1
  arrange_perm : ∀ parts, (arrange parts).Perm parts

/-- Numbers between commas. -/
def numbers (ns : List UInt32) : List Char := [','].intercalate (ns.map fun n => digits n.toNat)

/-- Numbers in parentheses, unless there are none. -/
def argumentText (ns : List UInt32) : String :=
  if ns = [] then "" else "(" ++ String.ofList (numbers ns) ++ ")"

/-- A catalog that shows no widths, all indexes, and their rows in order. -/
def CatalogStyle.plain : CatalogStyle where
  width_ne_one _ _ _ := by simp
  arrange_perm _ := .refl _

/-- The type of a column as a catalog names it, without its attributes. -/
def shownType (type : ColumnType) (width : Option UInt32) : String :=
  match type with
  | .enum values => "enum(" ++ String.intercalate "," (values.map quoteLiteral) ++ ")"
  | t => lowered t.sql ++ argumentText (if t.isInteger then width.toList else [])

/-- The type text of a column. -/
def typeTextOf (style : CatalogStyle) (c : Column) : String :=
  shownType c.type (style.width c) ++ if c.unsigned then " unsigned" else ""

/-- The default of a column as text. -/
def defaultTextOf (c : Column) : Option String :=
  match c.default with
  | none => none
  | some .null => none
  | some (.numeric n) => some n
  | some (.bool b) => some (if b then "1" else "0")
  | some (.string s) => some s
  | some .currentTimestamp => some (currentTimestampSql c.type.fractionalPrecision)
  | some (.expression e) => some e

/-- Whether a default is an expression to the catalog. -/
def isGenerated (c : Column) : Bool :=
  match c.default with
  | some .currentTimestamp | some (.expression _) => true
  | _ => false

/-- What the catalog says of a column beside its type, default and comment. -/
def extraOf (c : Column) : String :=
  String.intercalate " " <|
    (if c.autoIncrement then ["auto_increment"] else []) ++
    (if isGenerated c then ["DEFAULT_GENERATED"] else []) ++
    if c.onUpdateCurrentTimestamp then
      ["on update " ++ currentTimestampSql c.type.fractionalPrecision]
    else []

/-- The row of a column. -/
def columnRowOf (style : CatalogStyle) (c : Column) : Row :=
  Memory.columnRow c.name (typeTextOf style c) c.nullable (defaultTextOf c) (extraOf c)
    (c.comment.getD "")

/-- The parts of an index, numbered from one. -/
def keyParts (i : Index) : List KeyPart :=
  i.columns.zipIdx.map fun cn => ⟨i.name, cn.1, (cn.2 : Int) + 1, i.kind != .index⟩

/-- The rows of an index. -/
def indexRowsOf (style : CatalogStyle) (table : String) (i : Index) : List Row :=
  (style.arrange (keyParts i)).map fun p =>
    Memory.indexRow table p.index p.sequence p.column (!p.unique) none

/-- The indexes that a catalog lists: the primary key, those that were declared, and
those of foreign keys. -/
def listedIndexes (style : CatalogStyle) (b : Blueprint) : List Index :=
  b.keyIndexes ++
    (b.foreignKeys.filter style.listsKeyIndex).map fun fk => ⟨.index, fk.name, fk.columns⟩

/-- The rows of a foreign key. -/
def foreignKeyRowsOf (fk : ForeignKey) : List Row :=
  (fk.columns.zip fk.referencesColumns).map fun cr =>
    Memory.foreignKeyRow fk.name cr.1 fk.referencesTable cr.2 fk.onDelete.sql fk.onUpdate.sql

/-- The rows of the table that a blueprint creates. -/
def catalogOf (style : CatalogStyle) (b : Blueprint) : CatalogTable where
  columns := b.columns.map (columnRowOf style)
  indexes := (listedIndexes style b).flatMap (indexRowsOf style b.table)
  foreignKeys := b.foreignKeys.flatMap foreignKeyRowsOf
  options := some (Memory.optionsRow b.engine b.charset b.collation (b.comment.getD ""))

/-! ## Columns that a catalog can show -/

/-- The defaults that a catalog shows so that they can be told apart, in a column of
a type. -/
inductive ShowsDefault (type : ColumnType) : DefaultValue → Prop
  | bool (b : Bool) : type = .boolean → ShowsDefault type (.bool b)
  | numeric (n : String) : type.isNumeric = true → type ≠ .boolean →
      isNumericLiteral n.toList = true → ShowsDefault type (.numeric n)
  | string (s : String) : type.isNumeric = false → isNullWord s = false →
      isCurrentTimestamp s = false → (∀ inner, s.toList ≠ '\'' :: inner ++ ['\'']) →
      ShowsDefault type (.string s)
  | currentTimestamp : ShowsDefault type .currentTimestamp
  | expression (e : String) : e ≠ "" → trimmed e = e → isNullWord e = false →
      isCurrentTimestamp e = false → ShowsDefault type (.expression e)

/-- A column whose row shows all of it. -/
structure ShowsColumn (c : Column) : Prop where
  after : c.after = none
  unsigned : c.unsigned = true → c.type.acceptsUnsigned = true
  comment : c.comment ≠ some ""
  default : ∀ d, c.default = some d → ShowsDefault c.type d

/-! ## Types -/

theorem isDigit_bounds {c : Char} (h : c.isDigit = true) : 48 ≤ c.toNat ∧ c.toNat ≤ 57 := by
  simpa [Char.isDigit, UInt32.le_iff_toNat_le] using h

theorem map_toLower_digits (n : Nat) : (digits n).map Char.toLower = digits n := by
  calc (digits n).map Char.toLower = (digits n).map id := by
        refine List.map_congr_left fun c hc => (toLower_eq_or c).resolve_right ?_
        have := isDigit_bounds (isDigit_of_mem_digits hc)
        omega
    _ = digits n := List.map_id _

theorem trim_digits (n : Nat) : trim (digits n) = digits n := by
  have hblank : ∀ c ∈ digits n, isBlank c = false := by
    intro c hc
    have := isDigit_bounds (isDigit_of_mem_digits hc)
    unfold isBlank
    grind
  exact trim_eq_self (fun c hc => hblank c (List.mem_of_mem_head? hc))
    (fun c hc => hblank c (List.mem_of_getLast? hc))

theorem lowered_append (a b : String) : lowered (a ++ b) = lowered a ++ lowered b := by
  simp [lowered]

theorem lowered_number (n : UInt32) : lowered (ColumnType.number n) = ColumnType.number n := by
  simp [lowered, ColumnType.number, natText, map_toLower_digits]

/-- Words that name types in lower case. -/
def IsTypeWord (word : String) : Prop :=
  word.toList ≠ [] ∧ word.toList.map Char.toLower = word.toList ∧
    ∀ c ∈ word.toList, isBlank c = false ∧ c ≠ '('

-- The characters are those of the word, not all there are.
instance (word : String) : Decidable (IsTypeWord word) :=
  haveI : Decidable (∀ c ∈ word.toList, isBlank c = false ∧ c ≠ '(') :=
    List.decidableBAll _ word.toList
  inferInstanceAs (Decidable (_ ∧ _ ∧ _))

theorem toList_attributes (u : Bool) :
    (if u then " unsigned" else "").toList.map Char.toLower = attributes u := by
  cases u <;> rfl

theorem pieces_numbers {ns : List UInt32} (h : ns ≠ []) :
    pieces (· == ',') (numbers ns) = ns.map fun n => digits n.toNat := by
  have hcomma : ∀ n : UInt32, ∀ c ∈ digits n.toNat, (c == ',') = false := by
    intro n c hc
    have := isDigit_bounds (isDigit_of_mem_digits hc)
    refine beq_eq_false_iff_ne.2 ?_
    rintro rfl
    exact absurd this (by decide)
  induction ns with
  | nil => exact absurd rfl h
  | cons n ns ih =>
    cases ns with
    | nil => simpa [numbers] using pieces_eq_singleton (hcomma n)
    | cons m ms =>
      have hsplit : numbers (n :: m :: ms) = digits n.toNat ++ ',' :: numbers (m :: ms) := by
        simp [numbers, List.intercalate_cons_cons]
      rw [hsplit, pieces_append_cons (hcomma n) rfl, ih (List.cons_ne_nil m ms)]
      rfl

/-- A type word in another letter case has no character that would end it. -/
theorem IsTypeWord.spelled {word : String} {spelled : List Char} (h : IsTypeWord word)
    (hs : spelled.map Char.toLower = word.toList) :
    spelled ≠ [] ∧ ∀ c ∈ spelled, isBlank c = false ∧ c ≠ '(' := by
  constructor
  · rintro rfl
    exact h.1 hs.symm
  · intro c hc
    obtain ⟨hblank, hopen⟩ := h.2.2 c.toLower (hs ▸ List.mem_map_of_mem hc)
    rw [isBlank_toLower] at hblank
    exact ⟨hblank, fun hc => hopen ((toLower_eq_iff (.inl (by decide))).2 hc)⟩

section
variable {word : String} {spelled tail : List Char} {u : Bool}
  (hs : spelled.map Char.toLower = word.toList) (ht : tail.map Char.toLower = attributes u)
include hs ht

theorem ofText_numbers (h : IsTypeWord word) (hw : word ≠ "enum" ∧ word ≠ "set")
    (ns : List UInt32) :
    TypeText.ofText (String.ofList (spelled ++ (argumentText ns).toList ++ tail)) =
      ⟨word, ns.map ColumnType.number, u, false⟩ := by
  obtain ⟨hne, hchars⟩ := h.spelled hs
  by_cases hns : ns = []
  · have hnone : spelled ++ (argumentText ns).toList ++ tail = spelled ++ tail := by
      simp [argumentText, hns]
    rw [hnone, ofText_bare hne hchars ht, hs, String.ofList_toList, hns]
    rfl
  · have hlist : spelled ++ (argumentText ns).toList ++ tail =
        spelled ++ '(' :: (numbers ns ++ ')' :: tail) := by
      simp [argumentText, hns]
    have hargs : (pieces (· == ',') (numbers ns)).map (fun a => String.ofList (trim a)) =
        ns.map ColumnType.number := by
      rw [pieces_numbers hns, List.map_map]
      apply List.map_congr_left
      intro n _
      rw [Function.comp_apply, trim_digits]
      rfl
    rw [hlist, ofText_withArgs _ hne hchars ht, hs, String.ofList_toList,
      if_neg (by simp [hw.1, hw.2]), hargs]

theorem ofText_members (hw : word = "enum") (values : List String) :
    TypeText.ofText (String.ofList (spelled ++ '(' :: ([','].intercalate
        ((values.map String.toList).map literal) ++ ')' :: tail))) =
      ⟨"enum", values, u, false⟩ := by
  subst hw
  obtain ⟨hne, hchars⟩ := IsTypeWord.spelled (by decide : IsTypeWord "enum") hs
  rw [ofText_withArgs _ hne hchars ht, hs, String.ofList_toList, if_pos (.inl rfl),
    quotedMembers_literals]
  simp [Function.comp_def]

end

/-- The members of an enumeration behind an opening text. -/
theorem toList_members (opening : String) (values : List String) :
    (opening ++ String.intercalate "," (values.map quoteLiteral) ++ ")").toList =
      opening.toList ++ ([','].intercalate ((values.map String.toList).map literal) ++ [')']) := by
  simp [String.toList_intercalate, quoteLiteral, Function.comp_def]

theorem arg?_numbers (word : String) (ns : List UInt32) (u : Bool) (i : Nat) :
    TypeText.arg? ⟨word, ns.map ColumnType.number, u, false⟩ i = ns[i]? := by
  simp only [TypeText.arg?, List.getElem?_map]
  cases ns[i]? with
  | none => rfl
  | some n =>
    simp [ColumnType.number, natText, trim_digits, readUInt32?_digits]

/-- The word that names a type without members. -/
def typeWord : ColumnType → String
  | .tinyInteger | .boolean => "tinyint"
  | .smallInteger => "smallint"
  | .mediumInteger => "mediumint"
  | .integer => "int"
  | .bigInteger => "bigint"
  | .decimal _ _ => "decimal"
  | .float => "float"
  | .double => "double"
  | .char _ => "char"
  | .string _ => "varchar"
  | .text => "text"
  | .mediumText => "mediumtext"
  | .longText => "longtext"
  | .date => "date"
  | .dateTime _ => "datetime"
  | .timestamp _ => "timestamp"
  | .time _ => "time"
  | .year => "year"
  | .enum _ => "enum"
  | .json => "json"

/-- The numbers behind the word. -/
def typeNumbers (width : Option UInt32) : ColumnType → List UInt32
  | .boolean => [1]
  | .decimal p s => [p, s]
  | .char n | .string n => [n]
  | .dateTime p | .timestamp p | .time p => if p = 0 then [] else [p]
  | t => if t.isInteger then width.toList else []

theorem argumentText_nil : argumentText [] = "" := rfl

theorem argumentText_cons (n : UInt32) (ns : List UInt32) :
    argumentText (n :: ns) = "(" ++ String.ofList (numbers (n :: ns)) ++ ")" := by
  rw [argumentText, if_neg (List.cons_ne_nil n ns)]

theorem argumentText_singleton (n : UInt32) :
    argumentText [n] = "(" ++ ColumnType.number n ++ ")" := by
  simp [argumentText_cons, numbers, ColumnType.number, natText]

theorem argumentText_pair (n m : UInt32) :
    argumentText [n, m] = "(" ++ ColumnType.number n ++ "," ++ ColumnType.number m ++ ")" := by
  apply String.toList_injective
  simp [argumentText_cons, numbers, ColumnType.number, natText, List.intercalate_cons_cons]

/-- A type text that is not an enumeration's is a word and numbers. -/
theorem shownType_eq {type : ColumnType} (width : Option UInt32)
    (h : ∀ values, type ≠ .enum values) :
    shownType type width = typeWord type ++ argumentText (typeNumbers width type) := by
  -- A fraction is shown unless it is zero.
  have hfraction : ∀ word : String, ∀ p : UInt32, lowered (ColumnType.withPrecision word p) =
      lowered word ++ argumentText (if p = 0 then [] else [p]) := by
    intro word p
    by_cases hp : p = 0
    · simp [ColumnType.withPrecision, hp, argumentText_nil]
    · simp +decide [ColumnType.withPrecision, hp, argumentText_singleton, lowered_append,
        lowered_number, String.append_assoc, show lowered "(" = "(" by decide,
        show lowered ")" = ")" by decide]
  have hclose : lowered ")" = ")" := by decide
  cases type with
  | enum values => exact absurd rfl (h values)
  | dateTime p | timestamp p | time p =>
    simp only [shownType, ColumnType.sql, ColumnType.isInteger, hfraction]
    exact String.append_empty
  | decimal p s =>
    have hword : lowered "DECIMAL(" = "decimal(" ∧ lowered "," = "," := by decide
    rw [typeNumbers, argumentText_pair]
    apply String.toList_injective
    simp [shownType, ColumnType.sql, ColumnType.isInteger, typeWord, lowered_append,
      lowered_number, argumentText_nil, hword, hclose]
  | char n | string n =>
    have hword : lowered "CHAR(" = "char(" ∧ lowered "VARCHAR(" = "varchar(" := by decide
    rw [typeNumbers, argumentText_singleton]
    apply String.toList_injective
    simp [shownType, ColumnType.sql, ColumnType.isInteger, typeWord, lowered_append,
      lowered_number, argumentText_nil, hword, hclose]
  | boolean =>
    have hsql : lowered ColumnType.boolean.sql = "tinyint" ++ argumentText [1] := by decide
    exact (congrArg (· ++ argumentText []) hsql).trans String.append_empty
  | tinyInteger | smallInteger | mediumInteger | integer | bigInteger =>
    exact congrArg (· ++ argumentText width.toList) (by decide)
  | _ => exact congrArg (· ++ argumentText []) (by decide)

theorem isTypeWord_typeWord (type : ColumnType) : IsTypeWord (typeWord type) := by
  cases type <;> simp only [typeWord] <;> decide

theorem typeWord_ne {type : ColumnType} (h : ∀ values, type ≠ .enum values) :
    typeWord type ≠ "enum" ∧ typeWord type ≠ "set" := by
  cases type with
  | enum values => exact absurd rfl (h values)
  | _ => simp only [typeWord]; decide

/-- A type text taken apart names its type, in every style. -/
theorem columnType?_parts {type : ColumnType} {width : Option UInt32} {u : Bool}
    (h : ∀ values, type ≠ .enum values) (hw : type = .tinyInteger → u = false → width ≠ some 1)
    (hu : u = true → type.acceptsUnsigned = true) :
    TypeText.columnType? ⟨typeWord type, (typeNumbers width type).map ColumnType.number, u, false⟩ =
      some type := by
  have harg : ∀ (word : String) (ns : List UInt32) (i : Nat),
      TypeText.arg? ⟨word, ns.map ColumnType.number, u, false⟩ i = ns[i]? :=
    fun word ns i => arg?_numbers word ns u i
  cases type with
  | enum values => exact absurd rfl (h values)
  | tinyInteger =>
    -- Signed and of width one it would read as a boolean, which the hypothesis rules out.
    simp only [TypeText.columnType?, typeWord, harg]
    rw [if_neg Bool.false_ne_true, if_neg]
    rintro ⟨-, hone, hsign⟩
    have hwidth : width = some 1 := by
      cases width with
      | none => simp [typeNumbers, ColumnType.isInteger] at hone
      | some n => simpa [typeNumbers, ColumnType.isInteger] using hone
    exact hw rfl (by simpa using hsign) hwidth
  | boolean =>
    have hsign : u = false := Bool.eq_false_iff.2 fun h => absurd (hu h) (by decide)
    rw [hsign]
    rfl
  | dateTime p | timestamp p | time p =>
    simp only [TypeText.columnType?, typeWord, typeNumbers, TypeText.precision?]
    by_cases hp : p = 0
    · simp [hp]
    · simpa [hp] using harg _ [p] 0
  | char n | string n | decimal n m =>
    simp only [TypeText.columnType?, typeWord, typeNumbers, harg]
    rfl
  | _ => rfl

/-- The type text of a column reads back as its type and sign. -/
theorem ofText_typeTextOf (style : CatalogStyle) {c : Column}
    (h : c.unsigned = true → c.type.acceptsUnsigned = true) :
    (TypeText.ofText (typeTextOf style c)).columnType? = some c.type ∧
      (TypeText.ofText (typeTextOf style c)).unsigned = c.unsigned := by
  -- The members of an enumeration are quoted, and everything else is a word and numbers.
  by_cases henum : ∀ values, c.type ≠ .enum values
  · have hw := style.width_ne_one c
    have hlist : typeTextOf style c = String.ofList ((typeWord c.type).toList ++
        (argumentText (typeNumbers (style.width c) c.type)).toList ++
          (if c.unsigned then " unsigned" else "").toList) := by
      rw [typeTextOf, shownType_eq _ henum]
      apply String.toList_injective
      simp
    have hword := isTypeWord_typeWord c.type
    rw [hlist, ofText_numbers hword.2.1 (toList_attributes c.unsigned) hword (typeWord_ne henum)]
    exact ⟨columnType?_parts henum hw h, rfl⟩
  · obtain ⟨values, hvalues⟩ : ∃ values, c.type = .enum values := by
      simpa using henum
    have hsign : c.unsigned = false := by
      apply Bool.eq_false_iff.2
      intro hu
      have haccepts := h hu
      rw [hvalues] at haccepts
      exact Bool.false_ne_true haccepts
    have hlist : typeTextOf style c = String.ofList ("enum".toList ++ '(' ::
        ([','].intercalate ((values.map String.toList).map literal) ++
          ')' :: (if c.unsigned then " unsigned" else "").toList)) := by
      rw [typeTextOf, hvalues, shownType]
      apply String.toList_injective
      rw [String.toList_append, toList_members]
      simp
    rw [hlist, ofText_members (by decide) (toList_attributes c.unsigned) rfl, hvalues]
    exact ⟨rfl, rfl⟩

/-! ## Extra -/

/-- `Extra` in lower case, without the fractional digits it may end with. -/
def extraWords (counts generated updates : Bool) : String :=
  String.intercalate " " <|
    (if counts then ["auto_increment"] else []) ++
    (if generated then ["default_generated"] else []) ++
    if updates then ["on update current_timestamp"] else []

/-- The fractional digits are all that is not fixed. -/
theorem lowered_extraOf (c : Column) :
    (lowered (extraOf c)).toList =
        (extraWords c.autoIncrement (isGenerated c) c.onUpdateCurrentTimestamp).toList ∨
      ∃ n, (lowered (extraOf c)).toList =
        (extraWords c.autoIncrement (isGenerated c) c.onUpdateCurrentTimestamp).toList ++
          '(' :: (digits n ++ [')']) := by
  by_cases hu : c.onUpdateCurrentTimestamp = true ∧ c.type.fractionalPrecision ≠ 0
  · right
    refine ⟨c.type.fractionalPrecision.toNat, ?_⟩
    have htext : currentTimestampSql c.type.fractionalPrecision =
        "CURRENT_TIMESTAMP(" ++ ColumnType.number c.type.fractionalPrecision ++ ")" := by
      apply String.toList_injective
      simp [currentTimestampSql, ColumnType.withPrecision, hu.2]
    rw [extraOf, htext, hu.1]
    cases c.autoIncrement <;> cases isGenerated c <;>
      simp [extraWords, ColumnType.number, natText, lowered, map_toLower_digits]
  · left
    by_cases hon : c.onUpdateCurrentTimestamp = true
    · have hp : c.type.fractionalPrecision = 0 := Decidable.not_not.1 fun hp => hu ⟨hon, hp⟩
      rw [extraOf, hp, hon]
      cases c.autoIncrement <;> cases isGenerated c <;>
        simp [extraWords, lowered, currentTimestampSql, ColumnType.withPrecision]
    · rw [extraOf, if_neg hon, Bool.eq_false_iff.2 hon]
      cases c.autoIncrement <;> cases isGenerated c <;> simp [extraWords, lowered]

/-- A phrase in lower case is looked for among the fixed words. -/
theorem contains_extraOf (c : Column) {phrase : String} (hp : '(' ∉ phrase.toList)
    (hu : '_' ∈ phrase.toList) :
    contains (lowered (extraOf c)) phrase =
      contains (extraWords c.autoIncrement (isGenerated c) c.onUpdateCurrentTimestamp) phrase := by
  rcases lowered_extraOf c with h | ⟨n, h⟩
  · rw [contains, h]
    rfl
  · have hdigits : '_' ∉ digits n ++ [')'] := by
      intro hmem
      rcases List.mem_append.1 hmem with hmem | hmem
      · exact absurd (isDigit_of_mem_digits hmem) (by decide)
      · exact absurd hmem (by decide)
    rw [contains, h, occursIn_append_cons hp, occursIn_eq_false_of_not_mem hu hdigits,
      Bool.or_false]
    rfl

theorem contains_extraOf_autoIncrement (c : Column) :
    contains (lowered (extraOf c)) "auto_increment" = c.autoIncrement := by
  rw [contains_extraOf c (by decide) (by decide)]
  cases c.autoIncrement <;> cases isGenerated c <;> cases c.onUpdateCurrentTimestamp <;> decide

theorem contains_extraOf_generated (c : Column) :
    contains (lowered (extraOf c)) "default_generated" = isGenerated c := by
  rw [contains_extraOf c (by decide) (by decide)]
  cases c.autoIncrement <;> cases isGenerated c <;> cases c.onUpdateCurrentTimestamp <;> decide

theorem contains_extraOf_onUpdate (c : Column) :
    contains (lowered (extraOf c)) "on update current_timestamp" = c.onUpdateCurrentTimestamp := by
  rw [contains_extraOf c (by decide) (by decide)]
  cases c.autoIncrement <;> cases isGenerated c <;> cases c.onUpdateCurrentTimestamp <;> decide

/-! ## Rows read back -/

theorem default_of_row {c : Column} (h : ∀ d, c.default = some d → ShowsDefault c.type d) :
    (if isGenerated c then (defaultTextOf c).bind generatedDefault?
      else (defaultTextOf c).bind (plainDefault? c.type)) = c.default := by
  cases hd : c.default with
  | none => simp [isGenerated, defaultTextOf, hd]
  | some d =>
    cases h d hd with
    | bool b ht =>
      simpa [isGenerated, defaultTextOf, hd, ht] using plainDefault?_bool b
    | numeric n ht hb hn =>
      simpa [isGenerated, defaultTextOf, hd] using plainDefault?_numeric ht hb hn
    | string s ht hn hc hq =>
      simpa [isGenerated, defaultTextOf, hd] using plainDefault?_string ht hn hc hq
    | currentTimestamp =>
      simpa [isGenerated, defaultTextOf, hd] using generatedDefault?_currentTimestamp _
    | expression e he ht hn hc =>
      simpa [isGenerated, defaultTextOf, hd] using generatedDefault?_expression he ht hn hc

/-- A comment that is not empty is told apart from none. -/
theorem filter_getD_empty {comment : Option String} (h : comment ≠ some "") :
    (some (comment.getD "")).filter (· ≠ "") = comment := by
  cases comment with
  | none => rfl
  | some text =>
    have htext : text ≠ "" := fun ht => h (by rw [ht])
    simp [htext]

/-- The row of a column reads back as that column. -/
theorem columnOfRow_columnRowOf (style : CatalogStyle) (table : String) {c : Column}
    (h : ShowsColumn c) :
    columnOfRow table (columnRowOf style c) = .ok ⟨c, typeTextOf style c⟩ := by
  obtain ⟨htype, hsign⟩ := ofText_typeTextOf style h.unsigned
  have hnull : sameName "YES" (if c.nullable then "YES" else "NO") = c.nullable := by
    cases c.nullable <;> decide
  have hcomment := filter_getD_empty h.comment
  have hunsigned : (c.unsigned && c.type.acceptsUnsigned) = c.unsigned := by
    cases hu : c.unsigned with
    | false => rfl
    | true => rw [h.unsigned hu]; rfl
  simp only [columnOfRow, columnRowOf, Memory.columnRow_field, Memory.columnRow_type,
    Memory.columnRow_extra, Memory.columnRow_default, Memory.columnRow_null,
    Memory.columnRow_comment, Option.getD_some, htype, hsign, contains_extraOf_generated,
    contains_extraOf_autoIncrement, contains_extraOf_onUpdate, default_of_row h.default,
    Option.any_some, hnull, hcomment, hunsigned]
  rw [← h.after]

end SchemaMigration.Catalog
