import SchemaMigration.Proofs.RowReaders

/-
  Defaults that keep their value.

  A catalog gives a plain default as the value itself and a generated one as an expression.
  Inspection keeps most of them: numbers as they are written, texts as literals, and
  expressions in parentheses. Three kinds of defaults become others. A text that starts like
  the current timestamp is taken for it in a column of texts too, and an expression that goes
  on behind it loses the rest. And a boolean has two values only, so another number becomes
  one of them.

  Main statements: `keepsValue_iff`, exactly when an inspected column has the default of its
  row; `altered_defaults`.
-/
namespace SchemaMigration.Catalog

open Text Sql Table Database

/-! ## What a default says -/

/-- Whether values of a type are texts. -/
def isTextual : ColumnType → Bool
  | .char _ | .string _ | .text | .mediumText | .longText | .enum _ => true
  | _ => false

/-- The text is a call for the current timestamp and nothing else: without a list of
arguments, with an empty one, or with a number. -/
def IsNowCall (text : String) : Prop :=
  lowered text = "current_timestamp" ∨ lowered text = "now()" ∨
    ∃ list : List Char, (lowered text).toList = "current_timestamp(".toList ++ (list ++ [')']) ∧
      allDigits (trim list) = true

/-- Whether a row says that its default is an expression. -/
def rowGenerates (row : Row) : Bool :=
  contains (lowered ((row.text? "Extra").getD "")) "default_generated"

/-- The clause declares what a row says of the default of a column: an expression in
parentheses, unless it is the current timestamp, a number as it is written, and a text as
a literal. -/
def KeepsValue (type : ColumnType) (generated : Bool) (raw : String) (clause : Option String) :
    Prop :=
  if generated then
    trimmed raw ≠ "" →
      clause = some (currentTimestampSql type.fractionalPrecision) ∧ IsNowCall (trimmed raw) ∨
        clause = some ("(" ++ trimmed raw ++ ")")
  else
    (type.isNumeric = true → isNumericLiteral raw.toList = true → clause = some raw) ∧
      (isTextual type = true → clause = some (quoteLiteral raw))

/-- The default is read as what it says: an expression that is not null and starts like the
current timestamp only if it is a call for it, a boolean that is one of the two, and a text
that does not start like the current timestamp. -/
def ReadsAsGiven (type : ColumnType) (generated : Bool) (raw : String) : Prop :=
  if generated then
    trimmed raw ≠ "" → isNullWord (trimmed raw) = false ∧
      (isCurrentTimestamp raw = true → IsNowCall (trimmed raw))
  else
    (type = .boolean → isNumericLiteral raw.toList = true → raw = "0" ∨ raw = "1") ∧
      (isTextual type = true → isCurrentTimestamp raw = false)

/-! ## Generated defaults -/

theorem currentTimestampSql_ne {p : UInt32} {s : String} {c : Char}
    (hc : s.toList.head? = some c) (hopen : c = '(' ∨ c = '\'') : currentTimestampSql p ≠ s :=
  fun heq => not_spellsNow_of_head hc hopen (heq ▸ spellsNow_currentTimestampSql p)

theorem generated_keeps_iff (type : ColumnType) (raw : String) :
    KeepsValue type true raw ((generatedDefault? raw).map (·.sql type.fractionalPrecision)) ↔
      ReadsAsGiven type true raw := by
  rw [KeepsValue, ReadsAsGiven, if_pos rfl, if_pos rfl]
  refine forall_congr' fun hempty => ?_
  by_cases hnull : isNullWord (trimmed raw) = true
  · have hnone : generatedDefault? raw = none := by
      rw [generatedDefault?]
      exact if_pos (.inr hnull)
    simp [hnone, hnull]
  by_cases hnow : isCurrentTimestamp raw = true
  · have hdefault : generatedDefault? raw = some .currentTimestamp := by
      simp only [generatedDefault?]
      rw [if_neg (not_or.2 ⟨hempty, hnull⟩), isCurrentTimestamp_trimmed, if_pos hnow]
    have hopen : currentTimestampSql type.fractionalPrecision ≠ "(" ++ trimmed raw ++ ")" := by
      refine currentTimestampSql_ne (c := '(') ?_ (.inl rfl)
      rw [String.toList_append, String.toList_append]
      rfl
    simp [hdefault, DefaultValue.sql, hnull, hnow, hopen]
  · have hdefault : generatedDefault? raw = some (.expression (trimmed raw)) := by
      simp only [generatedDefault?]
      rw [if_neg (not_or.2 ⟨hempty, hnull⟩), isCurrentTimestamp_trimmed, if_neg hnow]
    simp [hdefault, DefaultValue.sql, hnull, hnow]

/-! ## Plain defaults -/

theorem isNumeric_of_isTextual {type : ColumnType} (h : isTextual type = true) :
    type.isNumeric = false := by
  cases type with
  | char _ | string _ | text | mediumText | longText | enum _ => rfl
  | _ => cases h

theorem plain_keeps_iff {type : ColumnType} {raw : String} (hnull : isNullWord raw = false)
    (hquoted : unwrapped? raw.toList = none) :
    KeepsValue type false raw ((plainDefault? type raw).map (·.sql type.fractionalPrecision)) ↔
      ReadsAsGiven type false raw := by
  rw [KeepsValue, ReadsAsGiven, if_neg Bool.false_ne_true, if_neg Bool.false_ne_true]
  by_cases hnow : isCurrentTimestamp raw = true
  · -- the current timestamp is not a number, and not a literal
    have hdefault : plainDefault? type raw = some .currentTimestamp := by
      rw [plainDefault?, if_neg (Bool.eq_false_iff.1 hnull), if_pos hnow]
    have hliteral : isNumericLiteral raw.toList = false := Bool.eq_false_iff.2 fun h => by
      rw [isCurrentTimestamp_of_isNumericLiteral h] at hnow
      cases hnow
    have hquote := currentTimestampSql_ne (p := type.fractionalPrecision) (quoteLiteral_head raw)
      (.inr rfl)
    simp [hdefault, DefaultValue.sql, hliteral, hquote, hnow]
  have hnow := Bool.eq_false_iff.2 hnow
  rw [plainDefault?_of_value hnow type hnull, unquoted_eq_iff.2 hquoted, Option.map_some]
  by_cases hboolean : type = .boolean
  · subst hboolean
    have hvalue : some ((DefaultValue.bool (trimmed raw != "0")).sql 0) = some raw ↔
        raw = "0" ∨ raw = "1" := by
      rw [Option.some_inj, DefaultValue.sql]
      constructor
      · intro heq
        split at heq
        · exact .inr heq.symm
        · exact .inl heq.symm
      · rintro (rfl | rfl)
        · decide
        · decide
    rw [if_pos rfl]
    constructor
    · intro h
      exact ⟨fun _ hliteral => hvalue.1 (h.1 rfl hliteral), fun h => absurd h Bool.false_ne_true⟩
    · intro h
      exact ⟨fun _ hliteral => hvalue.2 (h.1 rfl hliteral), fun h => absurd h Bool.false_ne_true⟩
  rw [if_neg hboolean]
  refine ⟨fun _ => ⟨fun h => absurd h hboolean, fun _ => hnow⟩, fun _ => ⟨fun hnumeric _ => ?_,
    fun htext => ?_⟩⟩
  · rw [if_pos hnumeric]
    rfl
  · rw [isNumeric_of_isTextual htext]
    rfl

/-! ## Rows -/

/-- Exactly when an inspected column declares the value that its row gives as default. Null
and quoted texts are left out of it where a default is plain. -/
theorem keepsValue_iff {table : String} {row : Row} {i : InspectedColumn} {raw : String}
    (h : columnOfRow table row = .ok i) (hraw : row.text? "Default" = some raw)
    (hnull : isNullWord raw = false) (hquoted : unwrapped? raw.toList = none) :
    i.column.definition = i.column.type.sql ++
        (if i.column.unsigned && i.column.type.acceptsUnsigned then " UNSIGNED" else "") ++
        (attributesOf i.column).sql ∧
      (KeepsValue i.column.type (rowGenerates row) raw (attributesOf i.column).default ↔
        ReadsAsGiven i.column.type (rowGenerates row) raw) := by
  obtain ⟨-, -, hattributes⟩ := columnOfRow_eq_ok h
  have hdefault := congrArg Attributes.default hattributes
  dsimp only at hdefault
  rw [hraw, Option.bind_some] at hdefault
  refine ⟨definition_eq i.column, ?_⟩
  rw [hdefault, inspectedDefault, ← rowGenerates]
  cases rowGenerates row with
  | true =>
    rw [if_pos rfl]
    exact generated_keeps_iff i.column.type raw
  | false =>
    rw [if_neg Bool.false_ne_true]
    exact plain_keeps_iff hnull hquoted

/-- The row of a column whose default is an expression. -/
def tokenRow : Row :=
  Memory.columnRow "token" "varchar(40)" false (some " concat('a, b', uuid())") "DEFAULT_GENERATED" ""

/-- The row of a column whose default is a text that looks like several clauses. -/
def nickRow : Row := Memory.columnRow "nick" "varchar(40)" false (some "it's, (now())") "" ""

/-- An expression and a text that hold what separates clauses are declared as they are. -/
theorem keepsValue_iff_separators :
    (∃ i, columnOfRow "users" tokenRow = .ok i ∧
      KeepsValue (.string 40) true " concat('a, b', uuid())" (attributesOf i.column).default ∧
      i.column.definition = "VARCHAR(40) NOT NULL DEFAULT (concat('a, b', uuid()))") ∧
    ∃ i, columnOfRow "users" nickRow = .ok i ∧
      KeepsValue (.string 40) false "it's, (now())" (attributesOf i.column).default ∧
      i.column.definition = "VARCHAR(40) NOT NULL DEFAULT 'it''s, (now())'" := by
  constructor
  · obtain ⟨i, hi, htype, hdefinition⟩ : ∃ i, columnOfRow "users" tokenRow = .ok i ∧
        i.column.type = .string 40 ∧
        i.column.definition = "VARCHAR(40) NOT NULL DEFAULT (concat('a, b', uuid()))" :=
      ⟨_, rfl, by decide +kernel, by decide +kernel⟩
    have hkeeps := (keepsValue_iff hi
      (by decide +kernel : tokenRow.text? "Default" = some " concat('a, b', uuid())")
      (by decide +kernel) (by decide +kernel)).2
    -- Of a generated default only the blanks at its ends are cut off.
    have hgenerates : rowGenerates tokenRow = true := by decide +kernel
    rw [htype, hgenerates] at hkeeps
    refine ⟨i, hi, hkeeps.2 fun _ => ⟨by decide +kernel, fun h => ?_⟩, hdefinition⟩
    exact absurd h (by decide +kernel)
  · obtain ⟨i, hi, htype, hdefinition⟩ : ∃ i, columnOfRow "users" nickRow = .ok i ∧
        i.column.type = .string 40 ∧
        i.column.definition = "VARCHAR(40) NOT NULL DEFAULT 'it''s, (now())'" :=
      ⟨_, rfl, by decide +kernel, by decide +kernel⟩
    have hkeeps := (keepsValue_iff hi
      (by decide +kernel : nickRow.text? "Default" = some "it's, (now())")
      (by decide +kernel) (by decide +kernel)).2
    have hplain : rowGenerates nickRow = false := by decide +kernel
    rw [htype, hplain] at hkeeps
    refine ⟨i, hi, hkeeps.2 ⟨fun h => ?_, fun _ => by decide +kernel⟩, hdefinition⟩
    exact absurd h (by decide)

/-- What goes on behind a call for the current timestamp is lost, a text that starts like one
becomes one, and a boolean of another number becomes one. -/
theorem altered_defaults :
    (∃ i, columnOfRow "users" (Memory.columnRow "expires_at" "datetime" false
        (some "current_timestamp() + interval 1 day") "DEFAULT_GENERATED" "") = .ok i ∧
      i.column.definition = "DATETIME NOT NULL DEFAULT CURRENT_TIMESTAMP") ∧
    (∃ i, columnOfRow "users" (Memory.columnRow "nick" "varchar(40)" false
        (some "current_timestamp_text") "" "") = .ok i ∧
      i.column.definition = "VARCHAR(40) NOT NULL DEFAULT CURRENT_TIMESTAMP") ∧
    ∃ i, columnOfRow "users" (Memory.columnRow "level" "tinyint(1)" false (some "2") "" "") =
        .ok i ∧
      i.column.definition = "TINYINT(1) NOT NULL DEFAULT 1" := by
  refine ⟨⟨_, rfl, ?_⟩, ⟨_, rfl, ?_⟩, ⟨_, rfl, ?_⟩⟩
  · decide +kernel
  · decide +kernel
  · decide +kernel

end SchemaMigration.Catalog
