import SchemaMigration.Catalog.Redefinition
import SchemaMigration.Proofs.CatalogOfBlueprint

/-
  The two readers of a catalog row.

  A row of the catalog is read to inspect a column and to declare it again under another
  name. Both readers agree on counting and on the comment. They do not agree on what they
  take a default for: inspection knows texts that stand for null and literals that are
  quoted already, and the other reader takes every text for the value itself. So a rename
  can change the default of a column. Nullability is told alike unless the letter case of
  the answer is unusual, and what is set on update unless it is not the current timestamp.

  Main statements: `readers_agree_iff`, exactly when the two agree; `misread_defaults`.
-/
namespace SchemaMigration.Catalog

open Text Sql Table Database

/-! ## What a definition declares -/

/-- What the definition of a column declares beside its type. -/
structure Attributes where
  nullable : Bool
  autoIncrement : Bool
  default : Option String
  onUpdate : Option String
  comment : Option String
  deriving DecidableEq, Repr

/-- The attributes as a definition writes them. -/
def Attributes.sql (a : Attributes) : String :=
  (if a.nullable then " NULL" else " NOT NULL") ++
  (if a.autoIncrement then " AUTO_INCREMENT" else "") ++
  (a.default.map (" DEFAULT " ++ ·)).getD "" ++
  (a.onUpdate.map (" ON UPDATE " ++ ·)).getD "" ++
  (a.comment.map fun text => " COMMENT " ++ quoteLiteral text).getD ""

/-- What is declared again for the column of a row. -/
def attributesOfRow (row : Row) : Attributes where
  nullable := row.text? "Null" = some "YES"
  autoIncrement := contains (lowered ((row.text? "Extra").getD "")) "auto_increment"
  default := (row.text? "Default").map
    (defaultClause ((row.text? "Type").getD "") (lowered ((row.text? "Extra").getD "")))
  onUpdate := onUpdateTarget? ((row.text? "Extra").getD "")
  comment := (row.text? "Comment").filter (· ≠ "")

theorem definitionOfRow_eq (row : Row) :
    definitionOfRow row = (row.text? "Type").getD "" ++ (attributesOfRow row).sql := by
  have hnull : (if (attributesOfRow row).nullable then " NULL" else " NOT NULL") =
      if row.text? "Null" = some "YES" then " NULL" else " NOT NULL" := by
    have hdecide : (attributesOfRow row).nullable = decide (row.text? "Null" = some "YES") := rfl
    by_cases h : row.text? "Null" = some "YES"
    · rw [hdecide, decide_eq_true h, if_pos rfl, if_pos h]
    · rw [hdecide, decide_eq_false h, if_neg Bool.false_ne_true, if_neg h]
  have hdefault : (attributesOfRow row).default = (row.text? "Default").map (defaultClause
      ((row.text? "Type").getD "") (lowered ((row.text? "Extra").getD ""))) := rfl
  have hupdate : (attributesOfRow row).onUpdate = onUpdateTarget? ((row.text? "Extra").getD "") := rfl
  have hcomment : (attributesOfRow row).comment = (row.text? "Comment").filter (· ≠ "") := rfl
  have hcounts : (attributesOfRow row).autoIncrement =
      contains (lowered ((row.text? "Extra").getD "")) "auto_increment" := rfl
  rw [definitionOfRow, Attributes.sql, hnull, hdefault, hupdate, hcomment, ← hcounts]
  generalize row.text? "Default" = default, onUpdateTarget? ((row.text? "Extra").getD "") = target,
    (row.text? "Comment").filter (· ≠ "") = comment, (attributesOfRow row).autoIncrement = counts
  simp only [String.append_assoc]
  cases default <;> cases target <;> cases comment <;> rfl

/-- What is declared for a column. -/
def attributesOf (c : Column) : Attributes where
  nullable := c.nullable
  autoIncrement := c.autoIncrement
  default := c.default.map (·.sql c.type.fractionalPrecision)
  onUpdate := if c.onUpdateCurrentTimestamp then
    some (currentTimestampSql c.type.fractionalPrecision) else none
  comment := c.comment

theorem definition_eq (c : Column) : c.definition =
    c.type.sql ++ (if c.unsigned && c.type.acceptsUnsigned then " UNSIGNED" else "") ++
      (attributesOf c).sql := by
  simp only [Column.definition, attributesOf, Attributes.sql, String.append_assoc]
  cases c.default <;> cases c.onUpdateCurrentTimestamp <;> cases c.comment <;> rfl

/-! ## The current timestamp -/

/-- The spellings of the current timestamp with `p` fractional digits. -/
def SpellsNow (p : UInt32) (s : String) : Prop :=
  lowered (trimmed s) = "current_timestamp" ++ "(" ++ ColumnType.number p ++ ")" ∨
    p = 0 ∧ lowered (trimmed s) ∈ ["current_timestamp", "current_timestamp()", "now()"]

/-- Two texts declare the same value in a column with `p` fractional digits. -/
def SameValue (p : UInt32) (a b : String) : Prop := a = b ∨ SpellsNow p a ∧ SpellsNow p b

theorem trim_trim (cs : List Char) : trim (trim cs) = trim cs := by
  have hhead : ∀ ds : List Char, ∀ c ∈ (ds.dropWhile isBlank).head?, isBlank c = false := by
    intro ds c hc
    have hnot := List.head?_dropWhile_not isBlank ds
    rw [Option.mem_def.1 hc] at hnot
    exact hnot
  refine trim_eq_self (fun c hc => ?_) (fun c hc => ?_)
  · refine hhead cs c ?_
    obtain ⟨rest, hrest⟩ := isPrefix_trimEnd (trimStart cs)
    have hstart : cs.dropWhile isBlank = trim cs ++ rest := hrest.symm
    rw [hstart, List.head?_append, Option.mem_def.1 hc]
    rfl
  · refine hhead (trimStart cs).reverse c ?_
    rwa [trim, trimEnd, List.getLast?_reverse] at hc

theorem toList_lowered_trimmed (s : String) :
    (lowered (trimmed s)).toList = (trim s.toList).map Char.toLower := by
  rw [lowered, trimmed, String.toList_ofList, String.toList_ofList]

theorem isCurrentTimestamp_trimmed (s : String) :
    isCurrentTimestamp (trimmed s) = isCurrentTimestamp s := by
  have htrim : trim (trimmed s).toList = trim s.toList := by
    rw [trimmed, String.toList_ofList, trim_trim]
  rw [isCurrentTimestamp, isCurrentTimestamp, htrim]

theorem isCurrentTimestamp_of_spellsNow {p : UInt32} {s : String} (h : SpellsNow p s) :
    isCurrentTimestamp s = true := by
  rw [isCurrentTimestamp, Bool.or_eq_true, ← toList_lowered_trimmed]
  have hbegins : ∀ rest : String, lowered (trimmed s) = "current_timestamp" ++ rest →
      "current_timestamp".toList.isPrefixOf (lowered (trimmed s)).toList = true := by
    intro rest hs
    rw [hs, String.toList_append, List.isPrefixOf_iff_prefix]
    exact List.prefix_append _ _
  rcases h with h | ⟨-, h⟩
  · exact .inl (hbegins ("(" ++ ColumnType.number p ++ ")") (by
      rw [h, String.append_assoc, String.append_assoc, String.append_assoc]))
  · rcases List.mem_cons.1 h with h | h
    · exact .inl (hbegins "" h)
    · rcases List.mem_cons.1 h with h | h
      · exact .inl (hbegins "()" h)
      · rw [List.mem_singleton.1 h]
        exact .inr (by decide)

theorem spellsNow_currentTimestampSql (p : UInt32) : SpellsNow p (currentTimestampSql p) := by
  by_cases hp : p = 0
  · subst hp
    exact .inr ⟨rfl, by decide⟩
  · have hsql : currentTimestampSql p = "CURRENT_TIMESTAMP" ++ "(" ++ ColumnType.number p ++ ")" := by
      rw [currentTimestampSql, ColumnType.withPrecision, if_neg hp]
    have htrim : trim (currentTimestampSql p).toList = (currentTimestampSql p).toList := by
      rw [hsql, String.toList_append, String.toList_append, List.append_assoc]
      exact trim_append (c := 'C') (d := ')') (by decide) (by decide) (by decide) (by decide)
    refine .inl ?_
    rw [trimmed, htrim, String.ofList_toList, hsql, lowered_append, lowered_append, lowered_append,
      lowered_number]
    rfl

/-! ## Defaults -/

/-- Whether a type text is that of a number is decided by the type it names. -/
theorem isNumeric_of_columnType? {t : TypeText} {type : ColumnType} (h : t.columnType? = some type) :
    t.isNumeric = type.isNumeric := by
  -- One case for each word that names a type, most of which name one type only.
  rw [TypeText.columnType?] at h
  split at h
  · cases h
  split at h <;> rename_i hbase <;> rw [TypeText.isNumeric] <;> try rw [hbase]
  all_goals
    first
    | (obtain rfl := Option.some.inj h; rfl)
    | (obtain ⟨n, -, rfl⟩ := Option.map_eq_some_iff.1 h; rfl)
    | (split at h <;> cases h <;> rfl)
    | cases h

/-- The default that inspection takes a text for. -/
def inspectedDefault (type : ColumnType) (extra raw : String) : Option DefaultValue :=
  if contains extra "default_generated" then generatedDefault? raw else plainDefault? type raw

/-- Both readers take a default for the same value in a column of a type: it is the current
timestamp with the digits of the type, or an expression that is none of the spellings of
nothing, or a value that is neither null nor quoted, of a boolean one of the two. -/
def ToldAlike (type : ColumnType) (extra raw : String) : Prop :=
  if isCurrentTimestamp raw then SpellsNow type.fractionalPrecision raw
  else if contains extra "default_generated" then
    raw ≠ "" ∧ trimmed raw = raw ∧ isNullWord raw = false
  else isNullWord raw = false ∧
    if type = .boolean then raw = "0" ∨ raw = "1" else unwrapped? raw.toList = none

theorem length_of_isNullWord {s : String} (h : isNullWord s = true) : s.toList.length = 4 := by
  have hnull := beq_iff_eq.1 h
  rw [← List.length_map (f := Char.toUpper), hnull]
  rfl

theorem length_of_isCurrentTimestamp {s : String} (h : isCurrentTimestamp s = true) :
    5 ≤ (trim s.toList).length := by
  rw [isCurrentTimestamp, Bool.or_eq_true] at h
  rw [← List.length_map (f := Char.toLower)]
  rcases h with h | h
  · exact Nat.le_trans (by decide) (List.isPrefixOf_iff_prefix.1 h).length_le
  · rw [beq_iff_eq.1 h]
    decide

theorem length_trim_le (cs : List Char) : (trim cs).length ≤ cs.length :=
  Nat.le_trans (isPrefix_trimEnd _).length_le (List.dropWhile_sublist isBlank).length_le

/-- The current timestamp is not a text for null, with or without blanks around it. -/
theorem isNullWord_of_isCurrentTimestamp {s : String} (h : isCurrentTimestamp s = true) :
    isNullWord s = false ∧ isNullWord (trimmed s) = false ∧ trimmed s ≠ "" := by
  have hlength := length_of_isCurrentTimestamp h
  have hle := length_trim_le s.toList
  have htrimmed : (trimmed s).toList = trim s.toList := String.toList_ofList
  refine ⟨Bool.eq_false_iff.2 fun hnull => ?_, Bool.eq_false_iff.2 fun hnull => ?_, fun hempty => ?_⟩
  · have := length_of_isNullWord hnull
    omega
  · have := length_of_isNullWord hnull
    rw [htrimmed] at this
    omega
  · rw [← htrimmed, hempty] at hlength
    exact absurd hlength (by decide)

theorem inspectedDefault_of_isCurrentTimestamp {raw : String} (h : isCurrentTimestamp raw = true)
    (type : ColumnType) (extra : String) :
    inspectedDefault type extra raw = some .currentTimestamp := by
  obtain ⟨hplain, htrimmed, hempty⟩ := isNullWord_of_isCurrentTimestamp h
  rw [inspectedDefault]
  split
  · simp only [generatedDefault?]
    rw [if_neg (by simp [hempty, htrimmed]), isCurrentTimestamp_trimmed, if_pos h]
  · rw [plainDefault?, if_neg (by simp [hplain]), if_pos h]

/-- What is in parentheses or quotes is not the current timestamp. -/
theorem not_spellsNow_of_head {p : UInt32} {s : String} {c : Char} (hc : s.toList.head? = some c)
    (hopen : c = '(' ∨ c = '\'') : ¬SpellsNow p s := by
  intro hnow
  have hcurrent := isCurrentTimestamp_of_spellsNow hnow
  have hblank : isBlank c = false := by rcases hopen with rfl | rfl <;> decide
  have hlower : c.toLower = c := by rcases hopen with rfl | rfl <;> decide
  -- Nothing is cut off in front, so the first character stays the first.
  have hstart : trimStart s.toList = s.toList := by
    cases hs : s.toList with
    | nil => rfl
    | cons d ds =>
      rw [hs] at hc
      rw [Option.some.inj hc, trimStart, List.dropWhile_cons, hblank, if_neg Bool.false_ne_true]
  have htrim : (trim s.toList).head? = some c := by
    have hlength := length_of_isCurrentTimestamp hcurrent
    obtain ⟨rest, hrest⟩ := isPrefix_trimEnd (trimStart s.toList)
    have hsplit : trim s.toList ++ rest = s.toList := hrest.trans hstart
    cases ht : trim s.toList with
    | nil =>
      rw [ht] at hlength
      exact absurd hlength (by decide)
    | cons d ds =>
      rw [← hsplit, ht] at hc
      exact hc
  have hhead : ((trim s.toList).map Char.toLower).head? = some c := by
    rw [List.head?_map, htrim, Option.map_some, hlower]
  -- Both spellings of the current timestamp begin with a letter.
  rw [isCurrentTimestamp, Bool.or_eq_true] at hcurrent
  rcases hcurrent with h | h
  · obtain ⟨rest, hrest⟩ := List.isPrefixOf_iff_prefix.1 h
    rw [← hrest] at hhead
    rcases hopen with rfl | rfl <;> cases hhead
  · rw [beq_iff_eq.1 h] at hhead
    rcases hopen with rfl | rfl <;> cases hhead

theorem length_undoubled_le (cs : List Char) : (undoubled cs).length ≤ cs.length := by
  induction cs using undoubled.induct with
  | case1 rest ih =>
    rw [undoubled, List.length_cons, List.length_cons, List.length_cons]
    omega
  | case2 c rest hne ih =>
    rw [undoubled, List.length_cons, List.length_cons]
    · omega
    · exact hne
  | case3 => exact Nat.le_refl 0

/-- A text without the quotes around it is another text. -/
theorem unquoted_ne {raw : String} {inner : List Char} (h : unwrapped? raw.toList = some inner) :
    String.ofList (undoubled inner) ≠ raw := by
  intro heq
  have hlength := length_undoubled_le inner
  have hraw : undoubled inner = raw.toList := by rw [← heq, String.toList_ofList]
  rw [hraw] at hlength
  rw [unwrapped?.eq_def] at h
  split at h
  · next rest hs =>
    split at h
    · obtain rfl := Option.some.inj h
      rw [hs, List.length_dropLast, List.length_cons] at hlength
      omega
    · cases h
  · cases h

theorem quoteLiteral_inj {a b : String} (h : quoteLiteral a = quoteLiteral b) : a = b := by
  have hread := congrArg (fun s => quotedMembers none (String.toList s ++ [])) h
  simp only [quoteLiteral, String.toList_ofList] at hread
  rw [quotedMembers_literal _ _ (by simp), quotedMembers_literal _ _ (by simp)] at hread
  exact String.toList_inj.1 (List.cons.inj hread).1

/-- What inspection takes a text to mean that may be quoted. -/
def unquoted (raw : String) : String :=
  match unwrapped? raw.toList with
  | some inner => String.ofList (undoubled inner)
  | none => raw

theorem unquoted_eq_iff {raw : String} : unquoted raw = raw ↔ unwrapped? raw.toList = none := by
  rw [unquoted]
  split
  · next inner hinner => simp [hinner, unquoted_ne hinner]
  · next hnone => simp [hnone]

/-- A value that is not the current timestamp is the same as another if it is that one. -/
theorem sameValue_iff {p : UInt32} {a b : String} (h : ¬SpellsNow p a) : SameValue p a b ↔ a = b :=
  ⟨fun hsame => hsame.resolve_right fun hnow => h hnow.1, .inl⟩

theorem quoteLiteral_head (s : String) : (quoteLiteral s).toList.head? = some '\'' := by
  rw [quoteLiteral, String.toList_ofList]
  rfl

section
variable {raw : String} (hnow : isCurrentTimestamp raw = false)
include hnow

/-- The readers tell a generated default alike exactly if it is an expression without blanks
around it. -/
theorem generated_alike_iff (p : UInt32) :
    Option.Rel (SameValue p) (some ("(" ++ raw ++ ")"))
      ((generatedDefault? raw).map (·.sql p)) ↔
    raw ≠ "" ∧ trimmed raw = raw ∧ isNullWord raw = false := by
  have hopen : ¬SpellsNow p ("(" ++ raw ++ ")") := by
    refine not_spellsNow_of_head (c := '(') ?_ (.inl rfl)
    rw [String.toList_append, String.toList_append]
    rfl
  simp only [generatedDefault?, isCurrentTimestamp_trimmed, hnow]
  -- An empty text and the word null give no default at all, and anything else an expression
  -- without the blanks around it.
  by_cases hnothing : trimmed raw = "" ∨ isNullWord (trimmed raw) = true
  · rw [if_pos hnothing, Option.map_none]
    refine ⟨fun h => absurd h Option.not_rel_some_none, ?_⟩
    rintro ⟨hempty, htrim, hnull⟩
    rw [htrim, hnull] at hnothing
    exact absurd hnothing (by simp [hempty])
  · rw [if_neg hnothing, if_neg Bool.false_ne_true, Option.map_some, Option.rel_some_some,
      sameValue_iff hopen]
    obtain ⟨hempty, hnull⟩ := not_or.1 hnothing
    have hsql : ("(" ++ raw ++ ")" = (DefaultValue.expression (trimmed raw)).sql p) ↔
        trimmed raw = raw := by
      simp [DefaultValue.sql, eq_comm]
    rw [hsql]
    refine ⟨fun htrim => ?_, fun h => h.2.1⟩
    rw [htrim] at hempty hnull
    exact ⟨hempty, htrim, Bool.eq_false_iff.2 hnull⟩

/-- What inspection takes a plain default for that stands for a value. -/
theorem plainDefault?_of_value (type : ColumnType) (hnull : isNullWord raw = false) :
    plainDefault? type raw = some (
      if type = .boolean then .bool (trimmed (unquoted raw) != "0")
      else if type.isNumeric then .numeric (unquoted raw) else .string (unquoted raw)) := by
  simp only [plainDefault?, hnow, hnull, if_neg Bool.false_ne_true]
  rfl

/-- What is declared again for a plain default. -/
theorem defaultClause_of_plain {rawType extra : String}
    (hplain : contains extra "default_generated" = false) : defaultClause rawType extra raw =
      if (TypeText.ofText rawType).isNumeric then raw else quoteLiteral raw := by
  rw [defaultClause, hnow, hplain, if_neg Bool.false_ne_true, if_neg Bool.false_ne_true]

/-- The readers tell a plain default alike exactly if it is neither null nor quoted and, of
a boolean, one of its two values. -/
theorem plain_alike_iff {rawType extra : String} {type : ColumnType}
    (hnumeric : (TypeText.ofText rawType).isNumeric = type.isNumeric)
    (hplain : contains extra "default_generated" = false) :
    Option.Rel (SameValue type.fractionalPrecision) (some (defaultClause rawType extra raw))
      ((plainDefault? type raw).map (·.sql type.fractionalPrecision)) ↔
    isNullWord raw = false ∧
      if type = .boolean then raw = "0" ∨ raw = "1" else unwrapped? raw.toList = none := by
  have hraw : ¬SpellsNow type.fractionalPrecision raw := fun h => by
    rw [isCurrentTimestamp_of_spellsNow h] at hnow
    cases hnow
  rw [defaultClause_of_plain hnow hplain, hnumeric]
  -- The word null gives no default, which is not the one that the clause declares.
  by_cases hnull : isNullWord raw = true
  · simp only [plainDefault?, hnull, if_true, Option.map_none]
    simp
  have hnull := Bool.eq_false_iff.2 hnull
  rw [plainDefault?_of_value hnow type hnull, Option.map_some, Option.rel_some_some, hnull]
  -- Of a boolean only a truth is kept, which is written as one of two numbers.
  by_cases hboolean : type = .boolean
  · subst hboolean
    rw [if_pos rfl, if_pos rfl, if_pos (by rfl), sameValue_iff hraw, DefaultValue.sql]
    constructor
    · intro heq
      refine ⟨rfl, ?_⟩
      split at heq
      · exact .inr heq
      · exact .inl heq
    · rintro ⟨-, rfl | rfl⟩
      · decide
      · decide
  rw [if_neg hboolean, if_neg hboolean]
  -- A number stands in the clause as the row shows it, any other text in quotes. In both cases the
  -- inspected default is the text without quotes of its own.
  by_cases hnumber : type.isNumeric = true
  · rw [if_pos hnumber, if_pos hnumber, sameValue_iff hraw, DefaultValue.sql, eq_comm,
      unquoted_eq_iff]
    exact ⟨fun h => ⟨rfl, h⟩, (·.2)⟩
  · have hquoted := not_spellsNow_of_head (p := type.fractionalPrecision) (quoteLiteral_head raw)
      (.inr rfl)
    rw [if_neg hnumber, if_neg hnumber, sameValue_iff hquoted, DefaultValue.sql, ← unquoted_eq_iff]
    exact ⟨fun h => ⟨rfl, (quoteLiteral_inj h).symm⟩, fun h => by rw [h.2]⟩

end

/-- Both readers give a column of a row the same default exactly if its text is told
alike. -/
theorem toldAlike_iff {rawType extra raw : String} {type : ColumnType}
    (hnumeric : (TypeText.ofText rawType).isNumeric = type.isNumeric) :
    Option.Rel (SameValue type.fractionalPrecision) (some (defaultClause rawType extra raw))
      ((inspectedDefault type extra raw).map (·.sql type.fractionalPrecision)) ↔
    ToldAlike type extra raw := by
  rw [ToldAlike]
  by_cases hnow : isCurrentTimestamp raw = true
  · rw [if_pos hnow, inspectedDefault_of_isCurrentTimestamp hnow, Option.map_some,
      Option.rel_some_some, defaultClause, if_pos hnow]
    have hspells := spellsNow_currentTimestampSql type.fractionalPrecision
    exact ⟨fun h => h.elim (fun heq => heq ▸ hspells) (·.1), fun h => .inr ⟨h, hspells⟩⟩
  have hnow' := Bool.eq_false_iff.2 hnow
  rw [if_neg hnow]
  by_cases hgenerated : contains extra "default_generated" = true
  · rw [if_pos hgenerated, inspectedDefault, if_pos hgenerated, defaultClause, if_neg hnow,
      if_pos hgenerated]
    exact generated_alike_iff hnow' _
  · rw [if_neg hgenerated, inspectedDefault, if_neg hgenerated]
    exact plain_alike_iff hnow' hnumeric (Bool.eq_false_iff.2 hgenerated)

/-! ## What is set on update -/

theorem fromFirst?_isSome (part cs : List Char) : (fromFirst? part cs).isSome = occursIn part cs := by
  induction cs with
  | nil =>
    rw [fromFirst?, occursIn]
    cases part.isEmpty <;> rfl
  | cons c cs ih =>
    rw [fromFirst?, occursIn, ← ih]
    cases part.isPrefixOf (c :: cs) <;> rfl

/-- What inspection reports as set on update is found by the other reader. -/
theorem onUpdateTarget?_isSome {rawExtra : String}
    (h : contains (lowered rawExtra) "on update current_timestamp" = true) :
    ∃ target, onUpdateTarget? rawExtra = some target := by
  have hlonger : "on update current_timestamp".toList <:+: rawExtra.toList.map Char.toLower := by
    have hlower : (lowered rawExtra).toList = rawExtra.toList.map Char.toLower := String.toList_ofList
    exact hlower ▸ occursIn_iff.1 h
  have hphrase : "on update ".toList <:+: "on update current_timestamp".toList :=
    List.IsPrefix.isInfix (List.isPrefixOf_iff_prefix.1 (by decide))
  have hfound := fromFirst?_isSome "on update ".toList (rawExtra.toList.map Char.toLower)
  rw [occursIn_iff.2 (hphrase.trans hlonger)] at hfound
  obtain ⟨found, hfound⟩ := Option.isSome_iff_exists.1 hfound
  rw [onUpdateTarget?, hfound]
  exact ⟨_, rfl⟩

/-- Both readers take what is set on update for the same: for nothing, or for the current
timestamp with `p` digits. -/
def UpdateToldAlike (p : UInt32) (rawExtra : String) : Prop :=
  ∀ target, onUpdateTarget? rawExtra = some target →
    contains (lowered rawExtra) "on update current_timestamp" = true ∧ SpellsNow p target

theorem updateToldAlike_iff (p : UInt32) (rawExtra : String) :
    Option.Rel (SameValue p) (onUpdateTarget? rawExtra)
      (if contains (lowered rawExtra) "on update current_timestamp" then
        some (currentTimestampSql p) else none) ↔
    UpdateToldAlike p rawExtra := by
  rw [UpdateToldAlike]
  have hspells := spellsNow_currentTimestampSql p
  cases htarget : onUpdateTarget? rawExtra with
  | none =>
    have hnot : contains (lowered rawExtra) "on update current_timestamp" = false :=
      Bool.eq_false_iff.2 fun h => by
        obtain ⟨target, hsome⟩ := onUpdateTarget?_isSome h
        rw [htarget] at hsome
        cases hsome
    rw [hnot, if_neg Bool.false_ne_true]
    exact ⟨fun _ _ h => absurd h.symm (Option.some_ne_none _), fun _ => Option.Rel.none⟩
  | some target =>
    by_cases hcurrent : contains (lowered rawExtra) "on update current_timestamp" = true
    · rw [if_pos hcurrent, Option.rel_some_some]
      refine ⟨fun h other hother => ?_, fun h => .inr ⟨(h target rfl).2, hspells⟩⟩
      obtain rfl := Option.some.inj hother
      exact ⟨hcurrent, h.elim (fun heq => heq ▸ hspells) (·.1)⟩
    · rw [if_neg hcurrent]
      exact ⟨fun h => absurd h Option.not_rel_some_none, fun h => absurd (h target rfl).1 hcurrent⟩

/-! ## Rows -/

/-- A row that is read as a column has a type that a blueprint can declare. -/
theorem columnOfRow_eq_ok {table : String} {row : Row} {i : InspectedColumn}
    (h : columnOfRow table row = .ok i) :
    (TypeText.ofText i.rawType).columnType? = some i.column.type ∧
      i.rawType = (row.text? "Type").getD "" ∧
      attributesOf i.column =
        { nullable := (row.text? "Null").any (sameName "YES")
          autoIncrement := contains (lowered ((row.text? "Extra").getD "")) "auto_increment"
          default := ((row.text? "Default").bind (inspectedDefault i.column.type
            (lowered ((row.text? "Extra").getD "")))).map (·.sql i.column.type.fractionalPrecision)
          onUpdate := if contains (lowered ((row.text? "Extra").getD ""))
            "on update current_timestamp" then
              some (currentTimestampSql i.column.type.fractionalPrecision) else none
          comment := (row.text? "Comment").filter (· ≠ "") } := by
  rw [columnOfRow] at h
  split at h
  · cases h
  dsimp only at h
  split at h
  · cases h
  next type htype =>
    obtain rfl := Except.ok.inj h
    refine ⟨htype, rfl, ?_⟩
    have hdefault : (if contains (lowered ((row.text? "Extra").getD "")) "default_generated" then
          (row.text? "Default").bind generatedDefault?
        else (row.text? "Default").bind (plainDefault? type)) =
        (row.text? "Default").bind
          (inspectedDefault type (lowered ((row.text? "Extra").getD ""))) := by
      unfold inspectedDefault
      split
      · rfl
      · rfl
    rw [attributesOf, hdefault]

theorem nullable_alike_iff (answer? : Option String) :
    decide (answer? = some "YES") = answer?.any (sameName "YES") ↔
      ∀ answer, answer? = some answer → sameName "YES" answer = true → answer = "YES" := by
  cases answer? with
  | none => exact ⟨fun _ _ h => absurd h.symm (Option.some_ne_none _), fun _ => rfl⟩
  | some answer =>
    by_cases hyes : answer = "YES"
    · subst hyes
      exact ⟨fun _ _ h _ => (Option.some.inj h).symm, fun _ => by decide⟩
    · have hnot : decide (some answer = some "YES") = false :=
        decide_eq_false fun h => hyes (Option.some.inj h)
      rw [hnot, Option.any_some]
      constructor
      · intro hsame other hother hcase
        obtain rfl := Option.some.inj hother
        rw [← hsame] at hcase
        cases hcase
      · intro h
        exact (Bool.eq_false_iff.2 fun hsame => hyes (h answer rfl hsame)).symm

/-- Exactly when the definition that a rename declares again says of a column what the
inspected column says: counting and comment always agree, nullability unless the answer is
in another letter case, and default and update if they are told alike. -/
theorem readers_agree_iff {table : String} {row : Row} {i : InspectedColumn}
    (h : columnOfRow table row = .ok i) :
    definitionOfRow row = i.rawType ++ (attributesOfRow row).sql ∧
    i.column.definition = i.column.type.sql ++
      (if i.column.unsigned && i.column.type.acceptsUnsigned then " UNSIGNED" else "") ++
        (attributesOf i.column).sql ∧
    (attributesOfRow row).autoIncrement = (attributesOf i.column).autoIncrement ∧
    (attributesOfRow row).comment = (attributesOf i.column).comment ∧
    ((attributesOfRow row).nullable = (attributesOf i.column).nullable ↔
      ∀ answer, row.text? "Null" = some answer → sameName "YES" answer = true → answer = "YES") ∧
    (Option.Rel (SameValue i.column.type.fractionalPrecision) (attributesOfRow row).default
        (attributesOf i.column).default ↔
      ∀ raw, row.text? "Default" = some raw →
        ToldAlike i.column.type (lowered ((row.text? "Extra").getD "")) raw) ∧
    (Option.Rel (SameValue i.column.type.fractionalPrecision) (attributesOfRow row).onUpdate
        (attributesOf i.column).onUpdate ↔
      UpdateToldAlike i.column.type.fractionalPrecision ((row.text? "Extra").getD "")) := by
  obtain ⟨htype, hraw, hattributes⟩ := columnOfRow_eq_ok h
  have hdefinition := definition_eq i.column
  rw [hraw] at htype
  -- Each attribute is compared by itself. Counting and comment are read in the same way.
  refine ⟨hraw ▸ definitionOfRow_eq row, hdefinition, ?_, ?_, ?_, ?_, ?_⟩
  · rw [hattributes]
    rfl
  · rw [hattributes]
    rfl
  · have hnull := congrArg Attributes.nullable hattributes
    dsimp only at hnull
    rw [hnull]
    exact nullable_alike_iff _
  · have hdefault := congrArg Attributes.default hattributes
    dsimp only at hdefault
    rw [hdefault]
    rw [attributesOfRow]
    dsimp only
    cases row.text? "Default" with
    | none => exact ⟨fun _ _ h => absurd h.symm (Option.some_ne_none _), fun _ => Option.Rel.none⟩
    | some raw =>
      rw [Option.map_some, Option.bind_some, toldAlike_iff (isNumeric_of_columnType? htype)]
      exact ⟨fun h _ hother => Option.some.inj hother ▸ h, fun h => h raw rfl⟩
  · have hupdate := congrArg Attributes.onUpdate hattributes
    dsimp only at hupdate
    rw [hupdate]
    exact updateToldAlike_iff i.column.type.fractionalPrecision ((row.text? "Extra").getD "")

/-- A column that is set to the current timestamp is told alike. -/
theorem readers_agree_seen :
    ∃ i, columnOfRow "sessions" (Memory.columnRow "seen_at" "datetime(6)" false
        (some "CURRENT_TIMESTAMP(6)") "DEFAULT_GENERATED on update CURRENT_TIMESTAMP(6)" "last") =
          .ok i ∧
      i.column.definition = "DATETIME(6) NOT NULL DEFAULT CURRENT_TIMESTAMP(6)" ++
        " ON UPDATE CURRENT_TIMESTAMP(6) COMMENT 'last'" ∧
      Option.Rel (SameValue 6) (some "CURRENT_TIMESTAMP(6)") (attributesOf i.column).default ∧
      Option.Rel (SameValue 6) (some "CURRENT_TIMESTAMP(6)") (attributesOf i.column).onUpdate := by
  -- The row is kept closed, so that only what is asked of it is computed.
  generalize hrow : Memory.columnRow "seen_at" "datetime(6)" false (some "CURRENT_TIMESTAMP(6)")
    "DEFAULT_GENERATED on update CURRENT_TIMESTAMP(6)" "last" = row
  have hread : (columnOfRow "sessions" row).toOption.map
      (fun i => (i.column.type, i.column.definition)) = some (.dateTime 6,
        "DATETIME(6) NOT NULL DEFAULT CURRENT_TIMESTAMP(6)" ++
          " ON UPDATE CURRENT_TIMESTAMP(6) COMMENT 'last'") := by
    rw [← hrow]
    decide +kernel
  have hattributes : (attributesOfRow row).default = some "CURRENT_TIMESTAMP(6)" ∧
      (attributesOfRow row).onUpdate = some "CURRENT_TIMESTAMP(6)" := by
    rw [← hrow]
    decide +kernel
  have htold : (row.text? "Default" = some "CURRENT_TIMESTAMP(6)" ∧
      isCurrentTimestamp "CURRENT_TIMESTAMP(6)" = true) ∧
      onUpdateTarget? ((row.text? "Extra").getD "") = some "CURRENT_TIMESTAMP(6)" ∧
      contains (lowered ((row.text? "Extra").getD "")) "on update current_timestamp" = true := by
    rw [← hrow]
    decide +kernel
  have hspells : SpellsNow 6 "CURRENT_TIMESTAMP(6)" := spellsNow_currentTimestampSql 6
  cases hi : columnOfRow "sessions" row with
  | error e =>
    rw [hi] at hread
    cases hread
  | ok i =>
    rw [hi] at hread
    obtain ⟨htype, hdefinition⟩ := Prod.mk.inj (Option.some.inj hread)
    obtain ⟨-, -, -, -, -, hdefault, hupdate⟩ := readers_agree_iff hi
    rw [hattributes.1, htype] at hdefault
    rw [hattributes.2, htype] at hupdate
    refine ⟨i, rfl, hdefinition, hdefault.2 fun raw hraw => ?_, hupdate.2 fun target htarget => ?_⟩
    · rw [htold.1.1] at hraw
      rw [← Option.some.inj hraw, ToldAlike, if_pos htold.1.2]
      exact hspells
    · rw [htold.2.1] at htarget
      rw [← Option.some.inj htarget]
      exact ⟨htold.2.2, hspells⟩

/-- A text that is quoted already is quoted again, and the word for null becomes a text. -/
theorem misread_defaults :
    (∃ i, columnOfRow "users" (Memory.columnRow "nick" "varchar(40)" true (some "'anon'") "" "") =
        .ok i ∧
      i.column.definition = "VARCHAR(40) NULL DEFAULT 'anon'" ∧
      definitionOfRow (Memory.columnRow "nick" "varchar(40)" true (some "'anon'") "" "") =
        "varchar(40) NULL DEFAULT '''anon'''") ∧
    ∃ i, columnOfRow "users" (Memory.columnRow "nick" "varchar(40)" true (some "NULL") "" "") =
        .ok i ∧
      i.column.definition = "VARCHAR(40) NULL" ∧
      definitionOfRow (Memory.columnRow "nick" "varchar(40)" true (some "NULL") "" "") =
        "varchar(40) NULL DEFAULT 'NULL'" := by
  refine ⟨⟨_, rfl, ?_, ?_⟩, ⟨_, rfl, ?_, ?_⟩⟩
  · decide +kernel
  · decide +kernel
  · decide +kernel
  · decide +kernel

end SchemaMigration.Catalog
