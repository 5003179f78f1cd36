import SchemaMigration.Proofs.DeclaredColumns
import SchemaMigration.Proofs.DeclaredKeys

/-
  Numeric literals by their grammar.

  A number is a sign or none, then digits with a point among or around them, then an exponent
  or none. `isNumericLiteral` cuts a text at its first exponent letter and at its first point
  instead; the digits on both sides of a cut exclude a second one. A blueprint becomes
  statements only if its numeric defaults are numbers, and these stand in the statements as
  they are written.

  Main statements: `isNumericLiteral_iff` and `numeric_defaults_checked`.
-/
namespace SchemaMigration.Table

open Text Sql

/-! ## The grammar -/

/-- One ASCII digit or more. -/
def IsDigits (cs : List Char) : Prop := cs ≠ [] ∧ ∀ c ∈ cs, c.isDigit = true

/-- At most one sign. -/
inductive IsSign : List Char → Prop where
  | absent : IsSign []
  | plus : IsSign ['+']
  | minus : IsSign ['-']

/-- Digits with at most one point, in front of them, among them or behind them. -/
inductive IsMantissa : List Char → Prop where
  | whole {ds : List Char} : IsDigits ds → IsMantissa ds
  | point {ds fs : List Char} : IsDigits ds → fs = [] ∨ IsDigits fs → IsMantissa (ds ++ '.' :: fs)
  | fraction {fs : List Char} : IsDigits fs → IsMantissa ('.' :: fs)

/-- A letter with digits behind it, which may have a sign, or nothing at all. -/
inductive IsExponent : List Char → Prop where
  | absent : IsExponent []
  | present {letter : Char} {sign ds : List Char} : letter = 'e' ∨ letter = 'E' → IsSign sign →
      IsDigits ds → IsExponent (letter :: (sign ++ ds))

/-- A number as it may stand in SQL. -/
inductive IsNumber : List Char → Prop where
  | mk {sign mantissa exponent : List Char} : IsSign sign → IsMantissa mantissa →
      IsExponent exponent → IsNumber (sign ++ (mantissa ++ exponent))

/-! ## Signs and digits -/

/-- A text that does not start with a sign. -/
def Unsigned (cs : List Char) : Prop := ∀ c ∈ cs.head?, c ≠ '-' ∧ c ≠ '+'

theorem dropSign_of_unsigned {cs : List Char} (h : Unsigned cs) : dropSign cs = cs := by
  cases cs with
  | nil => rfl
  | cons c cs =>
    have hc := h c rfl
    simp [dropSign, hc]

theorem dropSign_append {sign cs : List Char} (hsign : IsSign sign) (h : Unsigned cs) :
    dropSign (sign ++ cs) = cs := by
  cases hsign with
  | absent => exact dropSign_of_unsigned h
  | plus => rfl
  | minus => rfl

theorem exists_sign (cs : List Char) : ∃ sign, IsSign sign ∧ cs = sign ++ dropSign cs := by
  cases cs with
  | nil => exact ⟨[], .absent, rfl⟩
  | cons c cs =>
    by_cases hc : c = '-' ∨ c = '+'
    · rw [dropSign, if_pos hc]
      rcases hc with rfl | rfl
      · exact ⟨['-'], .minus, rfl⟩
      · exact ⟨['+'], .plus, rfl⟩
    · rw [dropSign, if_neg hc]
      exact ⟨[], .absent, rfl⟩

theorem ne_of_isDigit {c d : Char} (h : c.isDigit = true) (hd : d.isDigit = false) : c ≠ d := by
  rintro rfl
  exact Bool.false_ne_true (hd.symm.trans h)

theorem isDigits_iff {cs : List Char} : IsDigits cs ↔ (!cs.isEmpty && allDigits cs) = true := by
  simp [IsDigits, allDigits]

theorem allDigits_iff {cs : List Char} : allDigits cs = true ↔ cs = [] ∨ IsDigits cs := by
  cases cs <;> simp [IsDigits, allDigits]

theorem IsDigits.unsigned {ds : List Char} (h : IsDigits ds) : Unsigned ds := fun _ hc =>
  have hdigit := h.2 _ (List.mem_of_mem_head? hc)
  ⟨ne_of_isDigit hdigit rfl, ne_of_isDigit hdigit rfl⟩

/-! ## Mantissas -/

/-- Whether a text is digits with at most one point, by the cut at its first point. -/
def readsMantissa (cs : List Char) : Bool :=
  let (whole, fraction) := (cutAt (· == '.') cs).getD (cs, [])
  !(whole.isEmpty && fraction.isEmpty) && allDigits whole && allDigits fraction

theorem cutAt_digits {p : Char → Bool} {ds : List Char} (h : IsDigits ds)
    (hp : ∀ c, c.isDigit = true → p c = false) : cutAt p ds = none :=
  cutAt_eq_none_iff.2 fun c hc => hp c (h.2 c hc)

theorem not_point {c : Char} (h : c.isDigit = true) : (c == '.') = false :=
  beq_eq_false_iff_ne.2 (ne_of_isDigit h rfl)

theorem readsMantissa_iff {cs : List Char} : readsMantissa cs = true ↔ IsMantissa cs := by
  constructor
  · intro h
    unfold readsMantissa at h
    cases hcut : cutAt (· == '.') cs with
    | none =>
      rw [hcut] at h
      refine .whole (isDigits_iff.2 ?_)
      simpa [allDigits] using h
    | some parts =>
      obtain ⟨whole, fraction⟩ := parts
      obtain ⟨-, point, hpoint, rfl⟩ := eq_append_of_cutAt hcut
      obtain rfl := eq_of_beq hpoint
      rw [hcut] at h
      simp only [Option.getD_some, Bool.and_eq_true, Bool.not_eq_true', allDigits_iff] at h
      obtain ⟨⟨hsome, rfl | hwhole⟩, hfraction⟩ := h
      -- A point alone is the one text of this form that is no number.
      · rcases hfraction with rfl | hfraction
        · exact absurd hsome (by decide)
        · exact .fraction hfraction
      · exact .point hwhole hfraction
  · intro h
    cases h with
    | whole hds =>
      rw [readsMantissa, cutAt_digits hds fun c => not_point]
      simpa [allDigits] using isDigits_iff.1 hds
    | @point ds fs hds hfs =>
      have hcut : cutAt (· == '.') (ds ++ '.' :: fs) = some (ds, fs) :=
        cutAt_append_of_not (fun c hc => not_point (hds.2 c hc)) rfl
      have hwhole := allDigits_iff.2 (.inr hds)
      have hfraction := allDigits_iff.2 hfs
      have hsome := hds.1
      rw [readsMantissa, hcut]
      simp [hwhole, hfraction, hsome]
    | @fraction fs hfs =>
      have hcut : cutAt (· == '.') ('.' :: fs) = some ([], fs) := rfl
      have hall := allDigits_iff.2 (.inr hfs)
      have hsome := hfs.1
      rw [readsMantissa, hcut]
      simp [hall, hsome, allDigits_iff]

/-- The characters of a mantissa are digits and points, and the first is no sign. -/
theorem IsMantissa.chars {cs : List Char} (h : IsMantissa cs) :
    ∀ c ∈ cs, c.isDigit = true ∨ c = '.' := by
  intro c hc
  cases h with
  | whole hds => exact .inl (hds.2 c hc)
  | point hds hfs =>
    rcases List.mem_append.1 hc with hc | hc
    · exact .inl (hds.2 c hc)
    · rcases List.mem_cons.1 hc with rfl | hc
      · exact .inr rfl
      · rcases hfs with rfl | hfs
        · exact absurd hc List.not_mem_nil
        · exact .inl (hfs.2 c hc)
  | fraction hfs =>
    rcases List.mem_cons.1 hc with rfl | hc
    · exact .inr rfl
    · exact .inl (hfs.2 c hc)

theorem IsMantissa.ne_nil {cs : List Char} (h : IsMantissa cs) : cs ≠ [] := by
  cases h with
  | whole hds => exact hds.1
  | point hds hfs => simp
  | fraction hfs => simp

/-- A text that starts with a mantissa does not start with a sign. -/
theorem IsMantissa.unsigned {cs : List Char} (h : IsMantissa cs) (rest : List Char) :
    Unsigned (cs ++ rest) := by
  intro c hc
  obtain ⟨d, ds, rfl⟩ := List.exists_cons_of_ne_nil h.ne_nil
  obtain rfl : d = c := by simpa using hc
  rcases h.chars d List.mem_cons_self with hdigit | rfl
  · exact ⟨ne_of_isDigit hdigit rfl, ne_of_isDigit hdigit rfl⟩
  · decide

/-! ## Numbers -/

/-- Whether a character starts an exponent. -/
def startsExponent (c : Char) : Bool := c == 'e' || c == 'E'

/-- What is checked of a text, by the cut at its first exponent letter. -/
theorem isNumericLiteral_eq (cs : List Char) :
    isNumericLiteral cs = match cutAt startsExponent (dropSign cs) with
      | some (mantissa, exponent) => readsMantissa mantissa &&
          (!(dropSign exponent).isEmpty && allDigits (dropSign exponent))
      | none => readsMantissa (dropSign cs) := by
  have hletter : (fun c => c == 'e' || c == 'E') = startsExponent := rfl
  simp only [isNumericLiteral, readsMantissa, hletter]
  cases cutAt startsExponent (dropSign cs) with
  | none => simp
  | some parts => simp

theorem IsMantissa.not_startsExponent {cs : List Char} (h : IsMantissa cs) :
    ∀ c ∈ cs, startsExponent c = false := by
  intro c hc
  rcases h.chars c hc with hdigit | rfl
  · simp [startsExponent, ne_of_isDigit hdigit (d := 'e') rfl, ne_of_isDigit hdigit (d := 'E') rfl]
  · rfl

/-- A text passes the check exactly if it is a number. -/
theorem isNumericLiteral_iff {cs : List Char} : isNumericLiteral cs = true ↔ IsNumber cs := by
  rw [isNumericLiteral_eq]
  constructor
  · intro h
    obtain ⟨sign, hsign, hcs⟩ := exists_sign cs
    -- An exponent begins at the first of its letters, which no mantissa has.
    cases hcut : cutAt startsExponent (dropSign cs) with
    | none =>
      rw [hcut] at h
      rw [hcs, ← List.append_nil (dropSign cs)]
      exact .mk hsign (readsMantissa_iff.1 h) .absent
    | some parts =>
      obtain ⟨mantissa, exponent⟩ := parts
      obtain ⟨-, letter, hletter, hbody⟩ := eq_append_of_cutAt hcut
      obtain ⟨sign', hsign', hexponent⟩ := exists_sign exponent
      rw [hcut] at h
      obtain ⟨hmantissa, hdigits⟩ := (Bool.and_eq_true_iff ..).1 h
      have hletter : letter = 'e' ∨ letter = 'E' := by simpa [startsExponent] using hletter
      rw [hcs, hbody, hexponent]
      exact .mk hsign (readsMantissa_iff.1 hmantissa)
        (.present hletter hsign' (isDigits_iff.2 hdigits))
  · rintro ⟨hsign, hmantissa, hexponent⟩
    rw [dropSign_append hsign (hmantissa.unsigned _)]
    cases hexponent with
    | absent =>
      rw [List.append_nil, cutAt_eq_none_iff.2 hmantissa.not_startsExponent]
      exact readsMantissa_iff.2 hmantissa
    | @present letter _ _ hletter hsign' hdigits =>
      have hstarts : startsExponent letter = true := by simpa [startsExponent] using hletter
      rw [cutAt_append_of_not hmantissa.not_startsExponent hstarts]
      dsimp only
      rw [dropSign_append hsign' hdigits.unsigned, readsMantissa_iff.2 hmantissa,
        isDigits_iff.1 hdigits, Bool.true_and]

/-- A second sign, point or exponent, an empty part and another script's digits are refused. -/
example : (["+-1", "1.2.3", "1e2e3", "1e", ".", "", "e5", "1e+", "\u0661", "1 "].map fun s =>
    isNumericLiteral s.toList) = List.replicate 10 false := by decide

/-! ## Numbers in statements -/

/-- A column with a number for its default. -/
def Column.withNumber (c : Column) (literal : String) : Column :=
  { c with default := some (.numeric literal) }

/-- A blueprint in which a column is put between others. -/
def Blueprint.withColumn (b : Blueprint) (front : List Column) (c : Column) (back : List Column) :
    Blueprint :=
  { b with columns := front ++ c :: back }

/-- A text that holds another one as it is, at a place that does not depend on it. -/
def Holds (text : String → String) : Prop := ∃ head tail, ∀ s, text s = head ++ s ++ tail

namespace Holds

theorem self : Holds fun s => s := ⟨"", "", fun s => by simp⟩

theorem behind {text : String → String} (h : Holds text) (left : String) :
    Holds fun s => left ++ text s := by
  obtain ⟨head, tail, htext⟩ := h
  exact ⟨left ++ head, tail, fun s => by simp [htext, String.append_assoc]⟩

theorem before {text : String → String} (h : Holds text) (right : String) :
    Holds fun s => text s ++ right := by
  obtain ⟨head, tail, htext⟩ := h
  exact ⟨head, tail ++ right, fun s => by simp [htext, String.append_assoc]⟩

/-- One of several texts with separators between them may hold it. -/
theorem intercalate {text : String → String} (h : Holds text) (sep : String)
    (front back : List String) :
    Holds fun s => String.intercalate sep (front ++ text s :: back) := by
  have hback : Holds fun s => String.intercalate sep (text s :: back) := by
    cases back with
    | nil => simpa using h
    | cons next back =>
      simp only [String.intercalate_cons_cons]
      exact (h.before _).before _
  cases front with
  | nil => exact hback
  | cons first front =>
    have hjoin : ∀ s, String.intercalate sep (first :: front ++ text s :: back) =
        String.intercalate sep (first :: front) ++ sep ++ String.intercalate sep (text s :: back) :=
      fun s => String.intercalate_append_of_ne_nil (List.cons_ne_nil _ _) (List.cons_ne_nil _ _)
    simp only [hjoin]
    exact hback.behind _

end Holds

theorem Column.sql_holds (c : Column) : Holds fun s => (c.withNumber s).sql := by
  have hdefault := (Holds.self.behind " DEFAULT ").behind (c.type.sql ++
    (if c.unsigned && c.type.acceptsUnsigned then " UNSIGNED" else "") ++
    (if c.nullable then " NULL" else " NOT NULL") ++
    (if c.autoIncrement then " AUTO_INCREMENT" else ""))
  have hupdate := hdefault.before (if c.onUpdateCurrentTimestamp then
    " ON UPDATE " ++ currentTimestampSql c.type.fractionalPrecision else "")
  have hcomment := hupdate.before
    ((c.comment.map fun text => " COMMENT " ++ quoteLiteral text).getD "")
  have hname := hcomment.behind (quoteIdent c.name ++ " ")
  simp only [Column.sql, Column.definition, Column.withNumber, DefaultValue.sql]
  generalize c.comment = comment at hname ⊢
  cases comment <;> exact hname

namespace Blueprint

theorem createText_holds (b : Blueprint) (front : List Column) (c : Column) (back : List Column) :
    Holds fun s => (b.withColumn front (c.withNumber s) back).createText := by
  -- From the clause of the column outwards, each step puts more text around the number.
  have hclauses := c.sql_holds.intercalate ",\n  " (front.map Column.sql)
    (back.map Column.sql ++
      b.primaryColumn.toList.map (fun name => "PRIMARY KEY (" ++ quoteIdent name ++ ")") ++
      b.indexes.map Index.sql ++ b.foreignKeys.map ForeignKey.sql)
  have hopen := hclauses.behind ("CREATE TABLE " ++ quoteIdent b.table ++ " (\n  ")
  have hoptions := (((((hopen.before "\n) ENGINE=").before b.engine).before
    " DEFAULT CHARSET=").before b.charset).before " COLLATE=").before b.collation
  have hcomment := hoptions.before
    ((b.comment.map fun text => " COMMENT=" ++ quoteLiteral text).getD "")
  have heq : ∀ s, (b.withColumn front (c.withNumber s) back).clauses =
      front.map Column.sql ++ (c.withNumber s).sql :: (back.map Column.sql ++
        b.primaryColumn.toList.map (fun name => "PRIMARY KEY (" ++ quoteIdent name ++ ")") ++
        b.indexes.map Index.sql ++ b.foreignKeys.map ForeignKey.sql) := fun s => by
    simp only [clauses, withColumn, List.map_append, List.map_cons, List.append_assoc,
      List.cons_append]
  obtain ⟨head, tail, htext⟩ := hcomment
  refine ⟨head, tail, fun s => Eq.trans ?_ (htext s)⟩
  show (b.withColumn front (c.withNumber s) back).createText = _
  unfold createText
  rw [heq]
  dsimp only [withColumn]
  cases b.comment <;> rfl

theorem addColumnText_holds (b : Blueprint) (c : Column) :
    Holds fun s => b.addColumnText (c.withNumber s) := by
  have hopen := c.sql_holds.behind ("ALTER TABLE " ++ quoteIdent b.table ++ " ADD COLUMN ")
  have hplace := (hopen.before (if b.primaryColumn = some c.name then " PRIMARY KEY" else "")).before
    ((c.after.map fun column => " AFTER " ++ quoteIdent column).getD "")
  simp only [addColumnText, Column.withNumber] at hplace ⊢
  generalize c.after = after at hplace ⊢
  cases after <;> exact hplace

end Blueprint

/-- Exactly the numbers pass the check. A blueprint becomes statements only if its numeric
defaults are such, and each stands in them as it is written, at a place that is the same for
every number. -/
theorem numeric_defaults_checked :
    (∀ literal : String, isNumericLiteral literal.toList = true ↔ IsNumber literal.toList) ∧
    ∀ (b : Blueprint) (front back : List Column) (c : Column) (literal : String),
      (∃ sql, (b.withColumn front (c.withNumber literal) back).createStatement = .ok sql) ∨
        (∃ texts, (b.withColumn front (c.withNumber literal) back).alterStatements = .ok texts) →
      IsNumber literal.toList ∧
      (∀ d ∈ literal.toList, d.isDigit = true ∨ d ∈ ['+', '-', '.', 'e', 'E']) ∧
      (∃ head tail,
        (∀ s, (b.withColumn front (c.withNumber s) back).createText = head ++ s ++ tail) ∧
        ∀ sql, (b.withColumn front (c.withNumber literal) back).createStatement = .ok sql →
          sql = head ++ literal ++ tail) ∧
      ∃ head tail,
        (∀ s, b.addColumnText (c.withNumber s) = head ++ s ++ tail) ∧
        ∀ texts, (b.withColumn front (c.withNumber literal) back).alterStatements = .ok texts →
          texts[front.length]? = some (head ++ literal ++ tail) := by
  refine ⟨fun literal => isNumericLiteral_iff, fun b front back c literal hstatement => ?_⟩
  -- Either way the statements come from a blueprint that was checked, column by column.
  have hcheck : (b.withColumn front (c.withNumber literal) back).check = .ok () := by
    rcases hstatement with ⟨sql, hsql⟩ | ⟨texts, htexts⟩
    · exact (Blueprint.createStatement_eq_ok_iff.1 hsql).1
    · exact (Blueprint.alterStatements_eq_ok_iff.1 htexts).1
  have hcolumn := (Blueprint.check_eq_ok_iff.1 hcheck).2.1 (c.withNumber literal)
    (List.mem_append_right front List.mem_cons_self)
  have hnumber := isNumericLiteral_iff.1 (Column.isNumericLiteral_of_check hcolumn.2 rfl)
  refine ⟨hnumber, fun d hd => ?_, ?_, ?_⟩
  · have hchar := Catalog.isNumeralChar_of_isNumericLiteral (isNumericLiteral_iff.2 hnumber) d hd
    simpa [Catalog.isNumeralChar] using hchar
  · obtain ⟨head, tail, htext⟩ := b.createText_holds front c back
    refine ⟨head, tail, htext, fun sql hsql => ?_⟩
    rw [← (Blueprint.createStatement_eq_ok_iff.1 hsql).2.2]
    exact htext literal
  · obtain ⟨head, tail, htext⟩ := b.addColumnText_holds c
    refine ⟨head, tail, htext, fun texts htexts => ?_⟩
    obtain ⟨-, rfl⟩ := Blueprint.alterStatements_eq_ok_iff.1 htexts
    rw [← htext literal]
    simp [Blueprint.withColumn]
    rfl

/-- A table with a price that has a default. -/
def priced (literal : String) : Blueprint :=
  (Blueprint.empty "items").withColumn [{ name := "id", type := .bigInteger }]
    (Column.withNumber { name := "price", type := .decimal 8 2, comment := some "net" } literal) []

theorem numeric_defaults_checked_price :
    (∃ sql, (priced "-1.50E+3").createStatement = .ok sql) ∧
    (∃ texts, (priced "-1.50E+3").alterStatements = .ok texts) ∧
    IsNumber "-1.50E+3".toList ∧
    ∃ head tail, (priced "-1.50E+3").createText = head ++ "-1.50E+3" ++ tail := by
  have hcheck : (priced "-1.50E+3").check = .ok () := by decide
  have hcreate : ∃ sql, (priced "-1.50E+3").createStatement = .ok sql :=
    ⟨_, Blueprint.createStatement_eq_ok_iff.2 ⟨hcheck, by decide, rfl⟩⟩
  have halter : ∃ texts, (priced "-1.50E+3").alterStatements = .ok texts :=
    ⟨_, Blueprint.alterStatements_eq_ok_iff.2 ⟨hcheck, rfl⟩⟩
  obtain ⟨hnumber, -, ⟨head, tail, htext, -⟩, -⟩ :=
    numeric_defaults_checked.2 _ _ _ _ _ (.inl hcreate)
  exact ⟨hcreate, halter, hnumber, head, tail, htext _⟩

end SchemaMigration.Table
