import Mathlib.Data.List.Forall2
import SchemaMigration.Proofs.DateTexts
import SchemaMigration.Proofs.LedgerStatements

/-
  Rows that are delivered as text.

  A driver may deliver a value by its type or as its text, and another one in every column
  otherwise. What is read of a value is the same either way, as a text, as a whole number and
  as a date: the digits of a number read back as the number where a word of 64 bits holds it,
  and are refused where none does; a date reads back as the date, and neither is taken for the
  other. Only a float is not told by its text, since it is cut off to a whole number and its
  text is not. So the ledger is read the same, row by row.

  Main statements: `Value.IsTold.asInt_inText`, `Value.IsTold.asTimestamp_inText` and
  `texts_read_alike`.
-/
namespace SchemaMigration

open Text Calendar Generation

/-! ## Whole numbers -/

namespace Text

theorem toList_natText (n : Nat) : (natText n).toList = digits n := String.toList_ofList

/-- A whole number is written with its digits, behind a minus sign below zero. -/
theorem toList_intText (i : Int) :
    (intText i).toList = if i < 0 then '-' :: digits i.natAbs else digits i.natAbs := by
  rw [intText]
  split
  · rw [String.toList_append, toList_natText]
    rfl
  · exact toList_natText i.natAbs

/-- Digits behind a sign are read as the number of that sign. -/
theorem readInt?_intText (i : Int) : readInt? (intText i).toList = some i := by
  rw [toList_intText]
  split
  · next hneg =>
    show (readDigits? (digits i.natAbs)).map (fun n => -(n : Int)) = _
    rw [readDigits?_digits]
    show some (-(i.natAbs : Int)) = _
    rw [← Int.eq_neg_natAbs_of_nonpos (by omega)]
  · next hpos =>
    have hne : digits i.natAbs ≠ [] := Nat.toDigits_ne_nil
    rw [readInt?_of_allDigits hne (allDigits_digits i.natAbs), digits,
      Nat.ofDigitChars_ten_toDigits, Int.natAbs_of_nonneg (by omega)]

theorem intText_natCast (n : Nat) : intText n = natText n := by
  rw [intText, if_neg (Int.not_lt.2 (Int.natCast_nonneg n)), Int.natAbs_natCast]

/-- The text of a whole number has no blank at its ends. -/
theorem trim_intText (i : Int) : trim (intText i).toList = (intText i).toList := by
  have hall : ∀ c ∈ (intText i).toList, isBlank c = false := by
    have hdigits : ∀ c ∈ digits i.natAbs, isBlank c = false :=
      fun _ hc => not_isBlank_of_isDigit (isDigit_of_mem_digits hc)
    rw [toList_intText]
    split
    · exact List.forall_mem_cons.2 ⟨by decide, hdigits⟩
    · exact hdigits
  exact trim_eq_self (fun c hc => hall c (List.mem_of_mem_head? hc))
    fun c hc => hall c (List.mem_of_mem_getLast? hc)

end Text

/-! ## Values -/

namespace Sql

namespace Value

/-- The value as a driver delivers it that knows texts only; null stays null. -/
def inText (v : Value) : Value :=
  match v.asText with
  | some s => .text s
  | none => .null

/-- A truth, or a whole number that a word of 64 bits holds. -/
def IsWhole : Value → Prop
  | .bool _ => True
  | .int i => minInt64 ≤ i ∧ i ≤ maxInt64
  | .uint n => n < UInt64.size
  | _ => False

/-- All that is read of the value can be read of its text: it is no float, a number is one that a
word holds, and a date is one of the calendar with a year of four digits. -/
def IsTold : Value → Prop
  | .int i => minInt64 ≤ i ∧ i ≤ maxInt64
  | .float _ => False
  | .timestamp t => t.Valid ∧ 0 ≤ t.year ∧ t.year ≤ 9999
  | _ => True

theorem IsWhole.isTold {v : Value} (h : v.IsWhole) : v.IsTold := by
  cases v with
  | bool b => trivial
  | int i => exact h
  | uint n => trivial
  | null | float x | text s | timestamp t => cases h

theorem asText_inText (v : Value) : v.inText.asText = v.asText := by
  rw [inText]
  cases h : v.asText with
  | none => rfl
  | some s => rfl

/-- A whole number reads back from its text where a word holds it, and nowhere else. -/
theorem asInt_text_intText (i : Int) :
    (text (intText i)).asInt = if minInt64 ≤ i ∧ i ≤ maxInt64 then some i else none := by
  rw [asInt, trim_intText, readInt64?, readInt?_intText]
  by_cases h : minInt64 ≤ i ∧ i ≤ maxInt64 <;> simp [Option.filter, h]

/-- The text of a date is no number. -/
theorem asInt_text_timestamp (t : DateTime) : (text t.text).asInt = none := by
  rw [asInt, readInt64?, DateTime.readInt?_trim_text]
  rfl

/-- The text of a whole number is no date. -/
theorem asTimestamp_text_intText (i : Int) : (text (intText i)).asTimestamp = none := by
  rw [asTimestamp, DateTime.ofText?]
  exact DateTime.readWith?_of_readInt? (readInt?_intText i) _

/-- A date of four-digit year reads back from its text. -/
theorem asTimestamp_text {t : DateTime} (h : t.Valid) (hfrom : 0 ≤ t.year)
    (hto : t.year ≤ 9999) : (text t.text).asTimestamp = some t := by
  refine DateTime.ofText?_text h ?_
  rw [DateTime.yearInRange, Bool.and_eq_true, decide_eq_true_eq, decide_eq_true_eq]
  omega

theorem IsTold.asInt_inText {v : Value} (h : v.IsTold) : v.inText.asInt = v.asInt := by
  cases v with
  | null => rfl
  | bool b => cases b <;> rfl
  | int i =>
    have hword : minInt64 ≤ i ∧ i ≤ maxInt64 := h
    show (text (intText i)).asInt = some i
    rw [asInt_text_intText, if_pos hword]
  | uint n =>
    show (text (natText n)).asInt = if (n : Int) ≤ maxInt64 then some (n : Int) else none
    have hmin : minInt64 ≤ n := Int.le_trans (by decide) (Int.natCast_nonneg n)
    rw [← intText_natCast, asInt_text_intText]
    simp [hmin]
  | float x => cases h
  | text s => rfl
  | timestamp t => exact asInt_text_timestamp t

theorem IsTold.asTimestamp_inText {v : Value} (h : v.IsTold) :
    v.inText.asTimestamp = v.asTimestamp := by
  cases v with
  | null => rfl
  | bool b => cases b <;> decide
  | int i => exact asTimestamp_text_intText i
  | uint n =>
    show (text (natText n)).asTimestamp = none
    rw [← intText_natCast]
    exact asTimestamp_text_intText n
  | float x => cases h
  | text s => rfl
  | timestamp t => exact asTimestamp_text h.1 h.2.1 h.2.2

/-- A value may be delivered as it is or as its text. -/
def Delivered (v w : Value) : Prop := w = v ∨ w = v.inText

/-- What is read of two values is the same. -/
def ReadAlike (v w : Value) : Prop :=
  w.asText = v.asText ∧ w.asInt = v.asInt ∧ w.asTimestamp = v.asTimestamp

theorem Delivered.readAlike {v w : Value} (h : v.Delivered w) (hv : v.IsTold) : v.ReadAlike w := by
  rcases h with rfl | rfl
  · exact ⟨rfl, rfl, rfl⟩
  · exact ⟨asText_inText v, hv.asInt_inText, hv.asTimestamp_inText⟩

end Value

/-! ## Rows -/

namespace Row

/-- A row may be delivered with each of its values as it is or as its text. -/
structure Delivered (r r' : Row) : Prop where
  columns : r'.columns = r.columns
  values : List.Forall₂ Value.Delivered r.values r'.values

/-- All that is read of a row can be read of the texts of its values. -/
def IsTold (r : Row) : Prop := ∀ v ∈ r.values, v.IsTold

/-- What is read of a column is the same. -/
theorem Delivered.read_alike {r r' : Row} (h : r.Delivered r') (hr : r.IsTold) (column : String) :
    r'.text? column = r.text? column ∧ r'.int? column = r.int? column ∧
      r'.timestamp? column = r.timestamp? column := by
  have hat : ∀ i, r.at? i = none ∧ r'.at? i = none ∨
      ∃ v w, r.at? i = some v ∧ r'.at? i = some w ∧ v.ReadAlike w := by
    intro i
    have hlength := h.values.length_eq
    simp only [at?]
    rcases Nat.lt_or_ge i r.values.length with hi | hi
    · refine .inr ⟨r.values[i], r'.values[i], List.getElem?_eq_getElem hi,
        List.getElem?_eq_getElem (hlength ▸ hi), ?_⟩
      exact (h.values.get hi (hlength ▸ hi)).readAlike (hr _ (List.getElem_mem hi))
    · exact .inl ⟨List.getElem?_eq_none hi, List.getElem?_eq_none (hlength ▸ hi)⟩
  simp only [text?, int?, timestamp?, get?, h.columns]
  cases r.columns.findIdx? (sameName column) with
  | none => exact ⟨rfl, rfl, rfl⟩
  | some i =>
    simp only [Option.bind_some]
    rcases hat i with ⟨hnone, hnone'⟩ | ⟨v, w, hsome, hsome', htext, hint, htime⟩
    · rw [hnone, hnone']
      exact ⟨rfl, rfl, rfl⟩
    · rw [hsome, hsome']
      exact ⟨htext, hint, htime⟩

end Row

end Sql

/-! ## The ledger -/

namespace Migration

open Sql Database

/-- A row that is delivered in any way holds the same entry. -/
theorem ofRow_delivered {r r' : Row} (h : r.Delivered r') (hr : r.IsTold) :
    LedgerEntry.ofRow r' = LedgerEntry.ofRow r := by
  have hread := h.read_alike hr
  rw [LedgerEntry.ofRow, LedgerEntry.ofRow, (hread "migration").1, (hread "id").2.1,
    (hread "batch").2.1, (hread "applied_at").2.2]

theorem mapM_ofRow_delivered {rows rows' : List Row} (h : List.Forall₂ Row.Delivered rows rows')
    (hrows : ∀ r ∈ rows, r.IsTold) :
    rows'.mapM LedgerEntry.ofRow = rows.mapM LedgerEntry.ofRow := by
  induction h with
  | nil => rfl
  | cons hr _ ih =>
    obtain ⟨hhead, htail⟩ := List.forall_mem_cons.1 hrows
    rw [List.mapM_cons, List.mapM_cons, ofRow_delivered hr hhead, ih htail]

/-- The entries that are read depend on the rows only. -/
theorem run_entries_of_rows {σ : Type} [Connection σ] {table : String} {s t : σ} {rows : List Row}
    (h : (Connection.query (ledgerEntriesSql table) []).run s = (.ok rows, t)) :
    (Ledger.entries table).run s = (rows.mapM LedgerEntry.ofRow, t) := by
  rw [Ledger.entries, Action.run_bind, h]
  dsimp only
  cases rows.mapM LedgerEntry.ofRow <;> rfl

/-- A truth or whole number has the same view as a whole number if it comes as its text, and that
is none for a number beyond the signed ones of 64 bits; a date of four-digit year, a leap second
allowed, is read back from its text; and the ledger has the same entries on two connections of
which one delivers some values or all as text. -/
theorem texts_read_alike :
    (∀ v : Value, v.IsWhole → ∃ s, v.asText = some s ∧ (Value.text s).asInt = v.asInt) ∧
    (∀ t : DateTime, t.Valid → 0 ≤ t.year → t.year ≤ 9999 →
      ∃ s, (Value.timestamp t).asText = some s ∧ (Value.text s).asTimestamp = some t) ∧
    ∀ {σ σ' : Type} [Connection σ] [Connection σ'] (table : String) (s t : σ) (s' t' : σ')
      (rows rows' : List Row),
      (Connection.query (ledgerEntriesSql table) []).run s = (.ok rows, t) →
      (Connection.query (ledgerEntriesSql table) []).run s' = (.ok rows', t') →
      List.Forall₂ Row.Delivered rows rows' → (∀ r ∈ rows, r.IsTold) →
      ((Ledger.entries table).run s').1 = ((Ledger.entries table).run s).1 := by
  refine ⟨fun v hv => ?_, fun t ht hfrom hto => ⟨t.text, rfl, Value.asTimestamp_text ht hfrom hto⟩,
    fun table s t s' t' rows rows' hs hs' hrows htold => ?_⟩
  · have htext : ∃ s, v.asText = some s := by
      cases v with
      | bool b | int i | uint n => exact ⟨_, rfl⟩
      | null | float x | text s | timestamp t => cases hv
    obtain ⟨s, hs⟩ := htext
    have hint := hv.isTold.asInt_inText
    rw [Value.inText, hs] at hint
    exact ⟨s, hs, hint⟩
  · rw [run_entries_of_rows hs, run_entries_of_rows hs']
    exact mapM_ofRow_delivered hrows htold

/-- A database that has been told the rows of the ledger. -/
def answering (rows : List Row) : Memory :=
  (Memory.empty defaultLedgerTable).onQuery (ledgerEntriesSql defaultLedgerTable) rows

theorem query_answering (rows : List Row) :
    (Connection.query (ledgerEntriesSql defaultLedgerTable) []).run (answering rows) =
      (.ok rows, answering rows) := by
  have hcanned : (answering rows).canned.get? (ledgerEntriesSql defaultLedgerTable) = some rows := by
    rw [answering, Memory.onQuery, NameMap.get?_insert, if_pos rfl]
  have hfree : (answering rows).isBoundToFail (ledgerEntriesSql defaultLedgerTable) = false := rfl
  rw [Memory.run_query, Memory.query, hfree, if_neg Bool.false_ne_true, Memory.answer, hcanned]

theorem texts_read_alike_extremes :
    (∃ s, (Value.uint 18446744073709551615).asText = some s ∧ (Value.text s).asInt = none) ∧
    (∃ s, (Value.int minInt64).asText = some s ∧ (Value.text s).asInt = some minInt64) ∧
    (∃ s, (Value.timestamp ⟨0, 2, 29, 23, 59, 60⟩).asText = some s ∧
      (Value.text s).asTimestamp = some ⟨0, 2, 29, 23, 59, 60⟩) ∧
    ((Ledger.entries defaultLedgerTable).run (answering [⟨["id", "migration", "batch", "applied_at"],
        [.text "7", .text "20240101000000_a.rs", .int 2, .text "2016-12-31 23:59:60"]⟩])).1 =
      .ok [⟨7, "20240101000000_a.rs", 2, some ⟨2016, 12, 31, 23, 59, 60⟩⟩] := by
  let typed : Row := ⟨["id", "migration", "batch", "applied_at"],
    [.uint 7, .text "20240101000000_a.rs", .int 2, .timestamp ⟨2016, 12, 31, 23, 59, 60⟩]⟩
  let texts : Row := ⟨["id", "migration", "batch", "applied_at"],
    [.text "7", .text "20240101000000_a.rs", .int 2, .text "2016-12-31 23:59:60"]⟩
  have hdelivered : typed.Delivered texts := ⟨rfl, .cons (.inr (by decide)) (.cons (.inl rfl)
    (.cons (.inl rfl) (.cons (.inr (by decide)) .nil)))⟩
  have htold : typed.IsTold := by
    simp only [Row.IsTold, typed, List.forall_mem_cons]
    exact ⟨trivial, trivial, by show _ ∧ _; decide, by show _ ∧ _; decide, nofun⟩
  have htyped : ((Ledger.entries defaultLedgerTable).run (answering [typed])).1 =
      .ok [⟨7, "20240101000000_a.rs", 2, some ⟨2016, 12, 31, 23, 59, 60⟩⟩] := by decide +kernel
  refine ⟨texts_read_alike.1 (.uint 18446744073709551615) (by show _ < _; decide),
    texts_read_alike.1 (.int minInt64) (by show _ ∧ _; decide),
    texts_read_alike.2.1 ⟨0, 2, 29, 23, 59, 60⟩ (by decide) (by decide) (by decide), ?_⟩
  exact (texts_read_alike.2.2 defaultLedgerTable _ _ _ _ [typed] [texts] (query_answering _)
    (query_answering _) (.cons hdelivered .nil) (List.forall_mem_singleton.2 htold)).trans htyped

end Migration

end SchemaMigration
