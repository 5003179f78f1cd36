import SchemaMigration.Migration.Ledger
import SchemaMigration.Proofs.CatalogAnswers
import SchemaMigration.Proofs.CatalogRows

/-
  The statements and the query of the ledger, as a database in memory reads them.

  The database looks for the name of its ledger table between backticks as it is,
  while a statement doubles the backticks in a name. A name without backticks reads
  the same both ways. Of any other name, what counts is that the query for the rows
  finds the table: then the statements that add and remove rows find it, too, since
  the text around the name leaves the query no other place to match.

  Main statements: `quotedAsIs_of_readsLedger`, `read_recordSql`, `read_removeSql`, and
  `entries_cases`, what is read of the ledger.
-/
namespace SchemaMigration.Migration

open Text Sql Database

/-! ## Names between backticks -/

/-- Whether a name between backticks is how its identifier starts. -/
def QuotedAsIs (name : String) : Prop :=
  '\x60' :: name.toList ++ ['\x60'] <+: ident name.toList

instance (name : String) : Decidable (QuotedAsIs name) :=
  inferInstanceAs (Decidable ('\x60' :: name.toList ++ ['\x60'] <+: ident name.toList))

theorem count_doubled {c d : Char} (h : c ≠ d) (cs : List Char) :
    (doubled d cs).count c = cs.count c := by
  induction cs with
  | nil => rfl
  | cons e cs ih =>
    by_cases he : e = d
    · subst he
      simp [doubled, ih, Ne.symm h]
    · simp [doubled, he, List.count_cons, ih]

theorem count_ident (name : List Char) : (ident name).count 'F' = name.count 'F' := by
  simp [ident, count_doubled]

theorem length_le_doubled (c : Char) (cs : List Char) : cs.length ≤ (doubled c cs).length := by
  induction cs with
  | nil => exact Nat.le_refl _
  | cons d cs ih =>
    rw [doubled]
    split
    · simp only [List.length_cons]
      omega
    · simp only [List.length_cons]
      omega

theorem doubled_eq_self {c : Char} {cs : List Char} (h : c ∉ cs) : doubled c cs = cs := by
  induction cs with
  | nil => rfl
  | cons d cs ih =>
    obtain ⟨hd, hcs⟩ := not_or.1 (mt List.mem_cons.2 h)
    rw [doubled, if_neg (Ne.symm hd), ih hcs]

theorem toList_quoteIdent (name : String) : (quoteIdent name).toList = ident name.toList := by
  rw [quoteIdent, String.toList_ofList]

/-- Both sides have one `F` more than the name, so there is none in front of the match
and none behind it. -/
theorem prefix_ident_of_infix {name head word tail : List Char} (hhead : 'F' ∉ head)
    (hword : 'F' ∉ word) (htail : 'F' ∉ tail)
    (h : 'F' :: (word ++ ('\x60' :: name ++ ['\x60'])) <:+:
      head ++ 'F' :: (word ++ (ident name ++ tail))) :
    '\x60' :: name ++ ['\x60'] <+: ident name := by
  obtain ⟨before, behind, heq⟩ := h
  have hcount := congrArg (List.count 'F') heq
  simp only [List.count_append, List.count_cons, List.count_nil, count_ident,
    List.count_eq_zero_of_not_mem hhead, List.count_eq_zero_of_not_mem hword,
    List.count_eq_zero_of_not_mem htail] at hcount
  have hbefore : 'F' ∉ before := by
    apply List.count_eq_zero.1
    have : (('\x60' : Char) == 'F') = false := rfl
    simp only [this, beq_self_eq_true, if_true, Bool.false_eq_true, if_false] at hcount
    omega
  -- Cut at the first `F`, both sides have the same front and the same rest.
  rw [List.append_assoc, List.cons_append] at heq
  have hrest := cutAt_beq_append hbefore (word ++ ('\x60' :: name ++ ['\x60']) ++ behind)
  rw [heq, cutAt_beq_append hhead, Option.some.injEq, Prod.mk.injEq] at hrest
  have hname : '\x60' :: name ++ ['\x60'] <+: ident name ++ tail := by
    rw [← List.prefix_append_right_inj word, hrest.2]
    exact List.prefix_append _ _
  refine List.prefix_of_prefix_length_le hname (List.prefix_append _ _) ?_
  have := length_le_doubled '\x60' name
  simp only [ident, List.length_cons, List.length_append, List.length_nil]
  omega

theorem infix_of_infix_append {c : Char} {part head cs : List Char} (hhead : c ∉ head)
    (h : c :: part <:+: head ++ cs) : c :: part <:+: cs := by
  induction head with
  | nil => exact h
  | cons d head ih =>
    rw [List.mem_cons, not_or] at hhead
    rcases List.infix_cons_iff.1 h with hfirst | hrest
    · exact absurd (List.cons_prefix_cons.1 hfirst).1 hhead.1
    · exact ih hhead.2 hrest

/-- What starts and ends with a character does not reach over texts without it. -/
theorem infix_of_infix_around {c : Char} {part head cs tail : List Char} (hhead : c ∉ head)
    (htail : c ∉ tail) (h : c :: part ++ [c] <:+: head ++ (cs ++ tail)) :
    c :: part ++ [c] <:+: cs := by
  have hfront : c :: part ++ [c] <:+: cs ++ tail := infix_of_infix_append hhead h
  rw [← List.reverse_infix, List.reverse_append, List.reverse_append] at hfront
  rw [← List.reverse_infix, List.reverse_append]
  exact infix_of_infix_append (fun hc => htail (List.mem_reverse.1 hc)) hfront

theorem quotedAsIs_of_readsLedger {db : Memory}
    (h : db.readsLedger (ledgerEntriesSql db.ledgerTable) = true) : QuotedAsIs db.ledgerTable := by
  rw [Memory.readsLedger, Bool.and_eq_true, occursIn_iff] at h
  generalize db.ledgerTable = name at h ⊢
  have hfrom : "FROM \x60".toList = 'F' :: ("ROM ".toList ++ ['\x60']) := rfl
  have hselect : "SELECT id, migration, batch, applied_at FROM ".toList =
      "SELECT id, migration, batch, applied_at ".toList ++ 'F' :: "ROM ".toList :=
    String.toList_append (s := "SELECT id, migration, batch, applied_at ") (t := "FROM ")
  have hhead : 'F' ∉ "SELECT id, migration, batch, applied_at ".toList := by decide
  have hword : 'F' ∉ "ROM ".toList := by decide
  have htail : 'F' ∉ " ORDER BY id".toList := by decide
  -- The texts become variables as soon as it is known that they have no `F`.
  have hinfix := h.2
  unfold ledgerEntriesSql at hinfix
  simp only [String.toList_append] at hinfix
  rw [hselect, hfrom, toList_quoteIdent] at hinfix
  generalize "SELECT id, migration, batch, applied_at ".toList = head at hinfix hhead
  generalize "ROM ".toList = word at hinfix hword
  generalize " ORDER BY id".toList = tail at hinfix htail
  apply prefix_ident_of_infix hhead hword htail
  simpa only [List.append_assoc, List.cons_append, List.nil_append] using hinfix

/-- A table whose name has no backtick is read as the ledger by its own name alone. -/
theorem ledgerTable_of_readsLedger {db : Memory} {table : String} (htable : '\x60' ∉ table.toList)
    (h : db.readsLedger (ledgerEntriesSql table) = true) : table = db.ledgerTable := by
  rw [Memory.readsLedger, Bool.and_eq_true, occursIn_iff] at h
  obtain ⟨before, behind, heq⟩ := h.2
  generalize db.ledgerTable = name at heq ⊢
  have hfrom : "FROM \x60".toList = "FROM ".toList ++ ['\x60'] := rfl
  have hword : '\x60' ∉ "FROM ".toList := by decide
  have hhead : '\x60' ∉ "SELECT id, migration, batch, applied_at FROM ".toList := by decide
  have htail : '\x60' ∉ " ORDER BY id".toList := by decide
  unfold ledgerEntriesSql at heq
  simp only [String.toList_append] at heq
  rw [toList_quoteIdent, hfrom, ident, doubled_eq_self htable] at heq
  generalize "FROM ".toList = word at heq hword
  generalize "SELECT id, migration, batch, applied_at FROM ".toList = head at heq hhead
  generalize " ORDER BY id".toList = tail at heq htail
  -- The query has two backticks, and the match needs both.
  have hcount := congrArg (List.count '\x60') heq
  simp only [List.count_append, List.count_cons, List.count_nil, beq_self_eq_true, if_true,
    List.count_eq_zero_of_not_mem hhead, List.count_eq_zero_of_not_mem hword,
    List.count_eq_zero_of_not_mem htail, List.count_eq_zero_of_not_mem htable] at hcount
  have hbefore : '\x60' ∉ before := List.count_eq_zero.1 (by omega)
  have hname : '\x60' ∉ name.toList := List.count_eq_zero.1 (by omega)
  -- What stands between the first backtick and the second is the name.
  have hrest := cutAt_beq_append (List.not_mem_append hbefore hword)
    (name.toList ++ '\x60' :: behind)
  have hshape : before ++ (word ++ ['\x60'] ++ name.toList ++ ['\x60']) ++ behind =
      before ++ word ++ '\x60' :: (name.toList ++ '\x60' :: behind) := by
    simp only [List.append_assoc, List.cons_append, List.nil_append]
  have hshape' : head ++ ('\x60' :: table.toList ++ ['\x60']) ++ tail =
      head ++ '\x60' :: (table.toList ++ '\x60' :: tail) := by
    simp only [List.append_assoc, List.cons_append, List.nil_append]
  rw [← hshape, heq, hshape', cutAt_beq_append hhead, Option.some.injEq, Prod.mk.injEq] at hrest
  have hinner := cutAt_beq_append hname behind
  rw [← hrest.2, cutAt_beq_append htable, Option.some.injEq, Prod.mk.injEq] at hinner
  exact String.toList_inj.1 hinner.1

/-- What a query finds between backticks occurs in the identifier, for there are no others. -/
theorem infix_ident_of_readsLedger {db : Memory} {table : String}
    (h : db.readsLedger (ledgerEntriesSql table) = true) :
    '\x60' :: db.ledgerTable.toList ++ ['\x60'] <:+: ident table.toList := by
  rw [Memory.readsLedger, Bool.and_eq_true, occursIn_iff] at h
  have hinfix := h.2
  have hfrom : "FROM \x60".toList = "FROM ".toList ++ ['\x60'] := rfl
  have hhead : '\x60' ∉ "SELECT id, migration, batch, applied_at FROM ".toList := by decide
  have htail : '\x60' ∉ " ORDER BY id".toList := by decide
  unfold ledgerEntriesSql at hinfix
  simp only [String.toList_append] at hinfix
  rw [toList_quoteIdent, hfrom] at hinfix
  generalize "FROM ".toList = word at hinfix
  generalize "SELECT id, migration, batch, applied_at FROM ".toList = head at hinfix hhead
  generalize " ORDER BY id".toList = tail at hinfix htail
  have hword : '\x60' :: db.ledgerTable.toList ++ ['\x60'] <:+:
      word ++ ['\x60'] ++ db.ledgerTable.toList ++ ['\x60'] := by
    refine ⟨word, [], ?_⟩
    simp only [List.append_assoc, List.cons_append, List.nil_append, List.append_nil]
  rw [List.append_assoc head] at hinfix
  exact infix_of_infix_around hhead htail (hword.trans hinfix)

/-! ## Reading statements -/

theorem read_beginSql (table : String) : Command.read table beginSql = .begin := rfl

theorem read_commitSql (table : String) : Command.read table commitSql = .commit := rfl

/-- A statement that starts with another word than those of transactions. What it
starts with is given as four truths, for no text but that word matters to them. -/
theorem read_of_word (table : String) (insert ignore delete change : Bool) {text : String}
    {word rest : List Char} (h : trim text.toList = word ++ rest)
    (hword : ∀ w ∈ ["START TRANSACTION".toList, "BEGIN".toList, "COMMIT".toList,
      "ROLLBACK".toList], ¬word.map Char.toUpper <+: w)
    (hinsert : ∀ r, "INSERT".toList.isPrefixOf (word.map Char.toUpper ++ r) = insert)
    (hignore : ∀ r, "INSERT IGNORE".toList.isPrefixOf (word.map Char.toUpper ++ r) = ignore)
    (hdelete : ∀ r, "DELETE FROM".toList.isPrefixOf (word.map Char.toUpper ++ r) = delete)
    (hchange : ∀ r, Command.schemaWords.any (·.isPrefixOf (word.map Char.toUpper ++ r)) = change) :
    Command.read table text =
      if insert ∧ occursIn ("INTO ".toList ++ ('\x60' :: table.toList ++ ['\x60'])) (word ++ rest) then
        .record ignore
      else if delete ∧ occursIn ('\x60' :: table.toList ++ ['\x60']) (word ++ rest) then .remove
      else if change then .change (SchemaChange.read (word ++ rest))
      else .other := by
  have hupper : (word ++ rest).map Char.toUpper =
      word.map Char.toUpper ++ rest.map Char.toUpper := List.map_append
  -- The word begins none of the four, so the text is none of them.
  have hne : ∀ w ∈ ["START TRANSACTION".toList, "BEGIN".toList, "COMMIT".toList,
      "ROLLBACK".toList], word.map Char.toUpper ++ rest.map Char.toUpper ≠ w := by
    rintro w hw rfl
    exact hword _ hw (List.prefix_append _ _)
  simp only [List.forall_mem_cons] at hne
  obtain ⟨hstart, hbegin, hcommit, hrollback, -⟩ := hne
  rw [Command.read, h, Command.changesSchema]
  unfold startsWithWords
  rw [hupper, hinsert, hignore, hdelete, hchange, if_neg (not_or.2 ⟨hstart, hbegin⟩),
    if_neg hcommit, if_neg hrollback]

/-- A statement that starts with a word of those that change the schema. -/
theorem read_of_schemaWord (table : String) {text : String} {word rest : List Char}
    (h : trim text.toList = word ++ rest)
    (hword : ∀ w ∈ ["START TRANSACTION".toList, "BEGIN".toList, "COMMIT".toList,
      "ROLLBACK".toList], ¬word.map Char.toUpper <+: w)
    (hother : ∀ r, "INSERT".toList.isPrefixOf (word.map Char.toUpper ++ r) = false ∧
      "INSERT IGNORE".toList.isPrefixOf (word.map Char.toUpper ++ r) = false ∧
      "DELETE FROM".toList.isPrefixOf (word.map Char.toUpper ++ r) = false)
    (hchange : ∀ r, Command.schemaWords.any (·.isPrefixOf (word.map Char.toUpper ++ r)) = true) :
    Command.read table text = .change (SchemaChange.read (word ++ rest)) := by
  rw [read_of_word table false false false true h hword (fun r => (hother r).1)
    (fun r => (hother r).2.1) (fun r => (hother r).2.2) hchange]
  refine (if_neg fun hboth => Bool.false_ne_true hboth.1).trans ?_
  refine (if_neg fun hboth => Bool.false_ne_true hboth.1).trans ?_
  exact if_pos rfl

theorem occursIn_quoted {table : String} (h : QuotedAsIs table) (front word tail : List Char) :
    occursIn (word ++ ('\x60' :: table.toList ++ ['\x60']))
      (front ++ word ++ (ident table.toList ++ tail)) = true := by
  obtain ⟨rest, hrest⟩ := h
  rw [occursIn_iff, ← hrest]
  exact ⟨front, rest ++ tail, by simp only [List.append_assoc]⟩

theorem trim_around (name front tail : String) {c d : Char}
    (hfront : front.toList.head? = some c) (htail : tail.toList.getLast? = some d)
    (hc : isBlank c = false) (hd : isBlank d = false) :
    trim (front ++ quoteIdent name ++ tail).toList =
      front.toList ++ (ident name.toList ++ tail.toList) := by
  rw [String.toList_append, String.toList_append, toList_quoteIdent, List.append_assoc]
  exact trim_append hfront htail hc hd

theorem read_recordSql {table : String} (h : QuotedAsIs table) :
    Command.read table (recordSql table) = .record false := by
  have htrim := trim_around table "INSERT INTO " " (migration, batch) VALUES (?, ?)" rfl rfl
    (by decide) (by decide)
  have hread := read_of_word table true false false false htrim (by decide) (fun _ => rfl)
    (fun _ => rfl) (fun _ => rfl) fun _ => rfl
  have hinto := occursIn_quoted h "INSERT ".toList "INTO ".toList
    " (migration, batch) VALUES (?, ?)".toList
  unfold recordSql
  rw [hread, if_pos ⟨rfl, hinto⟩]

theorem read_removeSql_of_infix {ledger table : String}
    (h : '\x60' :: ledger.toList ++ ['\x60'] <:+: ident table.toList) :
    Command.read ledger (removeSql table) = .remove := by
  have htrim := trim_around table "DELETE FROM " " WHERE migration = ?" rfl rfl
    (by decide) (by decide)
  have hread := read_of_word ledger false false true false htrim (by decide) (fun _ => rfl)
    (fun _ => rfl) (fun _ => rfl) fun _ => rfl
  have hledger : occursIn ('\x60' :: ledger.toList ++ ['\x60'])
      ("DELETE FROM ".toList ++ (ident table.toList ++ " WHERE migration = ?".toList)) = true :=
    occursIn_iff.2 (h.trans ⟨_, _, List.append_assoc _ _ _⟩)
  unfold removeSql
  rw [hread, if_neg fun hboth => Bool.false_ne_true hboth.1, if_pos ⟨rfl, hledger⟩]

theorem read_removeSql {table : String} (h : QuotedAsIs table) :
    Command.read table (removeSql table) = .remove :=
  read_removeSql_of_infix h.isInfix

theorem read_recordIfAbsentSql_of_quoted {table : String} (h : QuotedAsIs table) :
    Command.read table (recordIfAbsentSql table) = .record true := by
  have htrim := trim_around table "INSERT IGNORE INTO " " (migration, batch) VALUES (?, ?)" rfl
    rfl (by decide) (by decide)
  have hread := read_of_word table true true false false htrim (by decide) (fun _ => rfl)
    (fun _ => rfl) (fun _ => rfl) fun _ => rfl
  have hinto := occursIn_quoted h "INSERT IGNORE ".toList "INTO ".toList
    " (migration, batch) VALUES (?, ?)".toList
  unfold recordIfAbsentSql
  rw [hread, if_pos ⟨rfl, hinto⟩]

/-- Some names hide the table from the statement, which then does nothing. -/
theorem read_recordIfAbsentSql (ledger table : String) :
    Command.read ledger (recordIfAbsentSql table) = .record true ∨
      Command.read ledger (recordIfAbsentSql table) = .other := by
  have htrim := trim_around table "INSERT IGNORE INTO " " (migration, batch) VALUES (?, ?)" rfl
    rfl (by decide) (by decide)
  have hread := read_of_word ledger true true false false htrim (by decide) (fun _ => rfl)
    (fun _ => rfl) (fun _ => rfl) fun _ => rfl
  unfold recordIfAbsentSql
  rw [hread]
  split
  · exact .inl rfl
  · right
    refine (if_neg fun hboth => Bool.false_ne_true hboth.1).trans ?_
    exact if_neg Bool.false_ne_true

theorem read_createLedgerSql (ledger table : String) :
    ∃ columns, Command.read ledger (createLedgerSql table) =
      .change (.ok (.create true table.toList columns)) := by
  have hassoc : ∀ a b c d e : String, a ++ b ++ c ++ d ++ e = a ++ b ++ (c ++ d ++ e) := by
    intro a b c d e
    simp only [String.append_assoc]
  have hlast : ∀ c d : String,
      (c ++ d ++ " `applied_at` timestamp NOT NULL DEFAULT CURRENT_TIMESTAMP )").toList.getLast? =
        some ')' := by
    intro c d
    rw [String.toList_append, List.getLast?_append]
    rfl
  unfold createLedgerSql
  rw [hassoc]
  have htail := hlast " ( `id` int UNSIGNED NOT NULL PRIMARY KEY AUTO_INCREMENT,"
    " `migration` varchar(255) NOT NULL UNIQUE, `batch` int NOT NULL,"
  have htrim := trim_around table "CREATE TABLE IF NOT EXISTS " _ rfl htail (by decide)
    (by decide)
  -- A blank follows the name, so the name is read to its end.
  have hfirst : ∀ c d : String,
      (" ( `id` int UNSIGNED NOT NULL PRIMARY KEY AUTO_INCREMENT," ++ c ++ d).toList.head? ≠
        some '\x60' := by
    intro c d
    rw [String.toList_append, String.toList_append, List.head?_append, List.head?_append]
    exact fun hquote => absurd (Option.some.inj hquote) (by decide)
  have hnext := hfirst " `migration` varchar(255) NOT NULL UNIQUE, `batch` int NOT NULL,"
    " `applied_at` timestamp NOT NULL DEFAULT CURRENT_TIMESTAMP )"
  rw [read_of_schemaWord ledger htrim (by decide) (fun _ => ⟨rfl, rfl, rfl⟩) fun _ => rfl]
  generalize (" ( `id` int UNSIGNED NOT NULL PRIMARY KEY AUTO_INCREMENT," ++
    " `migration` varchar(255) NOT NULL UNIQUE, `batch` int NOT NULL," ++
    " `applied_at` timestamp NOT NULL DEFAULT CURRENT_TIMESTAMP )").toList = tail at hnext ⊢
  have hcreate : SchemaChange.read
      ("CREATE TABLE IF NOT EXISTS ".toList ++ (ident table.toList ++ tail)) =
      SchemaChange.readCreate ("CREATE TABLE IF NOT EXISTS ".toList ++ (ident table.toList ++ tail))
        true (' ' :: (ident table.toList ++ tail)) := rfl
  refine ⟨SchemaChange.columnsOf tail, ?_⟩
  rw [hcreate, SchemaChange.readCreate, readIdent?_blank, readIdent?_ident_append _ _ hnext]

/-! ## Reading rows -/

/-- The entry that is read from a row of the ledger. -/
def entryOf (r : LedgerRow) : LedgerEntry := ⟨r.id, r.migration, r.batch, some r.appliedAt⟩

theorem ofRow_row (r : LedgerRow) :
    LedgerEntry.ofRow (Memory.LedgerRow.row r) = .ok (entryOf r) := by
  have hid : (Memory.LedgerRow.row r).int? "id" = some r.id := by
    simp +decide [Memory.LedgerRow.row, Row.int?, Row.get?_ofFields_cons, Value.asInt]
  have hmigration : (Memory.LedgerRow.row r).text? "migration" = some r.migration := by
    simp +decide [Memory.LedgerRow.row, Row.text?, Row.get?_ofFields_cons, Value.asText]
  have hbatch : (Memory.LedgerRow.row r).int? "batch" = some r.batch := by
    simp +decide [Memory.LedgerRow.row, Row.int?, Row.get?_ofFields_cons, Value.asInt]
  have htime : (Memory.LedgerRow.row r).timestamp? "applied_at" = some r.appliedAt := by
    simp +decide [Memory.LedgerRow.row, Row.timestamp?, Row.get?_ofFields_cons, Value.asTimestamp]
  rw [LedgerEntry.ofRow, hmigration, hid, hbatch, htime]
  rfl

theorem mapM_ofRow (rows : List LedgerRow) :
    (rows.map Memory.LedgerRow.row).mapM LedgerEntry.ofRow = .ok (rows.map entryOf) := by
  induction rows with
  | nil => rfl
  | cons r rows ih =>
    rw [List.map_cons, List.mapM_cons, ofRow_row]
    show (List.mapM LedgerEntry.ofRow _ >>= _) = _
    rw [ih]
    rfl

theorem begins_ledgerEntriesSql (table : String) :
    Catalog.Begins "SELECT id" (ledgerEntriesSql table) := by
  unfold ledgerEntriesSql
  apply Catalog.Begins.append
  apply Catalog.Begins.append
  exact Catalog.begins_append _ ", migration, batch, applied_at FROM "

/-- The query for the rows is none of the others, so it is answered from the ledger or not at
all. -/
theorem answer_ledgerEntriesSql {db : Memory} (h : db.canned = ∅) (table : String) :
    db.answer (ledgerEntriesSql table) [] =
      if db.readsLedger (ledgerEntriesSql table) then
        db.withLedger (.ok (db.ledger.map Memory.LedgerRow.row), db)
      else (.error (.query ("MemoryExecutor has no answer for: " ++ ledgerEntriesSql table)), db) := by
  have hbegins := begins_ledgerEntriesSql table
  have hshow := Catalog.after?_of_begins hbegins (by decide) (by decide)
  rw [Memory.answer, h, NameMap.get?_empty]
  simp only [hshow.1, hshow.2]
  rw [if_neg (hbegins.ne Catalog.begins_hasTableSql (by decide)),
    if_neg (hbegins.ne Catalog.begins_hasColumnSql (by decide)),
    if_neg (hbegins.ne Catalog.begins_listTablesSql (by decide)),
    if_neg (hbegins.ne Catalog.begins_foreignKeysSql (by decide)),
    if_neg (hbegins.ne Catalog.begins_optionsSql (by decide)),
    if_neg (hbegins.ne Catalog.begins_acquireLockSql (by decide)),
    if_neg (hbegins.ne Catalog.begins_releaseLockSql (by decide))]

theorem readsLedger_of_quotedAsIs {db : Memory} (h : QuotedAsIs db.ledgerTable) :
    db.readsLedger (ledgerEntriesSql db.ledgerTable) = true := by
  have hselect : ∀ rest : List Char, startsWithWords "SELECT".toList
      (trimStart ("SELECT id, migration, batch, applied_at FROM ".toList ++ rest)) = true :=
    fun _ => rfl
  have hfrom := occursIn_quoted h "SELECT id, migration, batch, applied_at ".toList
    "FROM ".toList " ORDER BY id".toList
  have hword : "FROM \x60".toList ++ db.ledgerTable.toList ++ ['\x60'] =
      "FROM ".toList ++ ('\x60' :: db.ledgerTable.toList ++ ['\x60']) := rfl
  unfold ledgerEntriesSql
  rw [Memory.readsLedger, String.toList_append, String.toList_append, toList_quoteIdent,
    List.append_assoc, hselect, Bool.true_and, hword]
  exact hfrom

/-- All rows are read or none, and the database stays as it is. -/
theorem run_entries {db : Memory} (h : db.canned = ∅) (table : String) :
    (Ledger.entries table).run db =
      (if db.isBoundToFail (ledgerEntriesSql table) then
        .error (Memory.injected (ledgerEntriesSql table))
      else if db.readsLedger (ledgerEntriesSql table) then
        if db.tables.contains db.ledgerTable then .ok (db.ledger.map entryOf)
        else .error (Memory.missingTable db.ledgerTable)
      else .error (.query ("MemoryExecutor has no answer for: " ++ ledgerEntriesSql table)), db) := by
  rw [Ledger.entries, Action.run_bind, Memory.run_query, Memory.query]
  by_cases hbound : db.isBoundToFail (ledgerEntriesSql table) = true
  · rw [if_pos hbound, if_pos hbound]
  rw [if_neg hbound, if_neg hbound, answer_ledgerEntriesSql h]
  by_cases hreads : db.readsLedger (ledgerEntriesSql table) = true
  · rw [if_pos hreads, if_pos hreads, Memory.withLedger]
    by_cases htable : db.tables.contains db.ledgerTable = true
    · rw [if_pos htable, if_pos htable]
      dsimp only
      rw [mapM_ofRow]
      rfl
    · rw [if_neg htable, if_neg htable]
  · rw [if_neg hreads, if_neg hreads]

theorem entries_eq_ok {db db' : Memory} {table : String} {entries : List LedgerEntry}
    (hcanned : db.canned = ∅) (h : (Ledger.entries table).run db = (.ok entries, db')) :
    entries = db.ledger.map entryOf ∧ db' = db ∧
      db.isBoundToFail (ledgerEntriesSql table) = false ∧
      db.readsLedger (ledgerEntriesSql table) = true ∧
      db.tables.contains db.ledgerTable = true := by
  rw [run_entries hcanned] at h
  obtain ⟨hread, rfl⟩ := Prod.mk.inj h
  split at hread
  · cases hread
  rename_i hbound
  split at hread
  · rename_i hreads
    split at hread
    · rename_i hthere
      exact ⟨(Except.ok.inj hread).symm, rfl, Bool.eq_false_iff.2 hbound, hreads, hthere⟩
    · cases hread
  · cases hread

theorem entries_cases {db : Memory} (h : db.canned = ∅) :
    (∃ e, (Ledger.entries db.ledgerTable).run db = (.error e, db)) ∨
      (Ledger.entries db.ledgerTable).run db = (.ok (db.ledger.map entryOf), db) ∧
        QuotedAsIs db.ledgerTable := by
  rw [run_entries h]
  split
  · exact .inl ⟨_, rfl⟩
  split
  · rename_i hreads
    split
    · exact .inr ⟨rfl, quotedAsIs_of_readsLedger hreads⟩
    · exact .inl ⟨_, rfl⟩
  · exact .inl ⟨_, rfl⟩

theorem le_lastBatch {entries : List LedgerEntry} {e : LedgerEntry} (he : e ∈ entries) :
    e.batch ≤ lastBatch entries := by
  -- By induction on the rest, for every start of the fold: the start is a bound as well.
  have hfold : ∀ (l : List LedgerEntry) (b : Int), b ≤ l.foldl (fun b e => max b e.batch) b ∧
      ∀ e ∈ l, e.batch ≤ l.foldl (fun b e => max b e.batch) b := by
    intro l
    induction l with
    | nil => exact fun b => ⟨Int.le_refl b, fun e he => absurd he List.not_mem_nil⟩
    | cons a l ih =>
      intro b
      obtain ⟨hstart, hall⟩ := ih (max b a.batch)
      refine ⟨Int.le_trans (Int.le_max_left b a.batch) hstart, fun e he => ?_⟩
      rcases List.mem_cons.1 he with rfl | he
      · exact Int.le_trans (Int.le_max_right b e.batch) hstart
      · exact hall e he
  cases entries with
  | nil => exact absurd he List.not_mem_nil
  | cons a rest =>
    rcases List.mem_cons.1 he with rfl | he
    · exact (hfold rest e.batch).1
    · exact (hfold rest a.batch).2 e he

/-- The greatest batch is one of the batches. -/
theorem exists_lastBatch {entries : List LedgerEntry} (h : entries ≠ []) :
    ∃ e ∈ entries, e.batch = lastBatch entries := by
  have hfold : ∀ (l : List LedgerEntry) (a : LedgerEntry),
      ∃ e ∈ a :: l, e.batch = l.foldl (fun b e => max b e.batch) a.batch := by
    intro l
    induction l with
    | nil => exact fun a => ⟨a, List.mem_singleton_self a, rfl⟩
    | cons x l ih =>
      intro a
      -- the fold goes on from the greater one of the first two
      rcases Int.le_total a.batch x.batch with hle | hle
      · obtain ⟨e, he, hbatch⟩ := ih x
        rw [List.foldl_cons, Int.max_eq_right hle]
        exact ⟨e, List.mem_cons_of_mem a he, hbatch⟩
      · obtain ⟨e, he, hbatch⟩ := ih a
        rw [List.foldl_cons, Int.max_eq_left hle]
        refine ⟨e, ?_, hbatch⟩
        rcases List.mem_cons.1 he with rfl | he
        · exact List.mem_cons_self
        · exact List.mem_cons_of_mem a (List.mem_cons_of_mem x he)
  cases entries with
  | nil => exact absurd rfl h
  | cons a rest => exact hfold rest a

end SchemaMigration.Migration
