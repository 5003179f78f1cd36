import SchemaMigration.Database.Address

/-
  The parts of database addresses.

  An address is a scheme, perhaps something about the user, a host, a path that names the
  database, and perhaps a query. It is checked by cuts: behind the scheme, at the last `@` of
  everything that follows, and at the first slash behind that. An `@` in front of the host does
  no harm, wherever it stands; one in the query moves the cut into the query, and then the rest
  of the query is taken for the host and the path.

  Main statements: `checkAddress_cases` and `address_accepted_iff`.
-/
namespace SchemaMigration.Database

open Text

/-! ## What is checked -/

/-- What follows the part about the user, which ends at the last `@`. -/
def behindUser (cs : List Char) : List Char := ((cutAtLast (· == '@') cs).map Prod.snd).getD cs

/-- A host and a path that names a database, perhaps with a query. -/
def NamesDatabase (cs : List Char) : Prop :=
  ∃ host first rest, '/' ∉ host ∧ first ≠ '?' ∧ cs = host ++ '/' :: first :: rest

theorem behindUser_of_not_mem {cs : List Char} (h : '@' ∉ cs) : behindUser cs = cs := by
  rw [behindUser, cutAtLast_eq_none (beq_eq_false_of_not_mem h)]
  rfl

theorem behindUser_append (front : List Char) {cs : List Char} (h : '@' ∉ cs) :
    behindUser (front ++ '@' :: cs) = cs := by
  rw [behindUser, cutAtLast_beq_append front h]
  rfl

theorem namesDatabase_iff {cs : List Char} :
    NamesDatabase cs ↔
      ∃ host first rest, cutAt (· == '/') cs = some (host, first :: rest) ∧ first ≠ '?' := by
  constructor
  · rintro ⟨host, first, rest, hhost, hfirst, rfl⟩
    exact ⟨host, first, rest, cutAt_beq_append hhost _, hfirst⟩
  · rintro ⟨host, first, rest, hcut, hfirst⟩
    obtain ⟨hhost, slash, hslash, heq⟩ := eq_append_of_cutAt hcut
    obtain rfl := eq_of_beq hslash
    exact ⟨host, first, rest, fun hmem => absurd (hhost '/' hmem) (by decide), hfirst, heq⟩

/-- Only what follows the user counts. -/
theorem databaseName?_eq_nil_iff {cs : List Char} :
    (databaseName? cs).getD [] = [] ↔ ¬NamesDatabase (behindUser cs) := by
  show ((cutAt (· == '/') (behindUser cs)).map fun hostPath =>
    hostPath.2.takeWhile (· ≠ '?')).getD [] = [] ↔ _
  rw [namesDatabase_iff]
  cases cutAt (· == '/') (behindUser cs) with
  | none => simp
  | some hostPath =>
    obtain ⟨host, path⟩ := hostPath
    cases path with
    | nil => simp
    | cons first rest => by_cases hfirst : first = '?' <;> simp [hfirst]

/-! ## Schemes -/

/-- A word with a colon behind it stands in front of an address only if it is the scheme. -/
theorem after?_scheme (word : String) {scheme : String} (hword : ':' ∉ word.toList)
    (hscheme : ':' ∉ scheme.toList) (rest : List Char) :
    after? (word.toList ++ "://".toList) (scheme.toList ++ ("://".toList ++ rest)) =
      if scheme = word then some rest else none := by
  by_cases h : scheme = word
  · subst h
    have hlong : (scheme.toList ++ "://".toList).isPrefixOf
        (scheme.toList ++ ("://".toList ++ rest)) = true := by
      rw [List.isPrefixOf_iff_prefix, ← List.append_assoc]
      exact List.prefix_append _ _
    rw [after?, if_pos hlong, if_pos rfl, ← List.append_assoc, List.drop_left]
  · have hshort : (word.toList ++ "://".toList).isPrefixOf
        (scheme.toList ++ ("://".toList ++ rest)) = false := by
      -- the first colon ends the word and the scheme alike
      refine Bool.eq_false_iff.2 fun hlong => h (String.toList_injective ?_)
      obtain ⟨more, hmore⟩ := List.isPrefixOf_iff_prefix.1 hlong
      have hcut := congrArg (cutAt (· == ':')) hmore
      rw [List.append_assoc] at hcut
      have hleft := cutAt_beq_append hword ("//".toList ++ more)
      have hright := cutAt_beq_append hscheme ("//".toList ++ rest)
      exact (congrArg Prod.fst (Option.some.inj (hleft.symm.trans (hcut.trans hright)))).symm
    rw [after?, hshort, if_neg Bool.false_ne_true, if_neg h]

/-- The schemes of databases. -/
def schemes : List String := ["mysql", "mariadb"]

theorem afterScheme?_append {scheme : String} (h : ':' ∉ scheme.toList) (rest : List Char) :
    afterScheme? (scheme.toList ++ ("://".toList ++ rest)) =
      if scheme ∈ schemes then some rest else none := by
  have hmysql := after?_scheme "mysql" (by decide) h rest
  have hmariadb := after?_scheme "mariadb" (by decide) h rest
  rw [afterScheme?]
  show (after? ("mysql".toList ++ "://".toList) _).or
    (after? ("mariadb".toList ++ "://".toList) _) = _
  rw [hmysql, hmariadb]
  by_cases hfirst : scheme = "mysql" <;> by_cases hsecond : scheme = "mariadb" <;>
    simp [schemes, hfirst, hsecond]

/-- An address is refused for its scheme, or else for what follows the user. -/
theorem checkAddress_cases {scheme : String} (h : ':' ∉ scheme.toList) (rest : String) :
    (scheme ∉ schemes ∧ checkAddress (scheme ++ "://" ++ rest) = .error .scheme) ∨
    (scheme ∈ schemes ∧ ¬NamesDatabase (behindUser rest.toList) ∧
      checkAddress (scheme ++ "://" ++ rest) = .error .noDatabase) ∨
    (scheme ∈ schemes ∧ NamesDatabase (behindUser rest.toList) ∧
      checkAddress (scheme ++ "://" ++ rest) = .ok ()) := by
  have hne : scheme ++ "://" ++ rest ≠ "" := by
    intro hempty
    have hlist := congrArg String.toList hempty
    simp at hlist
  have hlist : (scheme ++ "://" ++ rest).toList = scheme.toList ++ ("://".toList ++ rest.toList) := by
    simp
  -- The scheme ends at the first colon, so what is read behind it is the rest.
  have hafter := afterScheme?_append h rest.toList
  rw [← hlist] at hafter
  by_cases hscheme : scheme ∈ schemes
  · rw [if_pos hscheme] at hafter
    by_cases hnames : NamesDatabase (behindUser rest.toList)
    · have hsome : (databaseName? rest.toList).getD [] ≠ [] :=
        fun hnil => databaseName?_eq_nil_iff.1 hnil hnames
      exact .inr (.inr ⟨hscheme, hnames, by simp only [checkAddress, hne, hafter, hsome,
        List.isEmpty_iff, if_false]⟩)
    · have hnone := databaseName?_eq_nil_iff.2 hnames
      exact .inr (.inl ⟨hscheme, hnames, by simp only [checkAddress, hne, hafter, hnone,
        List.isEmpty_nil, if_true, if_false]⟩)
  · rw [if_neg hscheme] at hafter
    exact .inl ⟨hscheme, by simp only [checkAddress, hne, hafter, if_false]⟩

/-- The check sees the scheme and what follows the user, and nothing else. -/
theorem checkAddress_congr {scheme rest rest' : String} (h : ':' ∉ scheme.toList)
    (hbehind : behindUser rest.toList = behindUser rest'.toList) :
    checkAddress (scheme ++ "://" ++ rest) = checkAddress (scheme ++ "://" ++ rest') := by
  have hfirst := checkAddress_cases h rest
  have hsecond := checkAddress_cases h rest'
  rw [hbehind] at hfirst
  rcases hfirst with ⟨hscheme, hcheck⟩ | ⟨hscheme, hnames, hcheck⟩ | ⟨hscheme, hnames, hcheck⟩ <;>
    simp_all

theorem not_mem_of_mem_schemes {scheme : String} (h : scheme ∈ schemes) : ':' ∉ scheme.toList := by
  have hall : ∀ scheme ∈ schemes, ':' ∉ scheme.toList := by decide
  exact hall scheme h

theorem checkAddress_eq_ok_iff {scheme : String} (h : scheme ∈ schemes) (rest : String) :
    checkAddress (scheme ++ "://" ++ rest) = .ok () ↔ NamesDatabase (behindUser rest.toList) := by
  rcases checkAddress_cases (not_mem_of_mem_schemes h) rest with
    ⟨hscheme, -⟩ | ⟨-, hnames, hcheck⟩ | ⟨-, hnames, hcheck⟩
  · exact absurd h hscheme
  · simp [hnames, hcheck]
  · simp [hnames, hcheck]

theorem checkAddress_eq_noDatabase_iff {scheme : String} (h : scheme ∈ schemes) (rest : String) :
    checkAddress (scheme ++ "://" ++ rest) = .error .noDatabase ↔
      ¬NamesDatabase (behindUser rest.toList) := by
  rcases checkAddress_cases (not_mem_of_mem_schemes h) rest with
    ⟨hscheme, -⟩ | ⟨-, hnames, hcheck⟩ | ⟨-, hnames, hcheck⟩
  · exact absurd h hscheme
  · simp [hnames, hcheck]
  · simp [hnames, hcheck]

/-! ## Whole addresses -/

/-- What follows the scheme of an address: perhaps a user, the host, perhaps a path and perhaps
a query. -/
def locationText (user : Option String) (host : String) (path query : Option String) : String :=
  (user.map (· ++ "@")).getD "" ++
    (host ++ (path.map ("/" ++ ·)).getD "" ++ (query.map ("?" ++ ·)).getD "")

/-- The text of an address. -/
def addressText (scheme : String) (user : Option String) (host : String)
    (path query : Option String) : String :=
  scheme ++ "://" ++ locationText user host path query

/-- A text without `@`, nor slash, nor question mark. -/
def IsPlainName (s : String) : Prop := ∀ c ∈ s.toList, c ≠ '/' ∧ c ≠ '@' ∧ c ≠ '?'

section
variable {host : String} {path query : Option String}

/-- A user in front of the host is left out, whatever it is, if there is no `@` behind it. -/
theorem behindUser_locationText (user : Option String) (hhost : IsPlainName host)
    (hpath : ∀ p ∈ path, IsPlainName p) (hquery : ∀ q ∈ query, '@' ∉ q.toList) :
    behindUser (locationText user host path query).toList =
      (host ++ (path.map ("/" ++ ·)).getD "" ++ (query.map ("?" ++ ·)).getD "").toList := by
  have hplain : '@' ∉
      (host ++ (path.map ("/" ++ ·)).getD "" ++ (query.map ("?" ++ ·)).getD "").toList := by
    have hname : '@' ∉ host.toList := fun hmem => (hhost '@' hmem).2.1 rfl
    have hpaths : '@' ∉ ((path.map ("/" ++ ·)).getD "").toList := by
      cases path with
      | none => simp
      | some p =>
        have hp : '@' ∉ p.toList := fun hmem => (hpath p rfl '@' hmem).2.1 rfl
        simpa using hp
    have hqueries : '@' ∉ ((query.map ("?" ++ ·)).getD "").toList := by
      cases query with
      | none => simp
      | some q => simpa using hquery q rfl
    simp [hname, hpaths, hqueries]
  rw [locationText]
  cases user with
  | none => simpa using behindUser_of_not_mem hplain
  | some u =>
    have hbehind := behindUser_append u.toList hplain
    simpa using hbehind

/-- An `@` in the query ends what counts as the user. -/
theorem behindUser_query (user : Option String) (host : String) (path : Option String)
    (front : String) {back : String} (h : '@' ∉ back.toList) :
    behindUser (locationText user host path (some (front ++ "@" ++ back))).toList = back.toList := by
  have hbehind := behindUser_append ((user.map (· ++ "@")).getD "" ++ host ++
    (path.map ("/" ++ ·)).getD "" ++ "?" ++ front).toList h
  simpa [locationText] using hbehind

theorem namesDatabase_of_path (hhost : IsPlainName host) {database : String}
    (hdatabase : IsPlainName database) (hne : database ≠ "") (rest : String) :
    NamesDatabase (host ++ ("/" ++ database) ++ rest).toList := by
  obtain ⟨first, more, hlist⟩ := List.exists_cons_of_ne_nil
    fun hnil => hne (String.toList_eq_nil_iff.1 hnil)
  have hfirst := (hdatabase first (hlist ▸ List.mem_cons_self)).2.2
  exact ⟨host.toList, first, more ++ rest.toList, fun hmem => (hhost '/' hmem).1 rfl, hfirst,
    by simp [hlist]⟩

/-- What stands in front of the first slash does not matter. -/
theorem namesDatabase_append_iff {front : List Char} (h : '/' ∉ front) (cs : List Char) :
    NamesDatabase (front ++ cs) ↔ NamesDatabase cs := by
  constructor
  · rintro ⟨host, first, rest, hhost, hfirst, heq⟩
    rcases List.append_eq_append_iff.1 heq with ⟨more, rfl, hcs⟩ | ⟨more, rfl, hslash⟩
    · exact ⟨more, first, rest, fun hmem => hhost (List.mem_append_right front hmem), hfirst, hcs⟩
    · cases more with
      | nil => exact ⟨[], first, rest, List.not_mem_nil, hfirst, hslash.symm⟩
      | cons c more =>
        obtain ⟨rfl, -⟩ := List.cons.inj hslash
        exact absurd (List.mem_append_right host List.mem_cons_self) h
  · rintro ⟨host, first, rest, hhost, hfirst, rfl⟩
    refine ⟨front ++ host, first, rest, fun hmem => ?_, hfirst, (List.append_assoc ..).symm⟩
    exact (List.mem_append.1 hmem).elim h hhost

/-- Behind the slash there is nothing, or the question mark of the query. -/
theorem not_namesDatabase_of_path (hhost : IsPlainName host) (query : Option String) :
    ¬NamesDatabase (host ++ ("/" ++ "") ++ (query.map ("?" ++ ·)).getD "").toList := by
  have hslash : '/' ∉ host.toList := fun hmem => (hhost '/' hmem).1 rfl
  have hcut := cutAt_beq_append hslash ((query.map ("?" ++ ·)).getD "").toList
  rw [namesDatabase_iff]
  rintro ⟨host', first, rest, hcut', hfirst⟩
  have heq := hcut.symm.trans (by simpa using hcut')
  cases query with
  | none => simp at heq
  | some q =>
    have hlist : (host.toList, '?' :: q.toList) = (host', first :: rest) := by simpa using heq
    exact hfirst (List.cons.inj (Prod.mk.inj hlist).2).1.symm

/-- Without a path, only a slash in the query can name a database. -/
theorem namesDatabase_pathless_iff (hhost : IsPlainName host) (query : Option String) :
    NamesDatabase (host ++ "" ++ (query.map ("?" ++ ·)).getD "").toList ↔
      ∃ q ∈ query, NamesDatabase q.toList := by
  have hslash : '/' ∉ host.toList := fun hmem => (hhost '/' hmem).1 rfl
  cases query with
  | none =>
    have hnone : ¬NamesDatabase host.toList := fun ⟨_, _, _, _, _, heq⟩ =>
      hslash (heq ▸ List.mem_append_right _ List.mem_cons_self)
    simpa using hnone
  | some q =>
    have hfront : '/' ∉ host.toList ++ ['?'] := by simpa using hslash
    simpa using namesDatabase_append_iff hfront q.toList

theorem exists_last_of_mem {q : String} (h : '@' ∈ q.toList) :
    ∃ front back : String, q = front ++ "@" ++ back ∧ '@' ∉ back.toList := by
  cases hcut : cutAt (· == '@') q.toList.reverse with
  | none =>
    have hall := cutAt_eq_none_iff.1 hcut '@' (List.mem_reverse.2 h)
    exact absurd hall (by decide)
  | some parts =>
    obtain ⟨hfirst, sign, hsign, heq⟩ := eq_append_of_cutAt hcut
    obtain rfl := eq_of_beq hsign
    refine ⟨String.ofList parts.2.reverse, String.ofList parts.1.reverse, ?_, fun hmem => ?_⟩
    · have hlist := congrArg List.reverse heq
      exact String.toList_injective (by simpa using hlist)
    · have hno := hfirst '@' (by simpa using hmem)
      exact absurd hno (by decide)

/-- An address that names a database is accepted, and refused with the name left out, exactly if
its query has no `@`; behind an `@` in the query, what the query goes on with decides, and the
database named in front of it does not count. With the path left out altogether, a slash in the
query is taken for one. -/
theorem address_accepted_iff {scheme : String} (hscheme : scheme ∈ schemes)
    (user : Option String) (hhost : IsPlainName host) {database : String}
    (hdatabase : IsPlainName database) (hne : database ≠ "") (query : Option String) :
    (checkAddress (addressText scheme user host (some database) query) = .ok () ∧
        checkAddress (addressText scheme user host (some "") query) = .error .noDatabase ↔
      ∀ q ∈ query, '@' ∉ q.toList) ∧
    (∀ front back, query = some (front ++ "@" ++ back) → '@' ∉ back.toList →
      (checkAddress (addressText scheme user host (some database) query) = .ok () ↔
        NamesDatabase back.toList) ∧
      (checkAddress (addressText scheme user host (some "") query) = .error .noDatabase ↔
        ¬NamesDatabase back.toList)) ∧
    ((∀ q ∈ query, '@' ∉ q.toList) →
      (checkAddress (addressText scheme user host none query) = .error .noDatabase ↔
        ∀ q ∈ query, ¬NamesDatabase q.toList)) := by
  -- The user is taken to end at the last `@`, wherever that stands.
  have hqueried : ∀ front back, query = some (front ++ "@" ++ back) → '@' ∉ back.toList →
      (checkAddress (addressText scheme user host (some database) query) = .ok () ↔
        NamesDatabase back.toList) ∧
      (checkAddress (addressText scheme user host (some "") query) = .error .noDatabase ↔
        ¬NamesDatabase back.toList) := by
    rintro front back rfl hback
    rw [addressText, addressText, checkAddress_eq_ok_iff hscheme,
      checkAddress_eq_noDatabase_iff hscheme, behindUser_query user host _ front hback,
      behindUser_query user host _ front hback]
    exact ⟨Iff.rfl, Iff.rfl⟩
  refine ⟨⟨fun hboth q hq hat => ?_, fun hplain => ⟨?_, ?_⟩⟩, hqueried, fun hplain => ?_⟩
  · obtain ⟨front, back, rfl, hback⟩ := exists_last_of_mem hat
    obtain ⟨hnamed, hnameless⟩ := hqueried front back hq hback
    exact hnameless.1 hboth.2 (hnamed.1 hboth.1)
  · rw [addressText, checkAddress_eq_ok_iff hscheme,
      behindUser_locationText user hhost (by simpa using hdatabase) hplain]
    exact namesDatabase_of_path hhost hdatabase hne _
  · rw [addressText, checkAddress_eq_noDatabase_iff hscheme,
      behindUser_locationText user hhost (by simp [IsPlainName]) hplain]
    exact not_namesDatabase_of_path hhost query
  · rw [addressText, checkAddress_eq_noDatabase_iff hscheme,
      behindUser_locationText user hhost (by simp) hplain]
    have hpathless := not_congr (namesDatabase_pathless_iff hhost query)
    simpa using hpathless

theorem address_accepted_iff_tag :
    ("mysql" ∈ schemes ∧ IsPlainName "localhost" ∧ IsPlainName "app" ∧ "app" ≠ "") ∧
    ¬(checkAddress "mysql://a@b/c@localhost/app?tag=a@b" = .ok () ∧
      checkAddress "mysql://a@b/c@localhost/?tag=a@b" = .error .noDatabase) ∧
    checkAddress "mysql://a@b/c@localhost/app?tag=a/b" = .ok () := by
  have hscheme : "mysql" ∈ schemes := by decide
  have hhost : IsPlainName "localhost" := by simp [IsPlainName]
  have hdatabase : IsPlainName "app" := by simp [IsPlainName]
  have hne : "app" ≠ "" := by decide
  have htag := address_accepted_iff hscheme (some "a@b/c") hhost hdatabase hne (some "tag=a@b")
  have hslash := address_accepted_iff hscheme (some "a@b/c") hhost hdatabase hne (some "tag=a/b")
  refine ⟨⟨hscheme, hhost, hdatabase, hne⟩, fun hboth => ?_, (hslash.1.2 ?_).1⟩
  · exact absurd (htag.1.1 hboth "tag=a@b" rfl) (by decide)
  · simp

/-- An address that names a database is refused, and one that names none is accepted. -/
theorem query_taken_for_host :
    checkAddress "mysql://localhost/app?tag=a@b" = .error .noDatabase ∧
      checkAddress "mysql://localhost/?tag=a@b/c" = .ok () :=
  ⟨rfl, rfl⟩

end

end SchemaMigration.Database
