import SchemaMigration.Generation.Generator
import SchemaMigration.Proofs.ReducedDescriptions

/-
  Names of structs.

  The name of a struct is made of the words of a reduced description, each with a capital. So
  it starts with a capital, goes on with letters and digits, and is an identifier. Words of
  letters alone are cut apart again at the capitals, so a name without digits comes from one
  reduced description only: of the keywords and of the names that a scaffold imports, each is
  the struct of exactly one.

  Main statements: `structName_eq_iff` and `scaffold_usable_iff`.
-/
namespace SchemaMigration.Generation

open Text Source Migration
open Generator

/-! ## Words with capitals -/

/-- Texts of at least one lower-case letter. -/
def AreLetters (ws : List (List Char)) : Prop := ∀ w ∈ ws, w ≠ [] ∧ ∀ c ∈ w, c.isLower = true

instance (ws : List (List Char)) : Decidable (AreLetters ws) :=
  decidable_of_iff ((ws.all fun w => !w.isEmpty && w.all Char.isLower) = true)
    (by simp [AreLetters])

theorem AreLetters.areWords {ws : List (List Char)} (h : AreLetters ws) : AreWords ws := by
  intro w hw
  refine ⟨(h w hw).1, fun c hc => ?_⟩
  rw [isSmall, (h w hw).2 c hc, Bool.true_or]

/-- In front of the first capital stands nothing. -/
theorem takeWhile_capitalized {ws : List (List Char)} (h : AreLetters ws) :
    (ws.flatMap capitalized).takeWhile Char.isLower = [] := by
  cases ws with
  | nil => rfl
  | cons w ws =>
    obtain ⟨c, w, rfl⟩ := List.exists_cons_of_ne_nil (h w List.mem_cons_self).1
    simp [capitalized]

/-- Capitals tell words of letters apart. -/
theorem eq_of_flatMap_capitalized {ws vs : List (List Char)} (hws : AreLetters ws)
    (hvs : AreLetters vs) (h : ws.flatMap capitalized = vs.flatMap capitalized) : ws = vs := by
  induction ws generalizing vs with
  | nil =>
    cases vs with
    | nil => rfl
    | cons v vs =>
      obtain ⟨d, v, rfl⟩ := List.exists_cons_of_ne_nil (hvs v List.mem_cons_self).1
      cases h
  | cons w ws ih =>
    obtain ⟨hw, hws'⟩ : _ ∧ AreLetters ws := List.forall_mem_cons.1 hws
    obtain ⟨c, w, rfl⟩ := List.exists_cons_of_ne_nil hw.1
    cases vs with
    | nil => cases h
    | cons v vs =>
      obtain ⟨hv, hvs'⟩ : _ ∧ AreLetters vs := List.forall_mem_cons.1 hvs
      obtain ⟨d, v, rfl⟩ := List.exists_cons_of_ne_nil hv.1
      obtain ⟨hc, hw⟩ := List.forall_mem_cons.1 hw.2
      obtain ⟨hd, hv⟩ := List.forall_mem_cons.1 hv.2
      obtain ⟨hcapital, hrest⟩ : c.toUpper = d.toUpper ∧
        w ++ ws.flatMap capitalized = v ++ vs.flatMap capitalized := List.cons.inj h
      have hfirst : c = d := by
        have hlower := congrArg Char.toLower hcapital
        rwa [Char.toLower_toUpper_eq_toLower, Char.toLower_toUpper_eq_toLower,
          Char.toLower_eq_of_not_isUpper (Char.not_isUpper_of_isLower hc),
          Char.toLower_eq_of_not_isUpper (Char.not_isUpper_of_isLower hd)] at hlower
      -- The word goes on as far as there are small letters, for the next begins with a capital.
      have hword : w = v := by
        have htaken := congrArg (List.takeWhile Char.isLower) hrest
        rwa [List.takeWhile_append_of_pos hw, List.takeWhile_append_of_pos hv,
          takeWhile_capitalized hws', takeWhile_capitalized hvs', List.append_nil,
          List.append_nil] at htaken
      subst hfirst hword
      rw [ih hws' hvs' (List.append_cancel_left hrest)]

/-! ## The name of a struct -/

theorem pieces_of_words {ws : List (List Char)} (hne : ws ≠ []) (h : AreWords ws) :
    pieces (· == '_') (['_'].intercalate ws) = ws := by
  refine pieces_intercalate rfl hne fun w hw c hc => ?_
  have hsmall := (h w hw).2 c hc
  rw [beq_eq_false_iff_ne]
  rintro rfl
  exact absurd hsmall (by decide)

theorem not_isLower_of_isDigit {c : Char} (h : c.isDigit = true) : ¬c.isLower = true := by
  simp only [Char.isDigit, Char.isLower, Bool.and_eq_true, decide_eq_true_eq,
    UInt32.le_iff_toNat_le, ge_iff_le] at h ⊢
  have hbounds : 'a'.val.toNat = 97 ∧ '9'.val.toNat = 57 := ⟨rfl, rfl⟩
  omega

/-- To be put in front of a word, a letter becomes a capital and a digit stays. -/
theorem isUpper_or_isDigit_toUpper {c : Char} (h : isSmall c = true) :
    c.toUpper.isUpper = true ∨ c.isDigit = true ∧ c.toUpper = c := by
  rcases Bool.or_eq_true_iff.1 h with hlower | hdigit
  · refine .inl ?_
    rw [Char.isUpper_toUpper_eq_isAlpha, Char.isAlpha, hlower, Bool.or_true]
  · exact .inr ⟨hdigit, Char.toUpper_eq_of_not_isLower (not_isLower_of_isDigit hdigit)⟩

theorem isAlphanum_of_isUpper {c : Char} (h : c.isUpper = true) : c.isAlphanum = true := by
  rw [Char.isAlphanum, Char.isAlpha, h, Bool.true_or, Bool.true_or]

theorem isAlphanum_of_capitalized {ws : List (List Char)} (h : AreWords ws) :
    ∀ c ∈ ws.flatMap capitalized, c.isAlphanum = true := by
  intro c hc
  obtain ⟨w, hw, hc⟩ := List.mem_flatMap.1 hc
  obtain ⟨hne, hsmall⟩ := h w hw
  obtain ⟨d, w, rfl⟩ := List.exists_cons_of_ne_nil hne
  obtain ⟨hd, hw⟩ := List.forall_mem_cons.1 hsmall
  rcases List.mem_cons.1 hc with rfl | hc
  · rcases isUpper_or_isDigit_toUpper hd with hupper | ⟨-, hsame⟩
    · exact isAlphanum_of_isUpper hupper
    · rw [hsame]
      exact isAlphanum_of_isSmall hd
  · exact isAlphanum_of_isSmall (hw c hc)

/-- A digit of a word stays where the word gets a capital. -/
theorem mem_capitalized_of_isDigit {w : List Char} {c : Char} (h : c ∈ w)
    (hc : c.isDigit = true) : c ∈ capitalized w := by
  cases w with
  | nil => cases h
  | cons d w =>
    rcases List.mem_cons.1 h with rfl | h
    · have hsame := Char.toUpper_eq_of_not_isLower (not_isLower_of_isDigit hc)
      rw [capitalized, hsame]
      exact List.mem_cons_self
    · exact List.mem_cons_of_mem _ h

theorem areLetters_of_capitalized {ws : List (List Char)} (h : AreWords ws)
    (hdigits : ∀ c ∈ ws.flatMap capitalized, ¬c.isDigit = true) : AreLetters ws := by
  intro w hw
  refine ⟨(h w hw).1, fun c hc => ?_⟩
  rcases Bool.or_eq_true_iff.1 ((h w hw).2 c hc) with hlower | hdigit
  · exact hlower
  · exact absurd hdigit (hdigits c
      (List.mem_flatMap.2 ⟨w, hw, mem_capitalized_of_isDigit hc hdigit⟩))

theorem not_isDigit_of_capitalized {ws : List (List Char)} (h : AreLetters ws) :
    ∀ c ∈ ws.flatMap capitalized, ¬c.isDigit = true := by
  intro c hc hdigit
  obtain ⟨w, hw, hc⟩ := List.mem_flatMap.1 hc
  obtain ⟨hne, hlower⟩ := h w hw
  obtain ⟨d, w, rfl⟩ := List.exists_cons_of_ne_nil hne
  rcases List.mem_cons.1 hc with rfl | hc
  · refine not_isUpper_of_isDigit hdigit ?_
    rw [Char.isUpper_toUpper_eq_isAlpha, Char.isAlpha, hlower d List.mem_cons_self, Bool.or_true]
  · exact not_isLower_of_isDigit hdigit (hlower c (List.mem_cons_of_mem d hc))

/-- An `M` in front of a digit. -/
def guarded : List Char → List Char
  | [] => []
  | c :: cs => if c.isDigit then 'M' :: c :: cs else c :: cs

theorem structName_of_words {name : String} {ws : List (List Char)} (hne : ws ≠ [])
    (h : AreWords ws) (hname : name.toList = ['_'].intercalate ws) :
    structName name = String.ofList (guarded (ws.flatMap capitalized)) := by
  rw [structName, hname, pieces_of_words hne h]
  cases ws.flatMap capitalized with
  | nil => rfl
  | cons c cs => rfl

/-- The name of a struct starts with a capital and goes on with letters and digits. -/
theorem toList_structName {name : String} (h : IsReduced name) :
    ∃ c cs, (structName name).toList = c :: cs ∧ c.isUpper = true ∧
      ∀ d ∈ cs, d.isAlphanum = true := by
  obtain ⟨ws, hne, hwords, hname⟩ := h
  have halphanum := isAlphanum_of_capitalized hwords
  rw [structName_of_words hne hwords hname, String.toList_ofList]
  obtain ⟨w, ws, rfl⟩ := List.exists_cons_of_ne_nil hne
  obtain ⟨hw, hsmall⟩ := hwords w List.mem_cons_self
  obtain ⟨c, w, rfl⟩ := List.exists_cons_of_ne_nil hw
  rw [List.flatMap_cons, capitalized, List.cons_append] at halphanum ⊢
  rw [guarded]
  by_cases hdigit : c.toUpper.isDigit = true
  · rw [if_pos hdigit]
    exact ⟨'M', _, rfl, rfl, halphanum⟩
  · rw [if_neg hdigit]
    refine ⟨c.toUpper, _, rfl, ?_, (List.forall_mem_cons.1 halphanum).2⟩
    rcases isUpper_or_isDigit_toUpper (hsmall c List.mem_cons_self) with hupper | ⟨hc, hsame⟩
    · exact hupper
    · rw [hsame] at hdigit
      exact absurd hc hdigit

/-- Whether a text is an identifier of ASCII characters: a letter or an underscore, then letters,
digits and underscores, and not an underscore alone. -/
def isIdentifier (text : String) : Bool :=
  match text.toList with
  | [] => false
  | c :: cs => (c.isAlpha || c == '_' && cs ≠ []) && cs.all isNameChar

theorem isIdentifier_structName {name : String} (h : IsReduced name) :
    isIdentifier (structName name) = true := by
  obtain ⟨c, cs, htext, hc, hcs⟩ := toList_structName h
  have hrest : cs.all isNameChar = true := by
    refine List.all_eq_true.2 fun d hd => ?_
    rw [isNameChar, hcs d hd, Bool.true_or]
  rw [isIdentifier, htext]
  dsimp only
  rw [hrest, Char.isAlpha, hc, Bool.true_or, Bool.true_or, Bool.and_true]

/-- A name without digits is the struct of one reduced description. -/
theorem structName_eq_iff {name struct description : String} (h : IsReduced name)
    {vs : List (List Char)} (hne : vs ≠ []) (hvs : AreLetters vs)
    (hstruct : struct.toList = vs.flatMap capitalized)
    (hdescription : description.toList = ['_'].intercalate vs) :
    structName name = struct ↔ name = description := by
  have hletters := not_isDigit_of_capitalized hvs
  constructor
  · intro heq
    obtain ⟨ws, hne', hws, hname⟩ := h
    have htext : guarded (ws.flatMap capitalized) = vs.flatMap capitalized := by
      rw [← hstruct, ← heq, structName_of_words hne' hws hname, String.toList_ofList]
    rw [← htext] at hletters
    -- no `M` was put in front, as there is no digit behind it
    have hplain : guarded (ws.flatMap capitalized) = ws.flatMap capitalized := by
      cases hcapitals : ws.flatMap capitalized with
      | nil => rfl
      | cons c cs =>
        rw [hcapitals, guarded] at hletters
        by_cases hdigit : c.isDigit = true
        · rw [if_pos hdigit] at hletters
          exact absurd hdigit (hletters c (by simp))
        · exact if_neg hdigit
    rw [hplain] at htext hletters
    obtain rfl := eq_of_flatMap_capitalized (areLetters_of_capitalized hws hletters) hvs htext
    exact String.toList_injective (hname.trans hdescription.symm)
  · rintro rfl
    apply String.toList_injective
    rw [structName_of_words hne hvs.areWords hdescription, String.toList_ofList, hstruct]
    cases hcapitals : vs.flatMap capitalized with
    | nil => rfl
    | cons c cs =>
      rw [hcapitals] at hletters
      exact if_neg (hletters c List.mem_cons_self)

/-! ## Names that are taken -/

/-- The keywords, those reserved for later included. -/
def keywords : List String :=
  ["abstract", "as", "async", "await", "become", "box", "break", "const", "continue", "crate",
    "do", "dyn", "else", "enum", "extern", "false", "final", "fn", "for", "gen", "if", "impl", "in",
    "let", "loop", "macro", "match", "mod", "move", "mut", "override", "priv", "pub", "ref",
    "return", "self", "Self", "static", "struct", "super", "trait", "true", "try", "type",
    "typeof", "unsafe", "unsized", "use", "virtual", "where", "while", "yield"]

/-- The names that an artifact imports. -/
def importedNames (a : Artifact) : List String := "Migration" :: a.schemaImports ++ ["StrataError"]

/-- The struct of an artifact can be declared in it. -/
structure Usable (a : Artifact) : Prop where
  identifier : isIdentifier a.structName = true
  free : a.structName ∉ keywords
  distinct : a.structName ∉ importedNames a

/-- The one keyword that is the struct of a description. -/
theorem mem_keywords_iff {name : String} (h : IsReduced name) :
    structName name ∈ keywords ↔ name = "self" := by
  have hself : structName name = "Self" ↔ name = "self" :=
    structName_eq_iff h (List.cons_ne_nil "self".toList []) (by decide) (by decide) (by decide)
  rw [← hself]
  constructor
  · intro hmem
    by_contra hne
    have hsmall : ∀ k ∈ keywords, k ≠ "Self" → k.toList.head?.any Char.isUpper = false := by decide
    obtain ⟨c, cs, htext, hc, -⟩ := toList_structName h
    have hhead := hsmall _ hmem hne
    rw [htext] at hhead
    exact Bool.false_ne_true (hhead.symm.trans hc)
  · intro heq
    rw [heq]
    decide

theorem importedNames_scaffold (name : String) (target : Option String) :
    importedNames (scaffold name target) = ["Migration", "SchemaGateway", "StrataError"] := by
  cases target <;> rfl

/-- Each name that a scaffold imports is the struct of one description. -/
theorem mem_importedNames_iff {name : String} (h : IsReduced name) (target : Option String) :
    structName name ∈ importedNames (scaffold name target) ↔
      name = "migration" ∨ name = "schema_gateway" ∨ name = "strata_error" := by
  have hmigration : structName name = "Migration" ↔ name = "migration" :=
    structName_eq_iff h (List.cons_ne_nil "migration".toList []) (by decide) (by decide) (by decide)
  have hgateway : structName name = "SchemaGateway" ↔ name = "schema_gateway" :=
    structName_eq_iff h (List.cons_ne_nil "schema".toList ["gateway".toList]) (by decide) (by decide)
      (by decide)
  have herror : structName name = "StrataError" ↔ name = "strata_error" :=
    structName_eq_iff h (List.cons_ne_nil "strata".toList ["error".toList]) (by decide) (by decide)
      (by decide)
  rw [importedNames_scaffold, ← hmigration, ← hgateway, ← herror]
  simp

/-- A description that is accepted makes a scaffold, for a table or not, whose struct has an
identifier for its name, and can be declared unless the description is one of four. -/
theorem scaffold_usable_iff {description name : String} (h : normalized description = .ok name)
    (target : Option String) :
    (∀ (σ : Type) (g : Generator) (now : Int), (g.create now description target : Work σ _) =
        g.write now name (scaffold name target)) ∧
      isIdentifier (scaffold name target).structName = true ∧
      (Usable (scaffold name target) ↔
        name ∉ ["self", "migration", "schema_gateway", "strata_error"]) := by
  have hreduced := isReduced_of_normalized h
  have hstruct : (scaffold name target).structName = structName name := by cases target <;> rfl
  have hidentifier := isIdentifier_structName hreduced
  refine ⟨fun σ g now => ?_, hstruct ▸ hidentifier, ?_⟩
  · rw [Generator.create, h]
  -- One of the four is a keyword, and the others are imported.
  · have hkeyword := mem_keywords_iff hreduced
    have himported := mem_importedNames_iff hreduced target
    simp only [List.mem_cons, List.not_mem_nil, or_false, not_or]
    constructor
    · intro husable
      have hfree := husable.free
      have hdistinct := husable.distinct
      rw [hstruct, hkeyword] at hfree
      rw [hstruct, himported, not_or, not_or] at hdistinct
      exact ⟨hfree, hdistinct⟩
    · rintro ⟨hfree, hdistinct⟩
      refine ⟨hstruct ▸ hidentifier, ?_, ?_⟩
      · rwa [hstruct, hkeyword]
      · rwa [hstruct, himported, not_or, not_or]

theorem scaffold_usable_codes :
    normalized "2FA codes" = .ok "2fa_codes" ∧ (scaffold "2fa_codes" none).structName = "M2faCodes" ∧
      Usable (scaffold "2fa_codes" none) := by
  have hnormalized : normalized "2FA codes" = .ok "2fa_codes" := by decide +kernel
  obtain ⟨-, -, husable⟩ := scaffold_usable_iff hnormalized none
  exact ⟨hnormalized, by decide +kernel, husable.2 (by decide)⟩

/-- Two descriptions that are accepted make structs that cannot be declared: one is called by a
keyword, the other like the trait that it implements. -/
theorem unusable_structs :
    normalized "Self" = .ok "self" ∧ (scaffold "self" none).structName = "Self" ∧
      "Self" ∈ keywords ∧ normalized "migration" = .ok "migration" ∧
      (scaffold "migration" (some "users")).structName = "Migration" ∧
      "Migration" ∈ importedNames (scaffold "migration" (some "users")) ∧
      ¬Usable (scaffold "self" none) ∧ ¬Usable (scaffold "migration" (some "users")) := by
  have hself : (scaffold "self" none).structName = "Self" := by decide +kernel
  have hmigration : (scaffold "migration" (some "users")).structName = "Migration" := by
    decide +kernel
  have hkeyword : "Self" ∈ keywords := by decide
  have himported : "Migration" ∈ importedNames (scaffold "migration" (some "users")) :=
    List.mem_cons_self
  refine ⟨by decide +kernel, hself, hkeyword, by decide +kernel, hmigration, himported,
    fun husable => ?_, fun husable => ?_⟩
  · have hfree := husable.free
    rw [hself] at hfree
    exact hfree hkeyword
  · have hdistinct := husable.distinct
    rw [hmigration] at hdistinct
    exact hdistinct himported

end SchemaMigration.Generation
