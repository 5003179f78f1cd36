import SchemaMigration.Proofs.ConfinedTexts

/-
  The types that an artifact imports and those that its calls name.

  Which types are imported is decided by looking at the calls, and what the calls name shows
  only in what they are written as. Read as tokens, so that what a literal holds is no name,
  a written call names exactly the types of the arguments of its chain; and those are the
  types that looking at the call finds.

  Main statements: `pathTypes?_renderCall`, `mem_types_chain_iff` and `imports_follow_paths`.
-/
namespace SchemaMigration.Source

open Text Table

/-! ## Paths in source text -/

/-- The names in front of a path separator, in the order in which they stand. -/
def pathTypes : List Token → List String
  | [] => []
  | .word type :: .mark ':' :: .mark ':' :: ts => type :: pathTypes ts
  | _ :: ts => pathTypes ts

/-- The names in front of a path separator in a text, if it can be read. -/
def pathTypes? (s : String) : Option (List String) := (tokens? 0 s.toList).map pathTypes

/-- A text has a path that starts with the name of a type. -/
def HasPath (type s : String) : Prop := ∃ types, pathTypes? s = some types ∧ type ∈ types

theorem pathTypes_mark (c : Char) (ts : List Token) :
    pathTypes (.mark c :: ts) = pathTypes ts := by rw [pathTypes]; simp

theorem pathTypes_literal (s : String) (ts : List Token) :
    pathTypes (.literal s :: ts) = pathTypes ts := by rw [pathTypes]; simp

theorem pathTypes_number (n : Nat) (ts : List Token) :
    pathTypes (.number n :: ts) = pathTypes ts := by rw [pathTypes]; simp

/-- A word starts a path only where a colon follows. -/
theorem pathTypes_word (w : String) {ts : List Token} (h : ts.head? ≠ some (.mark ':')) :
    pathTypes (.word w :: ts) = pathTypes ts := by
  rw [pathTypes]
  rintro _ _ - rfl
  exact h rfl

/-! ## Paths in tokens of calls -/

/-- Tokens have paths that start with these types, whatever follows that does not go on with
a path. -/
def Names (as : List Token) (types : List String) : Prop :=
  ∀ rest, rest.head? ≠ some (.mark ':') → pathTypes (as ++ rest) = types ++ pathTypes rest

/-- The types of an argument. -/
def Argument.types : Argument → List String
  | member type _ => [type]
  | made type _ _ => [type]
  | _ => []

/-- The types of the arguments of a method call. -/
def MethodCall.types (m : MethodCall) : List String := m.args.flatMap Argument.types

/-- Commas between parts start no path. -/
theorem names_separated {α : Type} {toks : α → List Token} {types : α → List String} {l : List α}
    (h : ∀ a ∈ l, Names (toks a) (types a)) : Names (separated (l.map toks)) (l.flatMap types) := by
  induction l with
  | nil => exact fun _ _ => rfl
  | cons a l ih =>
    obtain ⟨ha, hl⟩ := List.forall_mem_cons.1 h
    cases l with
    | nil => simpa [separated] using ha
    | cons b l =>
      intro rest hrest
      have hsplit : separated ((a :: b :: l).map toks) ++ rest =
          toks a ++ .mark ',' :: (separated ((b :: l).map toks) ++ rest) := by
        simp [separated, List.intercalate_cons_cons]
      rw [hsplit, ha _ (by simp), pathTypes_mark, ih hl rest hrest]
      simp only [List.flatMap_cons, List.append_assoc]

theorem Argument.names (a : Argument) : Names a.tokens a.types := by
  intro rest hrest
  cases a with
  | text s => exact pathTypes_literal s rest
  | texts l =>
    have hlist : Names (separated (l.map fun s => [.literal s])) (l.flatMap fun _ => []) :=
      names_separated fun s _ rest _ => pathTypes_literal s rest
    have hinner := hlist (.mark ']' :: rest) (by simp)
    rw [List.flatMap_eq_nil_iff.2 fun _ _ => rfl, pathTypes_mark] at hinner
    show pathTypes (.mark '&' :: .mark '[' ::
      (separated (l.map fun s => [.literal s]) ++ [.mark ']'] ++ rest)) = _
    rw [pathTypes_mark, pathTypes_mark, List.append_assoc]
    exact hinner
  | number n => exact pathTypes_number n.toNat rest
  | flag b => exact pathTypes_word _ hrest
  | member type name =>
    show type :: pathTypes (.word name :: rest) = _
    rw [pathTypes_word name hrest]
    rfl
  | made type function s =>
    show type :: pathTypes (.word function :: .mark '(' :: .literal s :: .mark ')' :: rest) = _
    rw [pathTypes_word function (by simp), pathTypes_mark, pathTypes_literal, pathTypes_mark]
    rfl

theorem MethodCall.names (m : MethodCall) : Names m.tokens m.types := by
  intro rest _
  have hargs := names_separated (fun a _ => Argument.names a) (l := m.args) (.mark ')' :: rest)
    (by simp)
  show pathTypes (.mark '.' :: .word m.method :: .mark '(' ::
    (separated (m.args.map Argument.tokens) ++ [.mark ')'] ++ rest)) = _
  rw [pathTypes_mark, pathTypes_word m.method (by simp), pathTypes_mark, List.append_assoc]
  rw [pathTypes_mark] at hargs
  exact hargs

/-- A method call starts with a dot, so none goes on with a path of the one before. -/
theorem head?_methods (ms : List MethodCall) :
    (ms.flatMap MethodCall.tokens).head? ≠ some (.mark ':') := by
  cases ms with
  | nil => simp
  | cons m ms => simp [MethodCall.tokens]

theorem pathTypes_methods (ms : List MethodCall) :
    pathTypes (ms.flatMap MethodCall.tokens) = ms.flatMap MethodCall.types := by
  induction ms with
  | nil => rfl
  | cons m ms ih =>
    rw [List.flatMap_cons, List.flatMap_cons, m.names _ (head?_methods ms), ih]

/-- What is written for a build call names the types of the arguments in its chain. -/
theorem pathTypes?_renderCall (c : BuildCall) :
    pathTypes? (renderCall c) = some ((chain c).flatMap MethodCall.types) := by
  rw [pathTypes?, renderCall, tokens?_of_named (isNamed_of_mem_chain c), Option.map_some,
    pathTypes_word _ (head?_methods _), pathTypes_methods]

theorem hasPath_renderCall_iff {type : String} {c : BuildCall} :
    HasPath type (renderCall c) ↔ type ∈ (chain c).flatMap MethodCall.types := by
  rw [HasPath, pathTypes?_renderCall]
  exact ⟨fun ⟨_, heq, hmem⟩ => Option.some.inj heq ▸ hmem, fun hmem => ⟨_, rfl, hmem⟩⟩

/-! ## What calls need and what they name -/

theorem types_columnMethods (name : String) (type : ColumnType) :
    (columnMethods name type).flatMap MethodCall.types = [] := by
  have htime (method : String) (p : UInt32) :
      (timeMethods method name p).flatMap MethodCall.types = [] := by
    unfold timeMethods
    split <;> rfl
  cases type with
  | dateTime p => exact htime _ p
  | timestamp p => exact htime _ p
  | time p => exact htime _ p
  | _ => rfl

theorem types_modifierMethod (m : Modifier) :
    (modifierMethod m).types = if givesDefault m then [defaultType] else [] := by
  cases m with
  | default value => cases value <;> rfl
  | _ => rfl

theorem types_onDeleteMethods (action : ReferentialAction) :
    (onDeleteMethods action).flatMap MethodCall.types =
      if action == .noAction then [actionType] else [] := by
  cases action <;> rfl

theorem types_onUpdateMethods (action : ReferentialAction) :
    (onUpdateMethods action).flatMap MethodCall.types =
      if action == .setNull || action == .noAction then [actionType] else [] := by
  cases action <;> rfl

/-- The types that a written call names are those that it needs by its parts. -/
theorem mem_types_chain_iff {type : String} {c : BuildCall} :
    type ∈ (chain c).flatMap MethodCall.types ↔
      type = defaultType ∧ usesDefault c = true ∨ type = actionType ∧ usesAction c = true := by
  -- Most calls name no types and need none.
  have hnone : ∀ {c : BuildCall}, (chain c).flatMap MethodCall.types = [] →
      usesDefault c = false → usesAction c = false →
      (type ∈ (chain c).flatMap MethodCall.types ↔
        type = defaultType ∧ usesDefault c = true ∨ type = actionType ∧ usesAction c = true) := by
    intro c htypes hdefault haction
    simp [htypes, hdefault, haction]
  cases c with
  | column name columnType modifiers =>
    have hmodifiers : type ∈ modifiers.flatMap (fun m => (modifierMethod m).types) ↔
        type = defaultType ∧ modifiers.any givesDefault = true := by
      simp only [List.mem_flatMap, types_modifierMethod, List.mem_ite_nil_right,
        List.mem_singleton, List.any_eq_true]
      exact ⟨fun ⟨m, hm, hgives, htype⟩ => ⟨htype, m, hm, hgives⟩,
        fun ⟨htype, m, hm, hgives⟩ => ⟨m, hm, hgives, htype⟩⟩
    rw [chain, List.flatMap_append, types_columnMethods, List.nil_append, List.flatMap_map,
      hmodifiers]
    exact (or_iff_left fun h => Bool.false_ne_true h.2).symm
  | foreign name columns table referenced onDelete onUpdate =>
    have hname : (name.toList.map fun n => MethodCall.mk "named" [.text n]).flatMap
        MethodCall.types = [] := by
      cases name <;> rfl
    have hactions : (chain (.foreign name columns table referenced onDelete onUpdate)).flatMap
        MethodCall.types = (if onDelete == .noAction then [actionType] else []) ++
          if onUpdate == .setNull || onUpdate == .noAction then [actionType] else [] := by
      rw [chain, List.flatMap_append, List.flatMap_append, List.flatMap_append, hname,
        types_onDeleteMethods, types_onUpdateMethods]
      rfl
    rw [hactions, usesAction, List.mem_append, List.mem_ite_nil_right, List.mem_ite_nil_right,
      List.mem_singleton, ← or_and_right, ← Bool.or_eq_true, and_comm]
    exact (or_iff_right fun h => Bool.false_ne_true h.2).symm
  | key form name => cases form <;> exact hnone rfl rfl rfl
  | index kind name columns => cases kind <;> cases name <;> exact hnone rfl rfl rfl
  | _ => exact hnone rfl rfl rfl

/-! ## The line of imports -/

/-- The identifiers in a text, in the order in which they stand. -/
def identifiers (cs : List Char) : List String :=
  ((pieces (fun c => !isWordPart c) cs).filter (· ≠ [])).map String.ofList

/-- Where the types of the schema module are. -/
def schemaPath : List Char := "use strata::schema::".toList

/-- The types that a line imports from the schema module, if it is one that does. -/
def importedTypes? (line : String) : Option (List String) :=
  if schemaPath.isPrefixOf line.toList then some (identifiers (line.toList.drop schemaPath.length))
  else none

/-- The line is read back as the types that it is written for. -/
theorem importedTypes?_importLine (a : Artifact) :
    importedTypes? a.importLine = some a.schemaImports := by
  rw [Artifact.importLine, Artifact.schemaImports]
  cases a.needs usesDefault <;> cases a.needs usesAction <;> decide +kernel

/-- Some call of either body is written with a path that starts with the name of a type. -/
def Artifact.HasPath (a : Artifact) (type : String) : Prop :=
  ∃ c ∈ a.up.calls ++ a.down.calls, Source.HasPath type (renderCall c)

theorem Artifact.needs_iff {a : Artifact} {uses : BuildCall → Bool} :
    a.needs uses = true ↔ ∃ c ∈ a.up.calls ++ a.down.calls, uses c = true := by
  simp [Artifact.needs, or_and_right, exists_or]

theorem Artifact.hasPath_iff {a : Artifact} {type : String} : a.HasPath type ↔
    type = defaultType ∧ a.needs usesDefault = true ∨
      type = actionType ∧ a.needs usesAction = true := by
  simp only [Artifact.HasPath, hasPath_renderCall_iff, mem_types_chain_iff, Artifact.needs_iff]
  constructor
  · rintro ⟨c, hc, ⟨htype, huses⟩ | ⟨htype, huses⟩⟩
    · exact .inl ⟨htype, c, hc, huses⟩
    · exact .inr ⟨htype, c, hc, huses⟩
  · rintro (⟨htype, c, hc, huses⟩ | ⟨htype, c, hc, huses⟩)
    · exact ⟨c, hc, .inl ⟨htype, huses⟩⟩
    · exact ⟨c, hc, .inr ⟨htype, huses⟩⟩

theorem Artifact.mem_schemaImports_iff {a : Artifact} {type : String} :
    type ∈ a.schemaImports ↔ type = "SchemaGateway" ∨ a.HasPath type := by
  rw [Artifact.hasPath_iff, Artifact.schemaImports, List.mem_append, List.mem_append,
    List.mem_ite_nil_right, List.mem_ite_nil_right, List.mem_singleton, List.mem_singleton,
    List.mem_singleton, or_comm, and_comm, and_comm (b := type = actionType)]

/-- The lines of an artifact in front of those that its calls are in. -/
theorem Artifact.render_eq (a : Artifact) :
    a.render = "//! " ++ a.summary ++ "\n\nuse strata::migration::Migration;\n" ++ a.importLine ++
      "\n" ++ closedText (a.lines.drop 4) := by
  have hlines : a.lines = ["//! " ++ a.summary, "", "use strata::migration::Migration;",
    a.importLine] ++ a.lines.drop 4 := rfl
  have hrender : a.render = closedText a.lines := rfl
  rw [hrender, hlines, closedText_append]
  exact String.toList_injective (by simp [closedText])

/-- The line that imports from the schema module, behind the summary and the import of the
migration, names the type of defaults exactly if some call of either body is written with a
path that starts with it, names the type of actions exactly if some call is written with a path
that starts with that, and always names the gateway. So besides the gateway it names exactly
the types that are used. -/
theorem imports_follow_paths (a : Artifact) :
    ∃ line rest imported,
      a.render = "//! " ++ a.summary ++ "\n\nuse strata::migration::Migration;\n" ++ line ++
        "\n" ++ rest ∧ '\n' ∉ line.toList ∧ importedTypes? line = some imported ∧
      ("DefaultValue" ∈ imported ↔ a.HasPath "DefaultValue") ∧
      ("ReferentialAction" ∈ imported ↔ a.HasPath "ReferentialAction") ∧
      "SchemaGateway" ∈ imported ∧
      ∀ type, type ∈ imported ↔ type = "SchemaGateway" ∨ a.HasPath type := by
  have honeLine := (linesAlike_importLine a).oneLine _ (List.mem_singleton_self _)
  refine ⟨a.importLine, _, _, a.render_eq, honeLine, importedTypes?_importLine a, ?_, ?_, ?_,
    fun type => Artifact.mem_schemaImports_iff⟩
  · exact Artifact.mem_schemaImports_iff.trans (or_iff_right (by decide))
  · exact Artifact.mem_schemaImports_iff.trans (or_iff_right (by decide))
  · exact Artifact.mem_schemaImports_iff.2 (.inl rfl)

/-- What a literal holds is no path. -/
example : pathTypes? (renderCall (.column "DefaultValue::Null" .text [.default .null,
    .comment "ReferentialAction::Cascade"])) = some ["DefaultValue"] := by decide +kernel

end SchemaMigration.Source
