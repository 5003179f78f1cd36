import SchemaMigration.Proofs.SourceParts
import SchemaMigration.Proofs.StructNames

/-
  Texts that stay in their places.

  The texts of an artifact, names of tables, columns, keys and options, defaults, values and
  comments, are written as literals, each inside its line. So the lines of the source are those
  that were written, its literals hold the texts, and its code is the same for all texts. The
  one text that is written as it is is the table's name in the summary on the first line, and a
  name with a line end gets out of it.

  Main statements: `confined_iff` and `source_confined_iff`.
-/
namespace SchemaMigration

/-! ## Texts of build calls -/

namespace Table

/-- The texts that a default is written with. -/
def DefaultValue.written : DefaultValue → List String
  | numeric literal => [literal]
  | string s => [s]
  | expression sql => [sql]
  | _ => []

def DefaultValue.mapTexts (f : String → String) : DefaultValue → DefaultValue
  | numeric literal => numeric (f literal)
  | string s => string (f s)
  | expression sql => expression (f sql)
  | d => d

/-- The texts that a type is written with. -/
def ColumnType.written : ColumnType → List String
  | enum values => values
  | _ => []

def ColumnType.mapTexts (f : String → String) : ColumnType → ColumnType
  | enum values => enum (values.map f)
  | t => t

/-- The texts that a modifier is written with. -/
def Modifier.written : Modifier → List String
  | default value => value.written
  | comment text => [text]
  | _ => []

def Modifier.mapTexts (f : String → String) : Modifier → Modifier
  | default value => default (value.mapTexts f)
  | comment text => comment (f text)
  | m => m

/-- The texts that a build call is written with, in the order in which they are written. The name
of a primary key is not among them. -/
def BuildCall.written : BuildCall → List String
  | key _ name => [name]
  | column name type modifiers => name :: type.written ++ modifiers.flatMap Modifier.written
  | timestamps => []
  | softDeletes => []
  | index .primary _ columns => columns
  | index _ name columns => name.toList ++ columns
  | foreign name columns table referenced _ _ => columns ++ referenced ++ [table] ++ name.toList
  | engine name => [name]
  | charset name => [name]
  | collation name => [name]
  | tableComment text => [text]

def BuildCall.mapTexts (f : String → String) : BuildCall → BuildCall
  | key form name => key form (f name)
  | column name type modifiers =>
    column (f name) (type.mapTexts f) (modifiers.map (Modifier.mapTexts f))
  | timestamps => timestamps
  | softDeletes => softDeletes
  | index kind name columns => index kind (name.map f) (columns.map f)
  | foreign name columns table referenced onDelete onUpdate =>
    foreign (name.map f) (columns.map f) (f table) (referenced.map f) onDelete onUpdate
  | engine name => engine (f name)
  | charset name => charset (f name)
  | collation name => collation (f name)
  | tableComment text => tableComment (f text)

end Table

namespace Source

open Text Table

/-! ## Texts of method calls -/

/-- The texts of an argument. -/
def Argument.written : Argument → List String
  | text s => [s]
  | texts l => l
  | made _ _ s => [s]
  | _ => []

def Argument.mapTexts (f : String → String) : Argument → Argument
  | text s => text (f s)
  | texts l => texts (l.map f)
  | made type function s => made type function (f s)
  | a => a

/-- The texts of a method call. -/
def MethodCall.written (m : MethodCall) : List String := m.args.flatMap Argument.written

def MethodCall.mapTexts (f : String → String) (m : MethodCall) : MethodCall :=
  { m with args := m.args.map (Argument.mapTexts f) }

section
variable (f : String → String)

theorem columnMethods_mapTexts (name : String) (type : ColumnType) :
    columnMethods (f name) (type.mapTexts f) =
      (columnMethods name type).map (MethodCall.mapTexts f) := by
  have htime (method : String) (p : UInt32) : timeMethods method (f name) p =
      (timeMethods method name p).map (MethodCall.mapTexts f) := by
    unfold timeMethods
    split <;> rfl
  cases type with
  | dateTime p => exact htime _ p
  | timestamp p => exact htime _ p
  | time p => exact htime _ p
  | _ => rfl

theorem modifierMethod_mapTexts (m : Modifier) :
    modifierMethod (m.mapTexts f) = (modifierMethod m).mapTexts f := by
  cases m with
  | default value => cases value <;> rfl
  | _ => rfl

/-- Other texts are written with the same methods. -/
theorem chain_mapTexts (c : BuildCall) :
    chain (c.mapTexts f) = (chain c).map (MethodCall.mapTexts f) := by
  cases c with
  | key form name => cases form <;> rfl
  | column name type modifiers =>
    show columnMethods (f name) (type.mapTexts f) ++
      (modifiers.map (Modifier.mapTexts f)).map modifierMethod = _
    rw [columnMethods_mapTexts, List.map_map, chain, List.map_append, List.map_map]
    exact congrArg (_ ++ ·) (List.map_congr_left fun m _ => modifierMethod_mapTexts f m)
  | index kind name columns => cases kind <;> cases name <;> rfl
  | foreign name columns table referenced onDelete onUpdate =>
    cases name <;> cases onDelete <;> cases onUpdate <;> rfl
  | _ => rfl

theorem givesDefault_mapTexts (m : Modifier) : givesDefault (m.mapTexts f) = givesDefault m := by
  cases m with
  | default value => cases value <;> rfl
  | _ => rfl

theorem usesDefault_mapTexts (c : BuildCall) : usesDefault (c.mapTexts f) = usesDefault c := by
  cases c with
  | column name type modifiers =>
    show (modifiers.map (Modifier.mapTexts f)).any givesDefault = modifiers.any givesDefault
    simp only [List.any_map, Function.comp_def, givesDefault_mapTexts]
  | _ => rfl

theorem usesAction_mapTexts (c : BuildCall) : usesAction (c.mapTexts f) = usesAction c := by
  cases c <;> rfl

end

theorem written_columnMethods (name : String) (type : ColumnType) :
    (columnMethods name type).flatMap MethodCall.written = name :: type.written := by
  have htime (method : String) (p : UInt32) :
      (timeMethods method name p).flatMap MethodCall.written = [name] := by
    unfold timeMethods
    split <;> rfl
  cases type with
  | dateTime p => exact htime _ p
  | timestamp p => exact htime _ p
  | time p => exact htime _ p
  | enum values => simp [columnMethods, MethodCall.written, Argument.written, ColumnType.written]
  | _ => rfl

theorem written_modifierMethod (m : Modifier) : (modifierMethod m).written = m.written := by
  cases m with
  | default value => cases value <;> rfl
  | _ => rfl

/-- The texts of the chain are those of the call. -/
theorem written_chain (c : BuildCall) : (chain c).flatMap MethodCall.written = c.written := by
  cases c with
  | key form name => cases form <;> rfl
  | column name type modifiers =>
    rw [chain, List.flatMap_append, written_columnMethods, List.flatMap_map]
    exact congrArg (_ ++ List.flatMap · modifiers) (funext written_modifierMethod)
  | index kind name columns =>
    cases kind <;> cases name <;> simp [chain, MethodCall.written, Argument.written, BuildCall.written]
  | foreign name columns table referenced onDelete onUpdate =>
    cases name <;> cases onDelete <;> cases onUpdate <;>
      simp [chain, MethodCall.written, Argument.written, BuildCall.written, onDeleteMethods,
        onUpdateMethods]
  | _ => rfl

/-! ## Method calls inside a line -/

theorem isInner_of_isWordPart {c : Char} (h : isWordPart c = true) : isInner c = true := by
  have hne : ∀ d, isWordPart d = false → c ≠ d := by
    rintro d hd rfl
    exact Bool.false_ne_true (hd.symm.trans h)
  have hbreak := hne '\n' rfl
  have hquote := hne '"' rfl
  have hslash := hne '/' rfl
  simp [isInner, hbreak, hquote, hslash]

theorem all_isInner_of_word {w : String} (h : w.toList.all isWordPart = true) :
    w.toList.all isInner = true :=
  List.all_eq_true.2 fun c hc => isInner_of_isWordPart (List.all_eq_true.1 h c hc)

theorem Inline.word {w : String} (h : IsWord w) : Inline w w [] :=
  code (all_isInner_of_word h.2.1)

theorem Inline.number (n : Nat) : Inline (natText n) (natText n) [] := by
  have hdigits : (natText n).toList.all isWordPart = true := by
    rw [natText, String.toList_ofList, List.all_eq_true]
    intro c hc
    rw [isWordPart, Char.isAlphanum, isDigit_of_mem_digits hc, Bool.or_true, Bool.true_or]
  exact code (all_isInner_of_word hdigits)

theorem Inline.path {w v : String} (hw : IsWord w) (hv : IsWord v) :
    Inline (w ++ "::" ++ v) (w ++ "::" ++ v) [] :=
  ((word hw).before (by decide)).append (word hv)

section
variable (f : String → String)

theorem Argument.inline {a : Argument} (h : a.IsNamed) :
    Inline a.render (a.mapTexts f).render a.written := by
  cases a with
  | text s => exact .literal s (f s)
  | texts l =>
    have hopen : Inline "&[" "&[" [] := .code (by decide)
    have hlist := Inline.separated (l := l) fun s _ => .literal s (f s)
    have hall := (hopen.append hlist).before (z := "]") (by decide)
    rw [List.flatMap_singleton'] at hall
    rw [mapTexts, render, render, literalList, literalList, List.map_map]
    exact hall
  | number n => exact .number n.toNat
  | flag b => cases b <;> exact .code (by decide)
  | member type name => exact .path h.1 h.2
  | made type function s =>
    have hopen := (Inline.path h.1 h.2).before (z := "(") (by decide)
    exact (hopen.append (.literal s (f s))).before (by decide)

theorem MethodCall.inline {m : MethodCall} (h : m.IsNamed) :
    Inline m.render (m.mapTexts f).render m.written := by
  have hdot : Inline "." "." [] := .code (by decide)
  have hopen := (hdot.append (.word h.1)).before (z := "(") (by decide)
  have hargs : Inline (String.intercalate ", " (m.args.map Argument.render))
      (String.intercalate ", " (m.args.map fun a => (a.mapTexts f).render)) m.written :=
    .separated fun a ha => Argument.inline f (h.2 a ha)
  rw [render, render, mapTexts, List.map_map]
  exact (hopen.append hargs).before (by decide)

/-- A build call is written inside a line. -/
theorem inline_renderCall (c : BuildCall) :
    Inline (renderCall c) (renderCall (c.mapTexts f)) c.written := by
  have htable : Inline "table" "table" [] := .code (by decide)
  have hmethods : Inline (String.join ((chain c).map MethodCall.render))
      (String.join ((chain c).map fun m => (m.mapTexts f).render))
      ((chain c).flatMap MethodCall.written) :=
    .joined fun m hm => MethodCall.inline f (isNamed_of_mem_chain c m hm)
  rw [written_chain] at hmethods
  rw [renderCall, renderCall, chain_mapTexts, List.map_map]
  exact htable.append hmethods

end

/-! ## Artifacts -/

/-- The texts that a body is written with. -/
def Body.written : Body → List String
  | create table calls => table :: calls.flatMap BuildCall.written
  | alter table calls => table :: calls.flatMap BuildCall.written
  | dropIfExists table => [table]

def Body.mapTexts (f : String → String) : Body → Body
  | create table calls => create (f table) (calls.map (BuildCall.mapTexts f))
  | alter table calls => alter (f table) (calls.map (BuildCall.mapTexts f))
  | dropIfExists table => dropIfExists (f table)

/-- The texts that an artifact is written with, but for its summary. -/
def Artifact.written (a : Artifact) : List String := a.up.written ++ a.down.written

/-- The artifact with other texts, but under the same name and with the same summary. -/
def Artifact.mapTexts (f : String → String) (a : Artifact) : Artifact :=
  { a with up := a.up.mapTexts f, down := a.down.mapTexts f }

/-- The number of lines of a body: one for each call, or for the example, and two around them. -/
def Body.lineCount : Body → Nat
  | create _ calls => 2 + max 1 calls.length
  | alter _ calls => 2 + max 1 calls.length
  | dropIfExists _ => 1

/-- The texts of an artifact stay in their places: the lines of its source are those that were
written, fifteen and those of the bodies, with the summary on the first; its literals hold the
texts; and the code around them is that of every artifact that differs in the texts and a summary
of one line. -/
structure Confined (a : Artifact) : Prop where
  lines : linesOf a.render = a.lines
  count : (linesOf a.render).length = 15 + a.up.lineCount + a.down.lineCount
  summary : (linesOf a.render).head? = some ("//! " ++ a.summary)
  texts : texts? a.render = some a.written
  code : ∀ f summary, '\n' ∉ summary.toList →
    code? { a.mapTexts f with summary }.render = code? a.render

theorem length_callbackLines (method table : String) (calls : List BuildCall) :
    (callbackLines method table calls).length = 2 + max 1 calls.length := by
  cases calls with
  | nil => rfl
  | cons c calls =>
    rw [callbackLines, if_neg (List.cons_ne_nil c calls)]
    simp only [List.length_append, List.length_map, List.length_cons, List.length_nil]
    omega

theorem Body.length_lines (b : Body) : b.lines.length = b.lineCount := by
  cases b with
  | create table calls => exact length_callbackLines _ table calls
  | alter table calls => exact length_callbackLines _ table calls
  | dropIfExists table => rfl

theorem Artifact.length_lines (a : Artifact) :
    a.lines.length = 15 + a.up.lineCount + a.down.lineCount := by
  simp only [lines, methodLines, List.length_append, List.length_cons, List.length_nil,
    Body.length_lines]
  omega

section
variable (f : String → String)

theorem linesAlike_callback {method : String} (h : method.toList.all isInner = true)
    (table : String) (calls : List BuildCall) :
    LinesAlike (callbackLines method table calls)
      (callbackLines method (f table) (calls.map (BuildCall.mapTexts f)))
      (table :: calls.flatMap BuildCall.written) := by
  have hschema : Inline "        schema." "        schema." [] := .code (by decide)
  have htable := ((hschema.append (.code h)).before (z := "(") (by decide)).append
    (.literal table (f table))
  have hclose : LinesAlike ["        \x7d)"] ["        \x7d)"] [] := .code (by decide)
  -- Without calls the callback holds a comment in their place.
  by_cases hempty : calls = []
  · have hopen := htable.before (z := ", |_table| \x7b") (by decide)
    have hcomment : LinesAlike [callIndent ++ "// table.string(\"name\", 255);"]
        [callIndent ++ "// table.string(\"name\", 255);"] [] :=
      .comment callIndent (l := " table.string(\"name\", 255);")
        (m := " table.string(\"name\", 255);") (by decide) (by decide) (by decide)
    subst hempty
    exact (LinesAlike.line hopen).append (hcomment.append hclose)
  · have hopen := htable.before (z := ", |table| \x7b") (by decide)
    have hindent : Inline callIndent callIndent [] := .code (by decide)
    have hcalls := LinesAlike.map (l := calls) fun c _ =>
      (hindent.append (inline_renderCall f c)).before (z := ";") (by decide)
    have hmapped : ¬calls.map (BuildCall.mapTexts f) = [] := by simpa using hempty
    rw [callbackLines, callbackLines, if_neg hempty, if_neg hmapped, List.map_map]
    have hall := ((LinesAlike.line hopen).append hcalls).append hclose
    rwa [List.append_nil] at hall

theorem Body.linesAlike (b : Body) : LinesAlike b.lines (b.mapTexts f).lines b.written := by
  cases b with
  | create table calls => exact linesAlike_callback f (by decide) table calls
  | alter table calls => exact linesAlike_callback f (by decide) table calls
  | dropIfExists table =>
    have hopen : Inline "        schema.drop_if_exists(" "        schema.drop_if_exists(" [] :=
      .code (by decide)
    exact .line ((hopen.append (.literal table (f table))).before (by decide))

theorem linesAlike_method (method : String) (h : method.toList.all isInner = true) (b : Body) :
    LinesAlike (methodLines method b) (methodLines method (b.mapTexts f)) b.written := by
  have hfn : Inline "    fn " "    fn " [] := .code (by decide)
  have hopen := (hfn.append (.code h)).before
    (z := "(&self, schema: &SchemaGateway<'_>) -> Result<(), StrataError> \x7b") (by decide)
  have hclose : LinesAlike ["    \x7d"] ["    \x7d"] [] := .code (by decide)
  have hall := ((LinesAlike.line hopen).append (b.linesAlike f)).append hclose
  rwa [List.append_nil] at hall

/-- Calls with other texts need the same types. -/
theorem importLine_mapTexts (a : Artifact) : (a.mapTexts f).importLine = a.importLine := by
  have hbody (b : Body) : (b.mapTexts f).calls = b.calls.map (BuildCall.mapTexts f) := by
    cases b <;> rfl
  have hneeds {uses : BuildCall → Bool} (h : ∀ c, uses (c.mapTexts f) = uses c) :
      (a.mapTexts f).needs uses = a.needs uses := by
    simp only [Artifact.needs, Artifact.mapTexts, List.any_cons, List.any_nil, hbody, List.any_map,
      Function.comp_def, h]
  rw [Artifact.importLine, Artifact.importLine, Artifact.schemaImports, Artifact.schemaImports,
    hneeds (usesDefault_mapTexts f), hneeds (usesAction_mapTexts f)]

end

theorem linesAlike_importLine (a : Artifact) : LinesAlike [a.importLine] [a.importLine] [] := by
  refine .line (.code ?_)
  rw [Artifact.importLine, Artifact.schemaImports]
  cases a.needs usesDefault <;> cases a.needs usesAction <;> decide

/-- With a struct of word characters, and summaries of one line, sources are alike if the
artifacts differ in texts and summaries only. -/
theorem Artifact.linesAlike (f : String → String) {a : Artifact} {summary : String}
    (hstruct : a.structName.toList.all isInner = true) (ha : '\n' ∉ a.summary.toList)
    (hsummary : '\n' ∉ summary.toList) :
    LinesAlike a.lines ({ a.mapTexts f with summary } : Artifact).lines a.written := by
  have hfirst : LinesAlike ["//! " ++ a.summary] ["//! " ++ summary] [] := by
    have hcomment := LinesAlike.comment "" (l := "! " ++ a.summary)
      (m := "! " ++ summary) rfl (by simpa using ha) (by simpa using hsummary)
    simpa [← String.append_assoc] using hcomment
  have himport : LinesAlike [a.importLine] [({ a.mapTexts f with summary } : Artifact).importLine]
      [] := by
    have hsame : ({ a.mapTexts f with summary } : Artifact).importLine = a.importLine :=
      importLine_mapTexts f a
    rw [hsame]
    exact linesAlike_importLine a
  -- The other lines are code in which no text of the artifact stands.
  have hhead : LinesAlike ["", "use strata::migration::Migration;"]
      ["", "use strata::migration::Migration;"] [] := .code (by decide)
  have huse : LinesAlike ["use strata::StrataError;", ""] ["use strata::StrataError;", ""] [] :=
    .code (by decide)
  have hpub : Inline "pub struct " "pub struct " [] := .code (by decide)
  have himpl : Inline "impl Migration for " "impl Migration for " [] := .code (by decide)
  have hdeclared := LinesAlike.line ((hpub.append (.code hstruct)).before (z := ";") (by decide))
  have hopen := LinesAlike.line ((himpl.append (.code hstruct)).before (z := " \x7b") (by decide))
  have hblank : LinesAlike [""] [""] [] := .code (by decide)
  have hup := linesAlike_method f "up" (by decide) a.up
  have hdown := linesAlike_method f "down" (by decide) a.down
  have hclose : LinesAlike ["\x7d"] ["\x7d"] [] := .code (by decide)
  have hbefore := hfirst.append (hhead.append (himport.append (huse.append (hdeclared.append
    (hblank.append hopen)))))
  have hall := (((hbefore.append hup).append hblank).append hdown).append hclose
  rw [List.append_nil, List.append_nil] at hall
  exact hall

/-- Only a summary with a line end gets out of its place. -/
theorem confined_iff {a : Artifact} (hstruct : a.structName.toList.all isInner = true) :
    Confined a ↔ '\n' ∉ a.summary.toList := by
  constructor
  · intro h
    have hlines := linesOf_closedText_iff.1 h.lines ("//! " ++ a.summary) List.mem_cons_self
    simpa using hlines
  · intro ha
    have halike (f : String → String) {summary : String} (hsummary : '\n' ∉ summary.toList) :=
      (Artifact.linesAlike f hstruct ha hsummary).alike.code?_eq
    have hlines : linesOf a.render = a.lines :=
      linesOf_closedText_iff.2 (Artifact.linesAlike id hstruct ha ha).oneLine
    exact
      { lines := hlines
        count := hlines ▸ a.length_lines
        summary := by
          rw [hlines]
          rfl
        texts := (halike id ha).2
        code := fun f _ hsummary => (halike f hsummary).1 }

end Source

/-! ## Generated artifacts -/

namespace Generation

open Text Source Catalog Migration Generator

theorem all_isInner_structName {name : String} (h : IsReduced name) :
    (structName name).toList.all isInner = true := by
  obtain ⟨c, cs, htext, hc, hcs⟩ := toList_structName h
  have hall : ∀ d ∈ c :: cs, d.isAlphanum = true :=
    List.forall_mem_cons.2 ⟨isAlphanum_of_isUpper hc, hcs⟩
  rw [htext]
  refine List.all_eq_true.2 fun d hd => isInner_of_isWordPart ?_
  rw [isWordPart, hall d hd, Bool.true_or]

/-- A table that is named by a reduced description has no line end in its name. -/
theorem not_mem_tableOf {name : String} (h : IsReduced name) : '\n' ∉ (tableOf name).toList := by
  have hname : '\n' ∉ name.toList := fun hmem => absurd (h.isNameChar _ hmem) (by decide)
  rw [tableOf]
  split
  · rw [String.toList_ofList]
    exact fun hmem => hname (List.mem_of_mem_drop (List.mem_of_mem_take hmem))
  · exact hname

/-- The texts of a scaffold and of an artifact that rebuilds a table stay in their places exactly
if the name of the table to alter or to rebuild has no line end. It is in the summary that such a
name gets out: with any summary of one line instead, all texts stay in their places. -/
theorem source_confined_iff {description name : String} (h : normalized description = .ok name) :
    (∀ target, Confined (scaffold name target) ↔ ∀ table ∈ target, '\n' ∉ table.toList) ∧
    (∀ s : Snapshot, Confined (Artifact.ofSnapshot (structName name) s) ↔
      '\n' ∉ s.table.toList) ∧
    ∀ summary : String, '\n' ∉ summary.toList →
      (∀ target, Confined { scaffold name target with summary }) ∧
      ∀ s : Snapshot, Confined { Artifact.ofSnapshot (structName name) s with summary } := by
  have hreduced := isReduced_of_normalized h
  have hstruct := all_isInner_structName hreduced
  have hscaffold (target : Option String) :
      (scaffold name target).structName.toList.all isInner = true := by
    cases target <;> exact hstruct
  refine ⟨fun target => ?_, fun s => ?_, fun summary hsummary => ⟨fun target => ?_, fun s => ?_⟩⟩
  · rw [confined_iff (hscaffold target)]
    cases target with
    | none =>
      have hsummary : (scaffold name none).summary = "Create the `" ++ tableOf name ++ "` table" := rfl
      rw [hsummary]
      simpa using not_mem_tableOf hreduced
    | some table =>
      have hsummary : (scaffold name (some table)).summary = "Alter the `" ++ table ++ "` table" := rfl
      rw [hsummary]
      simp
  · have hsummary : (Artifact.ofSnapshot (structName name) s).summary =
        "Create the `" ++ s.table ++ "` table, generated from the live schema" := rfl
    rw [confined_iff (a := Artifact.ofSnapshot (structName name) s) hstruct, hsummary]
    simp
  · exact (confined_iff (a := { scaffold name target with summary }) (hscaffold target)).2 hsummary
  · exact (confined_iff (a := { Artifact.ofSnapshot (structName name) s with summary })
      hstruct).2 hsummary

theorem source_confined_iff_quotes :
    normalized "Add \"x\"" = .ok "add_x" ∧ Confined (scaffold "add_x" (some "a\", \\b//")) := by
  have hnormalized : normalized "Add \"x\"" = .ok "add_x" := by decide +kernel
  exact ⟨hnormalized, ((source_confined_iff hnormalized).1 _).2 (by simp)⟩

/-- What follows a line end in the name of a table is a line of the source, of code and not of the
comment. -/
theorem summary_out_of_place :
    normalized "add x" = .ok "add_x" ∧
    ¬Confined (scaffold "add_x" (some "users\nstatic X: u8 = 0; //")) ∧
    (linesOf (scaffold "add_x" (some "users\nstatic X: u8 = 0; //")).render)[1]? =
      some "static X: u8 = 0; //` table" := by
  have hsecond : (linesOf (scaffold "add_x" (some "users\nstatic X: u8 = 0; //")).render)[1]? =
      some "static X: u8 = 0; //` table" := by
    have hfirst : "//! " ++ ("Alter the `" ++ "users\nstatic X: u8 = 0; //" ++ "` table") =
        "//! Alter the `users" ++ "\n" ++ "static X: u8 = 0; //` table" := by decide +kernel
    have hbreak := linesOf_closedText_break "//! Alter the `users"
      "static X: u8 = 0; //` table" (by decide) (by decide)
      (scaffold "add_x" (some "users\nstatic X: u8 = 0; //")).lines.tail
    rw [← hfirst] at hbreak
    exact congrArg (·[1]?) hbreak
  have hblank : (scaffold "add_x" (some "users\nstatic X: u8 = 0; //")).lines[1]? = some "" := rfl
  refine ⟨by decide +kernel, fun h => ?_, hsecond⟩
  rw [h.lines, hblank] at hsecond
  exact absurd hsecond (by decide)

end Generation

end SchemaMigration
