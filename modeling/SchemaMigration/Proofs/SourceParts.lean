import SchemaMigration.Proofs.CallReading

/-
  Source text in lines and in parts.

  Source text is cut into lines, and into parts: code, comments up to the ends of their lines,
  and string literals. Two texts are alike if they are read as the same code with literals at
  the same places, whatever the literals and the comments hold. What is written inside a line,
  code without quotes and literals of any texts, is alike for all texts and holds no line end.

  Main statements: `linesOf_closedText_iff`, `Inline.literal` and `LinesAlike.comment`.
-/
namespace SchemaMigration.Source

open Text

/-! ## Lines -/

/-- Lines as a text, each closed by a line end. -/
def closedText (ls : List String) : String := String.join (ls.map (· ++ "\n"))

/-- The lines of a text that closes the last one. -/
def linesOf (s : String) : List String :=
  (pieces (· == '\n') s.toList).dropLast.map String.ofList

theorem toList_closedText_cons (l : String) (ls : List String) :
    (closedText (l :: ls)).toList = l.toList ++ '\n' :: (closedText ls).toList := by
  simp [closedText]

theorem closedText_append (ls ms : List String) :
    closedText (ls ++ ms) = closedText ls ++ closedText ms := by
  simp [closedText]

theorem linesOf_closedText_cons {l : String} (h : '\n' ∉ l.toList) (ls : List String) :
    linesOf (closedText (l :: ls)) = l :: linesOf (closedText ls) := by
  rw [linesOf, linesOf, toList_closedText_cons,
    pieces_append_cons (beq_eq_false_of_not_mem h) rfl,
    List.dropLast_cons_of_ne_nil (pieces_ne_nil _ _), List.map_cons, String.ofList_toList]

/-- Lines are cut apart again exactly if none of them holds a line end. -/
theorem linesOf_closedText_iff {ls : List String} :
    linesOf (closedText ls) = ls ↔ ∀ l ∈ ls, '\n' ∉ l.toList := by
  constructor
  · intro h l hl hmem
    rw [← h] at hl
    obtain ⟨piece, hpiece, rfl⟩ := List.mem_map.1 hl
    rw [String.toList_ofList] at hmem
    have hcut := not_of_mem_pieces (List.dropLast_subset _ hpiece) '\n' hmem
    exact absurd hcut (by decide)
  · intro h
    induction ls with
    | nil => rfl
    | cons l ls ih =>
      obtain ⟨hl, hls⟩ := List.forall_mem_cons.1 h
      rw [linesOf_closedText_cons hl, ih hls]

/-- A line end inside a line makes two lines of it. -/
theorem linesOf_closedText_break (front back : String) (hfront : '\n' ∉ front.toList)
    (hback : '\n' ∉ back.toList) (ls : List String) :
    linesOf (closedText ((front ++ "\n" ++ back) :: ls)) =
      front :: back :: linesOf (closedText ls) := by
  have hclosed : closedText ((front ++ "\n" ++ back) :: ls) = closedText (front :: back :: ls) :=
    String.toList_injective (by simp [closedText])
  rw [hclosed, linesOf_closedText_cons hfront, linesOf_closedText_cons hback]

/-! ## Parts -/

/-- A part of source text: a character of the code, or a comment or literal as a whole. -/
inductive Part where
  | code (c : Char)
  | comment (text : String)
  | literal (text : String)
  deriving DecidableEq, Repr

/-- What a part is in the code: a literal is a place, and a comment is nothing. -/
def Part.place? : Part → Option (Option Char)
  | code c => some (some c)
  | comment _ => none
  | literal _ => some none

/-- The text of a literal. -/
def Part.text? : Part → Option String
  | literal text => some text
  | _ => none

/-- The parts of source text, of which the comments go to the ends of their lines and the literals
are neither raw nor of single characters. A number of characters is passed over at first. -/
def parts? : Nat → List Char → Option (List Part)
  | _, [] => some []
  | n + 1, _ :: cs => parts? n cs
  | 0, c :: cs =>
    if c = '"' then
      match readText? 0 cs with
      | some (text, rest) =>
        (parts? (cs.length - rest.length) cs).map (.literal (String.ofList text) :: ·)
      | none => none
    else if c = '/' then
      if cs.head? = some '/' then
        (parts? (cs.takeWhile (· ≠ '\n')).length cs).map
          (.comment (String.ofList (cs.takeWhile (· ≠ '\n'))) :: ·)
      else none
    else (parts? 0 cs).map (.code c :: ·)

/-- The code of source text, with the places of its literals. -/
def code? (s : String) : Option (List (Option Char)) :=
  (parts? 0 s.toList).map fun ps => ps.filterMap Part.place?

/-- The texts of the literals in source text. -/
def texts? (s : String) : Option (List String) :=
  (parts? 0 s.toList).map fun ps => ps.filterMap Part.text?

theorem parts?_length (as cs : List Char) : parts? as.length (as ++ cs) = parts? 0 cs := by
  induction as with
  | nil => rfl
  | cons a as ih => exact ih

/-- A text is read as parts, whatever follows. -/
def Reads (x : List Char) (qs : List Part) : Prop :=
  ∀ rest ps, parts? 0 rest = some ps → parts? 0 (x ++ rest) = some (qs ++ ps)

/-- Characters that stand in code inside a line, and start nothing else. -/
def isInner (c : Char) : Bool := c != '\n' && c != '"' && c != '/'

namespace Reads

theorem nil : Reads [] [] := fun _ _ h => h

theorem append {x y : List Char} {qs rs : List Part} (hx : Reads x qs) (hy : Reads y rs) :
    Reads (x ++ y) (qs ++ rs) := by
  intro rest ps h
  rw [List.append_assoc, List.append_assoc]
  exact hx _ _ (hy rest ps h)

theorem code {c : Char} (hquote : c ≠ '"') (hslash : c ≠ '/') : Reads [c] [.code c] := by
  intro rest ps h
  rw [List.singleton_append, parts?, if_neg hquote, if_neg hslash, h]
  rfl

theorem inner {x : List Char} (h : x.all isInner = true) : Reads x (x.map .code) := by
  induction x with
  | nil => exact nil
  | cons c x ih =>
    obtain ⟨hc, hx⟩ := Bool.and_eq_true_iff.1 h
    have hplain : (c ≠ '\n' ∧ c ≠ '"') ∧ c ≠ '/' := by
      simpa [isInner] using hc
    exact append (code hplain.1.2 hplain.2) (ih hx)

theorem literal (s : String) : Reads (literal s).toList [.literal s] := by
  intro rest ps h
  have hquoted : (Source.literal s).toList ++ rest =
      '"' :: (s.toList.flatMap escaped ++ '"' :: rest) := by
    simp [Source.literal, quoted]
  have hskip : (s.toList.flatMap escaped ++ '"' :: rest).length - rest.length =
      (s.toList.flatMap escaped ++ ['"']).length := by
    simp only [List.length_append, List.length_cons, List.length_nil]
    omega
  have hpass := parts?_length (s.toList.flatMap escaped ++ ['"']) rest
  rw [List.append_assoc, List.singleton_append] at hpass
  rw [hquoted, parts?, if_pos rfl, readText?_escapes]
  simp only [hskip, hpass, h, String.ofList_toList]
  rfl

/-- A comment goes on to the end of its line. -/
theorem comment {x : List Char} (h : '\n' ∉ x) :
    Reads ('/' :: '/' :: x ++ ['\n']) [.comment (String.ofList ('/' :: x)), .code '\n'] := by
  intro rest ps hrest
  have htake : ('/' :: x ++ '\n' :: rest).takeWhile (· ≠ '\n') = '/' :: x := by
    rw [List.takeWhile_append_of_pos fun c hc => ?_]
    · simp
    · rcases List.mem_cons.1 hc with rfl | hc
      · rfl
      · exact decide_eq_true fun heq => h (heq ▸ hc)
  have hpass := parts?_length ('/' :: x) ('\n' :: rest)
  have happend : ('/' :: '/' :: x ++ ['\n']) ++ rest = '/' :: ('/' :: x ++ '\n' :: rest) := by simp
  have hend := code (c := '\n') (by decide) (by decide) rest ps hrest
  rw [List.singleton_append] at hend
  have hslash : ('/' :: x ++ '\n' :: rest).head? = some '/' := rfl
  rw [happend, parts?, if_neg (by decide), if_pos rfl, if_pos hslash, htake, hpass, hend]
  rfl

end Reads

/-! ## Texts that are alike -/

/-- Two texts are read as the same code, and the literals of the first hold given texts. -/
def ReadAlike (x y : List Char) (ts : List String) : Prop :=
  ∃ qs rs, Reads x qs ∧ Reads y rs ∧
    rs.filterMap Part.place? = qs.filterMap Part.place? ∧ qs.filterMap Part.text? = ts

theorem ReadAlike.append {x y x' y' : List Char} {ts ts' : List String} (h : ReadAlike x y ts)
    (h' : ReadAlike x' y' ts') : ReadAlike (x ++ x') (y ++ y') (ts ++ ts') := by
  obtain ⟨qs, rs, hx, hy, hcode, htexts⟩ := h
  obtain ⟨qs', rs', hx', hy', hcode', htexts'⟩ := h'
  refine ⟨qs ++ qs', rs ++ rs', hx.append hx', hy.append hy', ?_, ?_⟩
  · rw [List.filterMap_append, List.filterMap_append, hcode, hcode']
  · rw [List.filterMap_append, htexts, htexts']

theorem ReadAlike.same {x : List Char} {qs : List Part} (h : Reads x qs)
    (htexts : qs.filterMap Part.text? = []) : ReadAlike x x [] := ⟨qs, qs, h, h, rfl, htexts⟩

/-- Whole texts that are alike have the same code. -/
theorem ReadAlike.code?_eq {s t : String} {ts : List String}
    (h : ReadAlike s.toList t.toList ts) : code? t = code? s ∧ texts? s = some ts := by
  obtain ⟨qs, rs, hs, ht, hcode, htexts⟩ := h
  have hs := hs [] [] rfl
  have ht := ht [] [] rfl
  rw [List.append_nil, List.append_nil] at hs ht
  rw [code?, code?, texts?, hs, ht, Option.map_some, Option.map_some, Option.map_some, hcode,
    htexts]
  exact ⟨rfl, rfl⟩

/-- Texts inside a line that are alike. -/
structure Inline (x y : String) (ts : List String) : Prop where
  oneLine : '\n' ∉ x.toList
  alike : ReadAlike x.toList y.toList ts

namespace Inline

variable {x y x' y' : String} {ts ts' : List String}

theorem append (h : Inline x y ts) (h' : Inline x' y' ts') :
    Inline (x ++ x') (y ++ y') (ts ++ ts') where
  oneLine := by
    rw [String.toList_append, List.mem_append, not_or]
    exact ⟨h.oneLine, h'.oneLine⟩
  alike := by
    rw [String.toList_append, String.toList_append]
    exact h.alike.append h'.alike

theorem code {x : String} (h : x.toList.all isInner = true) : Inline x x [] where
  oneLine hmem := absurd (List.all_eq_true.1 h _ hmem) (by decide)
  alike := by
    refine .same (.inner h) ?_
    rw [List.filterMap_map]
    exact List.filterMap_eq_nil_iff.2 fun _ _ => rfl

/-- Code behind. -/
theorem before (h : Inline x y ts) {z : String} (hz : z.toList.all isInner = true) :
    Inline (x ++ z) (y ++ z) ts := by
  have hall := h.append (code hz)
  rwa [List.append_nil] at hall

theorem not_mem_escaped (c : Char) : '\n' ∉ escaped c := by
  have hdigits : ∀ d : Fin 16, '\n' ≠ Nat.digitChar d := by decide
  have hnumbered : '\n' ∉ numbered c := by
    intro hmem
    rw [numbered, List.mem_append, List.mem_append] at hmem
    rcases hmem with (hmem | hmem) | hmem
    · exact absurd hmem (by decide)
    · obtain ⟨d, hd, heq⟩ := eq_digitChar_of_mem_toDigits hmem
      exact hdigits ⟨d, hd⟩ heq
    · exact absurd hmem (by decide)
  unfold escaped
  split
  · decide
  split
  · decide
  split
  · decide
  split
  · decide
  split
  · decide
  split
  · decide
  split
  · exact hnumbered
  · next hline _ _ _ => exact fun hmem => hline (List.mem_singleton.1 hmem).symm

/-- A literal stays inside its line and ends where it was written to end, whatever its text. -/
theorem literal (s t : String) : Inline (literal s) (literal t) [s] where
  oneLine := by
    have hescapes : '\n' ∉ s.toList.flatMap escaped := fun hmem =>
      let ⟨c, _, hc⟩ := List.mem_flatMap.1 hmem
      not_mem_escaped c hc
    simpa [Source.literal, quoted] using hescapes
  alike := ⟨_, _, .literal s, .literal t, rfl, rfl⟩

section
variable {α : Type} {render render' : α → String} {texts : α → List String} {l : List α}

/-- Parts with commas between. -/
theorem separated (h : ∀ a ∈ l, Inline (render a) (render' a) (texts a)) :
    Inline (String.intercalate ", " (l.map render)) (String.intercalate ", " (l.map render'))
      (l.flatMap texts) := by
  induction l with
  | nil => exact code rfl
  | cons a l ih =>
    obtain ⟨ha, hl⟩ := List.forall_mem_cons.1 h
    cases l with
    | nil => simpa using ha
    | cons b l =>
      have hall := (ha.before (z := ", ") (by decide)).append (ih hl)
      simpa [String.intercalate_cons_cons] using hall

/-- Parts one after the other. -/
theorem joined (h : ∀ a ∈ l, Inline (render a) (render' a) (texts a)) :
    Inline (String.join (l.map render)) (String.join (l.map render')) (l.flatMap texts) := by
  induction l with
  | nil => exact code rfl
  | cons a l ih =>
    obtain ⟨ha, hl⟩ := List.forall_mem_cons.1 h
    have hall := ha.append (ih hl)
    simpa [String.join_cons] using hall

end

end Inline

/-! ## Lines that are alike -/

/-- Lines that are read alike, and of which the first hold no line ends. -/
structure LinesAlike (ls ms : List String) (ts : List String) : Prop where
  oneLine : ∀ l ∈ ls, '\n' ∉ l.toList
  alike : ReadAlike (closedText ls).toList (closedText ms).toList ts

namespace LinesAlike

theorem nil : LinesAlike [] [] [] where
  oneLine := by simp
  alike := .same .nil rfl

theorem append {ls ms ls' ms' ts ts' : List String} (h : LinesAlike ls ms ts)
    (h' : LinesAlike ls' ms' ts') : LinesAlike (ls ++ ls') (ms ++ ms') (ts ++ ts') where
  oneLine l hl := (List.mem_append.1 hl).elim (h.oneLine l) (h'.oneLine l)
  alike := by
    rw [closedText_append, closedText_append, String.toList_append, String.toList_append]
    exact h.alike.append h'.alike

theorem line {l m : String} {ts : List String} (h : Inline l m ts) : LinesAlike [l] [m] ts where
  oneLine := by simpa using h.oneLine
  alike := by
    have hend : ReadAlike ['\n'] ['\n'] [] := .same (.code (by decide) (by decide)) rfl
    have hline := h.alike.append hend
    rw [List.append_nil] at hline
    rw [toList_closedText_cons, toList_closedText_cons]
    exact hline

/-- Comments are alike if they stay inside their lines. -/
theorem comment (front : String) {l m : String} (hfront : front.toList.all isInner = true)
    (hl : '\n' ∉ l.toList) (hm : '\n' ∉ m.toList) :
    LinesAlike [front ++ "//" ++ l] [front ++ "//" ++ m] [] where
  oneLine := by
    have hcode := (Inline.code hfront).oneLine
    simpa using And.intro hcode hl
  alike := by
    have hlist (l : String) : (closedText [front ++ "//" ++ l]).toList =
        front.toList ++ ('/' :: '/' :: l.toList ++ ['\n']) := by
      simp [closedText]
    have hcomment : ReadAlike ('/' :: '/' :: l.toList ++ ['\n']) ('/' :: '/' :: m.toList ++ ['\n'])
        [] := ⟨_, _, .comment hl, .comment hm, rfl, rfl⟩
    rw [hlist, hlist]
    exact (Inline.code hfront).alike.append hcomment

/-- Lines of code only. -/
theorem code {ls : List String} (h : ls.all (·.toList.all isInner) = true) :
    LinesAlike ls ls [] := by
  induction ls with
  | nil => exact nil
  | cons l ls ih =>
    obtain ⟨hl, hls⟩ := Bool.and_eq_true_iff.1 h
    exact append (line (.code hl)) (ih hls)

theorem map {α : Type} {render render' : α → String} {texts : α → List String} {l : List α}
    (h : ∀ a ∈ l, Inline (render a) (render' a) (texts a)) :
    LinesAlike (l.map render) (l.map render') (l.flatMap texts) := by
  induction l with
  | nil => exact nil
  | cons a l ih =>
    obtain ⟨ha, hl⟩ := List.forall_mem_cons.1 h
    exact append (line ha) (ih hl)

end LinesAlike

end SchemaMigration.Source
