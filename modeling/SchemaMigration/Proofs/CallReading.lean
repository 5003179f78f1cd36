import SchemaMigration.Proofs.LiteralReading
import SchemaMigration.Source.Call

/-
  Chains of method calls read back.

  The text of a build call is cut into tokens and the tokens are read as a chain of
  method calls on `table`. The reader knows the form of a call and of its arguments, and
  no method by name. It takes blanks and line ends between any two tokens and a comma
  behind the last argument, though neither is written.

  Main statement: `readCall?_renderCall`.
-/
namespace SchemaMigration.Source

open Text Table

/-! ## Tokens -/

inductive Token where
  | word (s : String)
  | literal (s : String)
  | number (n : Nat)
  | mark (c : Char)
  deriving DecidableEq, Repr

/-- The characters of words and of numbers. -/
def isWordPart (c : Char) : Bool := c.isAlphanum || c == '_'

/-- The characters that are tokens by themselves. -/
def marks : List Char := ['.', ',', ':', '&', '(', ')', '[', ']']

/-- The token that a text starts with, and the rest. -/
def readToken? : List Char → Option (Token × List Char)
  | [] => none
  | c :: cs =>
    if c = '"' then
      (readText? 0 cs).map (Prod.map (fun text => .literal (String.ofList text)) id)
    else if isWordPart c then
      let run := (c :: cs).takeWhile isWordPart
      let rest := (c :: cs).dropWhile isWordPart
      if c.isDigit then (readDigits? run).map fun n => (.number n, rest)
      else some (.word (String.ofList run), rest)
    else if c ∈ marks then some (.mark c, cs)
    else none

/-- The tokens of a text. A number of characters is passed over at first. -/
def tokens? : Nat → List Char → Option (List Token)
  | _, [] => some []
  | n + 1, _ :: cs => tokens? n cs
  | 0, c :: cs =>
    if c.isWhitespace then tokens? 0 cs
    else match readToken? (c :: cs) with
      | some (t, rest) => (tokens? (cs.length - rest.length) cs).map (t :: ·)
      | none => none

/-! ## Calls -/

/-- The texts of a list up to its closing bracket, with the rest. -/
def readTexts? : List Token → Option (List String × List Token)
  | .mark ']' :: ts => some ([], ts)
  | .literal s :: .mark ',' :: ts => (readTexts? ts).map (Prod.map (List.cons s) id)
  | .literal s :: .mark ']' :: ts => some ([s], ts)
  | _ => none

/-- An argument, with the rest. -/
def readArgument? : List Token → Option (Argument × List Token)
  | .literal s :: ts => some (.text s, ts)
  | .mark '&' :: .mark '[' :: ts => (readTexts? ts).map (Prod.map .texts id)
  | .number n :: ts => if n < UInt32.size then some (.number (UInt32.ofNat n), ts) else none
  | .word type :: .mark ':' :: .mark ':' :: .word function :: .mark '(' :: .literal s ::
      .mark ')' :: ts => some (.made type function s, ts)
  | .word type :: .mark ':' :: .mark ':' :: .word name :: ts => some (.member type name, ts)
  | .word "true" :: ts => some (.flag true, ts)
  | .word "false" :: ts => some (.flag false, ts)
  | _ => none

/-- The arguments up to the closing parenthesis, with the rest. A number of tokens is
passed over at first. -/
def readArguments? : Nat → List Token → Option (List Argument × List Token)
  | _, [] => none
  | n + 1, _ :: ts => readArguments? n ts
  | 0, t :: ts =>
    if t = .mark ')' then some ([], ts)
    else match readArgument? (t :: ts) with
      | some (a, .mark ',' :: rest) =>
        (readArguments? (ts.length - rest.length) ts).map (Prod.map (List.cons a) id)
      | some (a, .mark ')' :: rest) => some ([a], rest)
      | _ => none

/-- A method call behind its dot, with the rest. -/
def readMethod? : List Token → Option (MethodCall × List Token)
  | .mark '.' :: .word method :: .mark '(' :: ts =>
    (readArguments? 0 ts).map (Prod.map (MethodCall.mk method) id)
  | _ => none

/-- The method calls of a chain. A number of tokens is passed over at first. -/
def readChain? : Nat → List Token → Option (List MethodCall)
  | _, [] => some []
  | n + 1, _ :: ts => readChain? n ts
  | 0, t :: ts =>
    match readMethod? (t :: ts) with
    | some (m, rest) => (readChain? (ts.length - rest.length) ts).map (m :: ·)
    | none => none

/-- A text as a chain of method calls on `table`. -/
def readCall? (s : String) : Option (List MethodCall) :=
  match tokens? 0 s.toList with
  | some (.word "table" :: ts) => readChain? 0 ts
  | _ => none

/-! ## Tokens read back -/

theorem tokens?_length (as cs : List Char) : tokens? as.length (as ++ cs) = tokens? 0 cs := by
  induction as with
  | nil => rfl
  | cons a as ih => exact ih

theorem tokens?_append {as cs : List Char} {t : Token} {ts : List Token}
    (hblank : ∀ c ∈ as.head?, c.isWhitespace = false) (hne : as ≠ [])
    (hread : readToken? (as ++ cs) = some (t, cs)) (h : tokens? 0 cs = some ts) :
    tokens? 0 (as ++ cs) = some (t :: ts) := by
  obtain ⟨c, as, rfl⟩ := List.exists_cons_of_ne_nil hne
  rw [List.cons_append] at hread ⊢
  have hskip : (as ++ cs).length - cs.length = as.length := by simp
  rw [tokens?, hblank c rfl, if_neg Bool.false_ne_true, hread]
  show (tokens? ((as ++ cs).length - cs.length) (as ++ cs)).map (t :: ·) = _
  rw [hskip, tokens?_length, h]
  rfl

theorem tokens?_blank {cs : List Char} : tokens? 0 (' ' :: cs) = tokens? 0 cs := rfl

theorem plain_of_mem_marks {c : Char} (hc : c ∈ marks) :
    c.isWhitespace = false ∧ c ≠ '"' ∧ isWordPart c = false := by
  have hall : marks.all (fun c => !c.isWhitespace && (c != '"' && !isWordPart c)) = true := by
    decide
  have h := List.all_eq_true.1 hall c hc
  rwa [Bool.and_eq_true, Bool.and_eq_true, Bool.not_eq_true', Bool.not_eq_true', bne_iff_ne] at h

theorem tokens?_mark {c : Char} (hc : c ∈ marks) {cs : List Char} {ts : List Token}
    (h : tokens? 0 cs = some ts) : tokens? 0 (c :: cs) = some (.mark c :: ts) := by
  obtain ⟨hblank, hquote, hword⟩ := plain_of_mem_marks hc
  have hread : readToken? ([c] ++ cs) = some (.mark c, cs) := by
    rw [List.singleton_append, readToken?, if_neg hquote, hword, if_neg Bool.false_ne_true,
      if_pos hc]
  exact tokens?_append (by rintro _ ⟨⟩; exact hblank) (List.cons_ne_nil _ _) hread h

theorem tokens?_quoted (text : List Char) {cs : List Char} {ts : List Token}
    (h : tokens? 0 cs = some ts) :
    tokens? 0 (quoted text ++ cs) = some (.literal (String.ofList text) :: ts) := by
  refine tokens?_append (by rintro _ ⟨⟩; decide) (List.cons_ne_nil _ _) ?_ h
  have happend : quoted text ++ cs = '"' :: (text.flatMap escaped ++ '"' :: cs) := by
    simp [quoted]
  rw [happend, readToken?, if_pos rfl, readText?_escapes]
  rfl

/-- What follows does not go on with a word. -/
def EndsWord (cs : List Char) : Prop := ∀ c ∈ cs.head?, isWordPart c = false

theorem readToken?_run {c : Char} {w cs : List Char} (hw : ∀ d ∈ c :: w, isWordPart d = true)
    (hcs : EndsWord cs) :
    readToken? (c :: w ++ cs) =
      if c.isDigit then (readDigits? (c :: w)).map fun n => (.number n, cs)
      else some (.word (String.ofList (c :: w)), cs) := by
  have hquote : c ≠ '"' := by
    rintro rfl
    exact absurd (hw _ List.mem_cons_self) (by decide)
  have hhead : cs.takeWhile isWordPart = [] ∧ cs.dropWhile isWordPart = cs := by
    cases cs with
    | nil => simp
    | cons d cs => simp [hcs d rfl]
  have htake : (c :: (w ++ cs)).takeWhile isWordPart = c :: w := by
    rw [← List.cons_append, List.takeWhile_append_of_pos hw, hhead.1, List.append_nil]
  have hdrop : (c :: (w ++ cs)).dropWhile isWordPart = cs := by
    rw [← List.cons_append, List.dropWhile_append_of_pos hw, hhead.2]
  rw [List.cons_append, readToken?, if_neg hquote, if_pos (hw c List.mem_cons_self), htake, hdrop]

theorem not_isWhitespace_of_isWordPart {c : Char} (h : isWordPart c = true) :
    c.isWhitespace = false := by
  cases hblank : c.isWhitespace with
  | false => rfl
  | true =>
    simp only [Char.isWhitespace, Bool.or_eq_true, decide_eq_true_eq] at hblank
    rcases hblank with ((rfl | rfl) | rfl) | rfl <;> exact absurd h (by decide)

/-- Words start with a letter or an underscore. -/
def IsWord (s : String) : Prop :=
  s ≠ "" ∧ s.toList.all isWordPart = true ∧ s.toList.head?.any Char.isDigit = false

instance (s : String) : Decidable (IsWord s) := inferInstanceAs (Decidable (_ ∧ _ ∧ _))

theorem tokens?_word {w : String} (hw : IsWord w) {cs : List Char} (hcs : EndsWord cs)
    {ts : List Token} (h : tokens? 0 cs = some ts) :
    tokens? 0 (w.toList ++ cs) = some (.word w :: ts) := by
  obtain ⟨hne, hparts, hfirst⟩ := hw
  obtain ⟨c, l, hl⟩ := List.exists_cons_of_ne_nil fun hnil => hne (String.toList_eq_nil_iff.1 hnil)
  have hstring : String.ofList (c :: l) = w := by rw [← hl, String.ofList_toList]
  rw [hl] at hparts hfirst ⊢
  replace hparts := List.all_eq_true.1 hparts
  replace hfirst : c.isDigit = false := hfirst
  refine tokens?_append ?_ (List.cons_ne_nil _ _) ?_ h
  · rintro _ ⟨⟩
    exact not_isWhitespace_of_isWordPart (hparts c List.mem_cons_self)
  · rw [readToken?_run hparts hcs, hfirst, if_neg Bool.false_ne_true, hstring]

theorem tokens?_digits (n : Nat) {cs : List Char} (hcs : EndsWord cs) {ts : List Token}
    (h : tokens? 0 cs = some ts) : tokens? 0 (digits n ++ cs) = some (.number n :: ts) := by
  have hne : digits n ≠ [] := Nat.toDigits_ne_nil
  obtain ⟨c, l, hl⟩ := List.exists_cons_of_ne_nil hne
  have hdigit : ∀ d ∈ c :: l, d.isDigit = true := fun d hd => isDigit_of_mem_digits (hl ▸ hd)
  have hparts : ∀ d ∈ c :: l, isWordPart d = true := fun d hd => by
    simp [isWordPart, Char.isAlphanum, hdigit d hd]
  have hread : readDigits? (c :: l) = some n := hl ▸ readDigits?_digits n
  rw [hl]
  refine tokens?_append ?_ (List.cons_ne_nil _ _) ?_ h
  · rintro _ ⟨⟩
    exact not_isWhitespace_of_isWordPart (hparts c List.mem_cons_self)
  · rw [readToken?_run hparts hcs, if_pos (hdigit c List.mem_cons_self), hread]
    rfl

/-! ## Tokens of calls -/

/-- Tokens with commas between. -/
def separated (parts : List (List Token)) : List Token := [.mark ','].intercalate parts

/-- The tokens that an argument is written with. -/
def Argument.tokens : Argument → List Token
  | text s => [.literal s]
  | texts l => .mark '&' :: .mark '[' :: (separated (l.map fun s => [.literal s]) ++ [.mark ']'])
  | number n => [.number n.toNat]
  | flag b => [.word (if b then "true" else "false")]
  | member type name => [.word type, .mark ':', .mark ':', .word name]
  | made type function s =>
    [.word type, .mark ':', .mark ':', .word function, .mark '(', .literal s, .mark ')']

/-- The tokens that a method call is written with. -/
def MethodCall.tokens (m : MethodCall) : List Token :=
  .mark '.' :: .word m.method :: .mark '(' ::
    (separated (m.args.map Argument.tokens) ++ [.mark ')'])

/-- The names in an argument are words. -/
def Argument.IsNamed : Argument → Prop
  | member type name => IsWord type ∧ IsWord name
  | made type function _ => IsWord type ∧ IsWord function
  | _ => True

/-- The names in a method call are words. -/
def MethodCall.IsNamed (m : MethodCall) : Prop := IsWord m.method ∧ ∀ a ∈ m.args, a.IsNamed

/-- A text is written for tokens, whatever follows that does not go on with a word. -/
def IsWritten (text : List Char) (as : List Token) : Prop :=
  ∀ cs ts, EndsWord cs → tokens? 0 cs = some ts → tokens? 0 (text ++ cs) = some (as ++ ts)

theorem endsWord_mark {c : Char} (hc : c ∈ marks) (cs : List Char) : EndsWord (c :: cs) := by
  rintro _ ⟨⟩
  exact (plain_of_mem_marks hc).2.2

namespace IsWritten

variable {text more : List Char} {as bs : List Token}

theorem nil : IsWritten [] [] := fun _ _ _ h => h

theorem mark {c : Char} (hc : c ∈ marks) (h : IsWritten text as) :
    IsWritten (c :: text) (.mark c :: as) :=
  fun cs ts hcs hts => tokens?_mark hc (h cs ts hcs hts)

theorem blank (h : IsWritten text as) : IsWritten (' ' :: text) as :=
  fun cs ts hcs hts => tokens?_blank.trans (h cs ts hcs hts)

theorem append (h : IsWritten text as) (hmore : EndsWord more) (h' : IsWritten more bs) :
    IsWritten (text ++ more) (as ++ bs) := by
  intro cs ts hcs hts
  have hends : EndsWord (more ++ cs) := by
    cases more with
    | nil => exact hcs
    | cons c more => exact hmore
  rw [List.append_assoc, List.append_assoc]
  exact h _ _ hends (h' cs ts hcs hts)

theorem word {w : String} (hw : IsWord w) : IsWritten w.toList [.word w] :=
  fun _ _ hcs hts => tokens?_word hw hcs hts

theorem number (n : Nat) : IsWritten (natText n).toList [.number n] := by
  intro cs ts hcs hts
  rw [natText, String.toList_ofList]
  exact tokens?_digits n hcs hts

theorem literal (s : String) : IsWritten (literal s).toList [.literal s] := by
  intro cs ts _ hts
  have h := tokens?_quoted s.toList hts
  rw [String.ofList_toList] at h
  rw [Source.literal, String.toList_ofList]
  exact h

/-- Parts with commas between are written for the tokens of the parts with commas between. -/
theorem separated {α : Type} {render : α → String} {toks : α → List Token} {l : List α}
    (h : ∀ a ∈ l, IsWritten (render a).toList (toks a)) :
    IsWritten (String.intercalate ", " (l.map render)).toList (separated (l.map toks)) := by
  rw [String.toList_intercalate, Source.separated]
  induction l with
  | nil => exact nil
  | cons a l ih =>
    have ha := h a List.mem_cons_self
    specialize ih fun b hb => h b (List.mem_cons_of_mem _ hb)
    cases l with
    | nil => simpa using ha
    | cons b l =>
      simp only [List.map_cons, List.intercalate_cons_cons, List.append_assoc] at ih ⊢
      exact ha.append (endsWord_mark (by decide) _) (mark (c := ',') (by decide) ih.blank)

end IsWritten

theorem IsWritten.path {w v : String} (hw : IsWord w) (hv : IsWord v) :
    IsWritten (w ++ "::" ++ v).toList [.word w, .mark ':', .mark ':', .word v] := by
  rw [String.toList_append, String.toList_append, List.append_assoc]
  exact (IsWritten.word hw).append (endsWord_mark (by decide) _)
    (.mark (c := ':') (by decide) (.mark (c := ':') (by decide) (.word hv)))

theorem Argument.isWritten {a : Argument} (ha : a.IsNamed) :
    IsWritten a.render.toList a.tokens := by
  cases a with
  | text s => exact .literal s
  | texts l =>
    have hlist := IsWritten.separated (l := l) fun s _ => .literal s
    have hclose := hlist.append (endsWord_mark (by decide) _) (.mark (c := ']') (by decide) .nil)
    have hrender : (texts l).render.toList =
        '&' :: '[' :: ((String.intercalate ", " (l.map literal)).toList ++ [']']) := by
      simp [render, literalList]
    rw [hrender]
    exact .mark (by decide) (.mark (by decide) hclose)
  | number n => exact .number n.toNat
  | flag b => cases b <;> exact .word (by decide)
  | member type name => exact .path ha.1 ha.2
  | made type function s =>
    have hclose := (IsWritten.literal s).append (endsWord_mark (by decide) _)
      (.mark (c := ')') (by decide) .nil)
    have hopen := IsWritten.mark (c := '(') (by decide) hclose
    -- A path, and what stands in the parentheses behind it.
    have hrender : (made type function s).render.toList =
        (type ++ "::" ++ function).toList ++ '(' :: ((literal s).toList ++ [')']) := by
      simp [render]
    rw [hrender]
    exact (IsWritten.path ha.1 ha.2).append (endsWord_mark (by decide) _) hopen

theorem MethodCall.toList_render (m : MethodCall) :
    m.render.toList = '.' :: (m.method.toList ++ '(' ::
      ((String.intercalate ", " (m.args.map Argument.render)).toList ++ [')'])) := by
  simp [render]

theorem MethodCall.isWritten {m : MethodCall} (hm : m.IsNamed) :
    IsWritten m.render.toList m.tokens := by
  have hargs := IsWritten.separated fun a ha => Argument.isWritten (hm.2 a ha)
  have hclose := hargs.append (endsWord_mark (by decide) _) (.mark (c := ')') (by decide) .nil)
  have hopen := (IsWritten.word hm.1).append (endsWord_mark (by decide) _)
    (.mark (c := '(') (by decide) hclose)
  rw [toList_render]
  exact .mark (c := '.') (by decide) hopen

/-- Method calls one after the other are written for the tokens of all. -/
theorem isWritten_methods {ms : List MethodCall} (hms : ∀ m ∈ ms, m.IsNamed) :
    EndsWord (String.join (ms.map MethodCall.render)).toList ∧
      IsWritten (String.join (ms.map MethodCall.render)).toList (ms.flatMap MethodCall.tokens) := by
  rw [String.toList_join, List.flatMap_map]
  induction ms with
  | nil => exact ⟨by rintro _ ⟨⟩, .nil⟩
  | cons m ms ih =>
    specialize ih fun n hn => hms n (List.mem_cons_of_mem _ hn)
    have hm := MethodCall.isWritten (hms m List.mem_cons_self)
    rw [List.flatMap_cons, List.flatMap_cons]
    refine ⟨?_, hm.append ih.1 ih.2⟩
    rw [MethodCall.toList_render]
    exact endsWord_mark (by decide) _

/-! ## Calls read back -/

theorem readTexts?_tokens (l : List String) (ts : List Token) :
    readTexts? (separated (l.map fun s => [.literal s]) ++ .mark ']' :: ts) = some (l, ts) := by
  induction l with
  | nil => rfl
  | cons s l ih =>
    cases l with
    | nil => rfl
    | cons t l =>
      show (readTexts? (separated ((t :: l).map fun s => [.literal s]) ++ .mark ']' :: ts)).map
        (Prod.map (List.cons s) id) = _
      rw [ih]
      rfl

theorem readArgument?_tokens (a : Argument) {c : Char} (hc : c = ',' ∨ c = ')') (ts : List Token) :
    readArgument? (a.tokens ++ .mark c :: ts) = some (a, .mark c :: ts) := by
  cases a with
  | text s => rfl
  | texts l =>
    show (readTexts? (separated (l.map fun s => [.literal s]) ++ [.mark ']'] ++ .mark c :: ts)).map
      (Prod.map Argument.texts id) = _
    rw [List.append_assoc, List.singleton_append, readTexts?_tokens]
    rfl
  | number n =>
    show (if n.toNat < UInt32.size then
      some (Argument.number (UInt32.ofNat n.toNat), Token.mark c :: ts) else none) = _
    rw [if_pos n.toNat_lt, UInt32.ofNat_toNat]
  | flag b => rcases hc with rfl | rfl <;> cases b <;> rfl
  | member type name => rcases hc with rfl | rfl <;> rfl
  | made type function s => rfl

theorem readArguments?_length (as ts : List Token) :
    readArguments? as.length (as ++ ts) = readArguments? 0 ts := by
  induction as with
  | nil => rfl
  | cons a as ih => exact ih

/-- An argument starts with a token that closes nothing. -/
theorem Argument.tokens_eq_cons (a : Argument) : ∃ t as, a.tokens = t :: as ∧ t ≠ .mark ')' := by
  cases a <;> exact ⟨_, _, rfl, by simp⟩

theorem readArguments?_last (a : Argument) (ts : List Token) :
    readArguments? 0 (a.tokens ++ .mark ')' :: ts) = some ([a], ts) := by
  have hread := readArgument?_tokens a (.inr rfl) ts
  obtain ⟨t, as, ht, hclose⟩ := a.tokens_eq_cons
  rw [ht, List.cons_append] at hread ⊢
  rw [readArguments?, if_neg hclose, hread]
  rfl

theorem readArguments?_comma (a : Argument) (ts : List Token) :
    readArguments? 0 (a.tokens ++ .mark ',' :: ts) =
      (readArguments? 0 ts).map (Prod.map (List.cons a) id) := by
  have hread := readArgument?_tokens a (.inl rfl) ts
  obtain ⟨t, as, ht, hclose⟩ := a.tokens_eq_cons
  have hskip : (as ++ Token.mark ',' :: ts).length - ts.length =
      (as ++ [Token.mark ',']).length := by
    simp only [List.length_append, List.length_cons, List.length_nil]
    omega
  have hpass := readArguments?_length (as ++ [Token.mark ',']) ts
  rw [List.append_assoc, List.singleton_append] at hpass
  rw [ht, List.cons_append] at hread ⊢
  rw [readArguments?, if_neg hclose, hread]
  show (readArguments? ((as ++ Token.mark ',' :: ts).length - ts.length) _).map _ = _
  rw [hskip, hpass]

theorem readArguments?_tokens (args : List Argument) (ts : List Token) :
    readArguments? 0 (separated (args.map Argument.tokens) ++ .mark ')' :: ts) =
      some (args, ts) := by
  induction args with
  | nil => rfl
  | cons a args ih =>
    cases args with
    | nil => simpa [separated] using readArguments?_last a ts
    | cons b args =>
      have hsplit : separated ((a :: b :: args).map Argument.tokens) ++ .mark ')' :: ts =
          a.tokens ++ .mark ',' :: (separated ((b :: args).map Argument.tokens) ++
            .mark ')' :: ts) := by
        simp [separated, List.intercalate_cons_cons]
      rw [hsplit, readArguments?_comma, ih]
      rfl

theorem readMethod?_tokens (m : MethodCall) (ts : List Token) :
    readMethod? (m.tokens ++ ts) = some (m, ts) := by
  show (readArguments? 0 (separated (m.args.map Argument.tokens) ++ [.mark ')'] ++ ts)).map
    (Prod.map (MethodCall.mk m.method) id) = _
  rw [List.append_assoc, List.singleton_append, readArguments?_tokens]
  rfl

theorem readChain?_length (as ts : List Token) :
    readChain? as.length (as ++ ts) = readChain? 0 ts := by
  induction as with
  | nil => rfl
  | cons a as ih => exact ih

theorem readChain?_method (m : MethodCall) (ts : List Token) :
    readChain? 0 (m.tokens ++ ts) = (readChain? 0 ts).map (m :: ·) := by
  have hread := readMethod?_tokens m ts
  obtain ⟨t, as, ht⟩ : ∃ t as, m.tokens = t :: as := ⟨_, _, rfl⟩
  have hskip : (as ++ ts).length - ts.length = as.length := by simp
  rw [ht, List.cons_append] at hread ⊢
  rw [readChain?, hread]
  show (readChain? ((as ++ ts).length - ts.length) (as ++ ts)).map _ = _
  rw [hskip, readChain?_length]

theorem readChain?_methods (ms : List MethodCall) :
    readChain? 0 (ms.flatMap MethodCall.tokens) = some ms := by
  induction ms with
  | nil => rfl
  | cons m ms ih =>
    rw [List.flatMap_cons, readChain?_method, ih]
    rfl

theorem tokens?_of_named {ms : List MethodCall} (hms : ∀ m ∈ ms, m.IsNamed) :
    tokens? 0 ("table" ++ String.join (ms.map MethodCall.render)).toList =
      some (.word "table" :: ms.flatMap MethodCall.tokens) := by
  obtain ⟨hends, hmethods⟩ := isWritten_methods hms
  have h := (IsWritten.word (w := "table") (by decide)).append hends hmethods
  simpa using h [] [] (by rintro _ ⟨⟩) rfl

theorem readCall?_of_named {ms : List MethodCall} (hms : ∀ m ∈ ms, m.IsNamed) :
    readCall? ("table" ++ String.join (ms.map MethodCall.render)) = some ms := by
  rw [readCall?, tokens?_of_named hms]
  exact readChain?_methods ms

/-! ## Build calls -/

theorem isNamed_of_mem_columnMethods (name : String) (type : ColumnType) :
    ∀ m ∈ columnMethods name type, m.IsNamed := by
  have htime : ∀ method, IsWord method → ∀ p, ∀ m ∈ timeMethods method name p, m.IsNamed := by
    intro method hmethod p m hm
    rcases List.mem_cons.1 hm with rfl | hm
    · exact ⟨hmethod, by simp [Argument.IsNamed]⟩
    · split at hm
      · exact absurd hm List.not_mem_nil
      · have hprecision : IsWord "precision" := by decide
        rw [List.mem_singleton.1 hm]
        exact ⟨hprecision, by simp [Argument.IsNamed]⟩
  cases type with
  | dateTime p => exact htime _ (by decide) p
  | timestamp p => exact htime _ (by decide) p
  | time p => exact htime _ (by decide) p
  | _ => simp +decide [columnMethods, MethodCall.IsNamed, Argument.IsNamed]

theorem isNamed_modifierMethod (x : Modifier) : (modifierMethod x).IsNamed := by
  cases x with
  | default value =>
    cases value <;>
      simp +decide [modifierMethod, defaultMethod, MethodCall.IsNamed, Argument.IsNamed]
  | _ => simp +decide [modifierMethod, MethodCall.IsNamed, Argument.IsNamed]

theorem isNamed_of_mem_foreign {name : Option String} {columns referenced : List String}
    {table : String} {onDelete onUpdate : ReferentialAction} :
    ∀ m ∈ chain (.foreign name columns table referenced onDelete onUpdate), m.IsNamed := by
  have hdelete : ∀ m ∈ onDeleteMethods onDelete, m.IsNamed := by
    cases onDelete <;> simp +decide [onDeleteMethods, MethodCall.IsNamed, Argument.IsNamed]
  have hupdate : ∀ m ∈ onUpdateMethods onUpdate, m.IsNamed := by
    cases onUpdate <;> simp +decide [onUpdateMethods, MethodCall.IsNamed, Argument.IsNamed]
  have hname : ∀ m ∈ name.toList.map (fun n => MethodCall.mk "named" [.text n]), m.IsNamed := by
    cases name <;> simp +decide [MethodCall.IsNamed, Argument.IsNamed]
  intro m hm
  simp only [chain, List.mem_append] at hm
  rcases hm with ((hm | hm) | hm) | hm
  · revert m
    simp +decide [MethodCall.IsNamed, Argument.IsNamed]
  · exact hname m hm
  · exact hdelete m hm
  · exact hupdate m hm

theorem isNamed_of_mem_chain (c : BuildCall) : ∀ m ∈ chain c, m.IsNamed := by
  cases c with
  | key form name => cases form <;> simp +decide [chain, MethodCall.IsNamed, Argument.IsNamed]
  | column name type modifiers =>
    intro m hm
    rcases List.mem_append.1 hm with hm | hm
    · exact isNamed_of_mem_columnMethods name type m hm
    · obtain ⟨x, -, rfl⟩ := List.mem_map.1 hm
      exact isNamed_modifierMethod x
  | index kind name columns =>
    cases kind <;> cases name <;> simp +decide [chain, MethodCall.IsNamed, Argument.IsNamed]
  | foreign => exact isNamed_of_mem_foreign
  | _ => simp +decide [chain, MethodCall.IsNamed, Argument.IsNamed]

/-- What is written for a build call reads back as its chain of methods. -/
theorem readCall?_renderCall (c : BuildCall) : readCall? (renderCall c) = some (chain c) :=
  readCall?_of_named (isNamed_of_mem_chain c)

/-- What the reader takes beyond what is written. -/
example : readCall? "table\n  . char ( \"\\x63\\u\x7b00_6F\x7dd\\\n  e\", 12, )" =
    some [⟨"char", [.text "code", .number 12]⟩] := by decide +kernel

end SchemaMigration.Source
