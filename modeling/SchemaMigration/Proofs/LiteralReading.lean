import SchemaMigration.Source.Literal
import SchemaMigration.Text.Cut
import SchemaMigration.Text.Hexadecimal

/-
  String literals read back.

  `readText?` reads a literal by the rules of the language that the source is written in,
  with all its escapes and not only those that are written: short ones, ASCII characters
  by two hexadecimal digits, characters by up to six digits between braces, and a
  backslash before a line end, which takes away the blanks that follow.

  Main statement: a text written as a literal reads back, and its literal ends where it
  was written to end.
-/
namespace SchemaMigration.Source

open Text

/-- The characters that a letter behind a backslash stands for. -/
def shortEscapes : List (Char × Char) :=
  [('n', '\n'), ('r', '\r'), ('t', '\t'), ('\\', '\\'), ('0', '\x00'), ('\'', '\''), ('"', '"')]

/-- The character of a number between braces, and the number of characters that it is
written with. The digits are one to six, with underscores anywhere but in front. -/
def ofBraces? : List Char → Option (Char × Nat)
  | '\x7b' :: cs => do
    let (body, _) ← cutAt (· == '\x7d') cs
    let ds := body.filter (· ≠ '_')
    let n ← readHex? ds
    if body.head? ≠ some '_' ∧ 1 ≤ ds.length ∧ ds.length ≤ 6 ∧ n.isValidChar then
      some (Char.ofNat n, body.length + 2)
    else none
  | _ => none

/-- The character that stands behind a backslash, and the number of characters that it is
written with. -/
def escapedChar? : List Char → Option (Char × Nat)
  | 'x' :: cs => do
    let n ← readHex? (cs.take 2)
    if 2 ≤ cs.length ∧ n < 0x80 then some (Char.ofNat n, 3) else none
  | 'u' :: cs => (ofBraces? cs).map fun cn => (cn.1, cn.2 + 1)
  | c :: _ => (shortEscapes.lookup c).map (·, 1)
  | [] => none

/-- Whether a text starts with a line end. -/
def startsLine : List Char → Bool
  | '\n' :: _ => true
  | '\r' :: '\n' :: _ => true
  | _ => false

/-- The text of a literal up to its closing quote, with the rest. A line end of two
characters counts as one. A number of characters is passed over at first. -/
def readText? : Nat → List Char → Option (List Char × List Char)
  | _, [] => none
  | n + 1, _ :: cs => readText? n cs
  | 0, c :: cs =>
    if c = '"' then some ([], cs)
    else if c = '\\' then
      if startsLine cs then readText? (cs.takeWhile Char.isWhitespace).length cs
      else match escapedChar? cs with
        | some (x, n) => (readText? n cs).map (Prod.map (List.cons x) id)
        | none => none
    else if c = '\r' then if startsLine cs then readText? 0 cs else none
    else (readText? 0 cs).map (Prod.map (List.cons c) id)

theorem readText?_length (as cs : List Char) : readText? as.length (as ++ cs) = readText? 0 cs := by
  induction as with
  | nil => rfl
  | cons a as ih => exact ih

/-! ## Escapes -/

theorem ne_of_mem_toDigits {n : Nat} {c : Char} (h : c ∈ Nat.toDigits 16 n) :
    c ≠ '_' ∧ c ≠ '\x7d' := by
  obtain ⟨d, hd, rfl⟩ := eq_digitChar_of_mem_toDigits h
  have hall : ∀ d : Fin 16, Nat.digitChar d ≠ '_' ∧ Nat.digitChar d ≠ '\x7d' := by decide
  exact hall ⟨d, hd⟩

theorem length_toDigits_char (c : Char) : (Nat.toDigits 16 c.toNat).length ≤ 6 := by
  have hvalid : c.toNat.isValidChar := c.valid
  rw [Nat.length_toDigits_le_iff (by decide) (by decide)]
  unfold Nat.isValidChar at hvalid
  omega

theorem ofBraces?_number (c : Char) (cs : List Char) :
    ofBraces? ('\x7b' :: (Nat.toDigits 16 c.toNat ++ '\x7d' :: cs)) =
      some (c, (Nat.toDigits 16 c.toNat).length + 2) := by
  have hcut : cutAt (· == '\x7d') (Nat.toDigits 16 c.toNat ++ '\x7d' :: cs) =
      some (Nat.toDigits 16 c.toNat, cs) :=
    cutAt_append_of_not (fun d hd => by simpa using (ne_of_mem_toDigits hd).2) (by decide)
  have hfilter : (Nat.toDigits 16 c.toNat).filter (· ≠ '_') = Nat.toDigits 16 c.toNat :=
    List.filter_eq_self.2 fun d hd => by simpa using (ne_of_mem_toDigits hd).1
  have hhead : (Nat.toDigits 16 c.toNat).head? ≠ some '_' := fun h =>
    (ne_of_mem_toDigits (List.mem_of_head? h)).1 rfl
  have hlength : 1 ≤ (Nat.toDigits 16 c.toNat).length := Nat.length_toDigits_pos
  have hvalid : c.toNat.isValidChar := c.valid
  simp only [ofBraces?, hcut, hfilter, readHex?_toDigits, Option.bind_eq_bind, Option.bind_some]
  rw [if_pos ⟨hhead, hlength, length_toDigits_char c, hvalid⟩, Char.ofNat_toNat]

theorem readText?_backslash {x : Char} {as cs : List Char}
    (hescape : escapedChar? (as ++ cs) = some (x, as.length))
    (hline : startsLine (as ++ cs) = false) :
    readText? 0 ('\\' :: (as ++ cs)) = (readText? 0 cs).map (Prod.map (List.cons x) id) := by
  rw [readText?, if_neg (by decide), if_pos rfl, hline, if_neg Bool.false_ne_true, hescape]
  exact congrArg (Option.map _) (readText?_length as cs)

theorem readText?_short {l x : Char} (h : (l, x) ∈ shortEscapes) (cs : List Char) :
    readText? 0 (['\\', l] ++ cs) = (readText? 0 cs).map (Prod.map (List.cons x) id) := by
  simp only [shortEscapes, List.mem_cons, Prod.mk.injEq, List.not_mem_nil, or_false] at h
  rcases h with ⟨rfl, rfl⟩ | ⟨rfl, rfl⟩ | ⟨rfl, rfl⟩ | ⟨rfl, rfl⟩ | ⟨rfl, rfl⟩ | ⟨rfl, rfl⟩ |
    ⟨rfl, rfl⟩ <;> rfl

theorem readText?_numbered (c : Char) (cs : List Char) :
    readText? 0 (numbered c ++ cs) = (readText? 0 cs).map (Prod.map (List.cons c) id) := by
  have happend : numbered c ++ cs =
      '\\' :: (('u' :: '\x7b' :: (Nat.toDigits 16 c.toNat ++ ['\x7d'])) ++ cs) := by
    simp [numbered]
  have hescape : escapedChar? (('u' :: '\x7b' :: (Nat.toDigits 16 c.toNat ++ ['\x7d'])) ++ cs) =
      some (c, (Nat.toDigits 16 c.toNat).length + 3) := by
    simp [escapedChar?, ofBraces?_number]
  rw [happend]
  exact readText?_backslash (by simpa using hescape) rfl

/-- What is written for a character is read as that character. -/
theorem readText?_escaped (c : Char) (cs : List Char) :
    readText? 0 (escaped c ++ cs) = (readText? 0 cs).map (Prod.map (List.cons c) id) := by
  unfold escaped
  split
  · next h =>
    subst h
    exact readText?_short (by decide) cs
  split
  · next h =>
    subst h
    exact readText?_short (by decide) cs
  split
  · next h =>
    subst h
    exact readText?_short (by decide) cs
  split
  · next h =>
    subst h
    exact readText?_short (by decide) cs
  split
  · next h =>
    subst h
    exact readText?_short (by decide) cs
  split
  · next h =>
    subst h
    exact readText?_short (by decide) cs
  split
  · exact readText?_numbered c cs
  · next hr _ hq hb _ =>
    -- a character that stands for itself neither ends the literal nor starts an escape
    rw [List.singleton_append, readText?, if_neg hq, if_neg hb, if_neg hr]

/-! ## Whole literals -/

theorem readText?_escapes (cs rest : List Char) :
    readText? 0 (cs.flatMap escaped ++ '"' :: rest) = some (cs, rest) := by
  induction cs with
  | nil => rfl
  | cons c cs ih =>
    rw [List.flatMap_cons, List.append_assoc, readText?_escaped, ih]
    rfl

end SchemaMigration.Source
